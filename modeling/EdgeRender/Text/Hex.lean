/-! # Hexadecimal digits -/
namespace EdgeRender.Text

/-- The digits of a number in base sixteen, with small letters and no leading zero. -/
def hexDigits (n : Nat) : List Char :=
  Nat.toDigits 16 n

def hexDigit (n : Nat) : Char :=
  if n < 10 then .ofNat (48 + n) else .ofNat (87 + n)

def hexDigitUpper (n : Nat) : Char :=
  if n < 10 then .ofNat (48 + n) else .ofNat (55 + n)

def hexValue? (c : Char) : Option Nat :=
  if '0' ≤ c && c ≤ '9' then some (c.toNat - 48)
  else if 'a' ≤ c && c ≤ 'f' then some (c.toNat - 87)
  else if 'A' ≤ c && c ≤ 'F' then some (c.toNat - 55)
  else none

end EdgeRender.Text
