import EdgeRender.Unicode.Printable

/-! # Quoted texts

A text between double quotes as diagnostics and descriptions show it: quotes and
backslashes escaped, the common control characters by letter, and every other
character that does not show by its code point.
-/
namespace EdgeRender.Text.Quoted

open EdgeRender.Text EdgeRender.Unicode

def encodeChar (c : Char) : List Char :=
  if c = '"' then ['\\', '"']
  else if c = '\\' then ['\\', '\\']
  else if c = '\n' then ['\\', 'n']
  else if c = '\r' then ['\\', 'r']
  else if c = '\t' then ['\\', 't']
  else if c.val = 0 then ['\\', '0']
  else if isShown c then [c]
  else ['\\', 'u', '\x7b'] ++ hexDigits c.toNat ++ ['\x7d']

def quote (s : String) : String :=
  .ofList ('"' :: s.toList.flatMap encodeChar ++ ['"'])

end EdgeRender.Text.Quoted
