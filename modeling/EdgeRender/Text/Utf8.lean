/-! # UTF-8

Encoding of characters as bytes, and a decoder that reports where and how bytes
stop being well formed. The decoder refuses overlong forms, surrogates and code
points above U+10FFFF at the earliest byte that rules them out.
-/
namespace EdgeRender.Text.Utf8

def encode (s : List Char) : List UInt8 :=
  s.flatMap String.utf8EncodeChar

/-- Ill-formed bytes: how many good bytes come before them, and how many bytes the
bad sequence has. `none` means that the bytes end inside a sequence. -/
structure Fault where
  validUpTo : Nat
  length : Option Nat
  deriving DecidableEq, Repr

def Fault.message (f : Fault) : String :=
  match f.length with
  | some n => s!"invalid utf-8 sequence of {n} bytes from index {f.validUpTo}"
  | none => s!"incomplete utf-8 byte sequence from index {f.validUpTo}"

/-- What the bytes at hand begin with. -/
inductive Head where
  /-- A character, and the number of bytes after its first. -/
  | char (c : Char) (more : Nat)
  /-- A sequence that is already wrong, with its length. -/
  | bad (length : Nat)
  /-- A sequence that goes on after the last byte. -/
  | cut
  deriving DecidableEq, Repr

def isContinuation (b : UInt8) : Bool := 0x80 ≤ b && b ≤ 0xBF

/-- The low six bits of a continuation byte. -/
def payload (b : UInt8) : Nat := b.toNat % 64

/-- The second bytes that may follow `b` in a sequence of three or four bytes. -/
def secondAllowed (b second : UInt8) : Bool :=
  if b == 0xE0 then 0xA0 ≤ second && second ≤ 0xBF
  else if b == 0xED then 0x80 ≤ second && second ≤ 0x9F
  else if b == 0xF0 then 0x90 ≤ second && second ≤ 0xBF
  else if b == 0xF4 then 0x80 ≤ second && second ≤ 0x8F
  else isContinuation second

/-- Read the sequence that starts with the byte `b`. -/
def head (b : UInt8) (rest : List UInt8) : Head :=
  if b < 0x80 then .char (.ofNat b.toNat) 0
  else if 0xC2 ≤ b && b ≤ 0xDF then
    match rest with
    | [] => .cut
    | b₁ :: _ =>
      if isContinuation b₁ then .char (.ofNat (b.toNat % 32 * 64 + payload b₁)) 1 else .bad 1
  else if 0xE0 ≤ b && b ≤ 0xEF then
    match rest with
    | [] => .cut
    | b₁ :: rest =>
      if secondAllowed b b₁ then
        match rest with
        | [] => .cut
        | b₂ :: _ =>
          if isContinuation b₂ then
            .char (.ofNat ((b.toNat % 16 * 64 + payload b₁) * 64 + payload b₂)) 2
          else .bad 2
      else .bad 1
  else if 0xF0 ≤ b && b ≤ 0xF4 then
    match rest with
    | [] => .cut
    | b₁ :: rest =>
      if secondAllowed b b₁ then
        match rest with
        | [] => .cut
        | b₂ :: rest =>
          if isContinuation b₂ then
            match rest with
            | [] => .cut
            | b₃ :: _ =>
              if isContinuation b₃ then
                .char (.ofNat (((b.toNat % 8 * 64 + payload b₁) * 64 + payload b₂) * 64
                  + payload b₃)) 3
              else .bad 3
          else .bad 2
      else .bad 1
  else .bad 1

/-- Decode from a byte position on, skipping the bytes of a character already read. -/
def decodeFrom : Nat → Nat → List UInt8 → Except Fault (List Char)
  | _, _, [] => .ok []
  | index, skip + 1, _ :: rest => decodeFrom (index + 1) skip rest
  | index, 0, b :: rest =>
    match head b rest with
    | .char c more => (c :: ·) <$> decodeFrom (index + 1) more rest
    | .bad length => .error ⟨index, some length⟩
    | .cut => .error ⟨index, none⟩

def decode (bytes : List UInt8) : Except Fault (List Char) :=
  decodeFrom 0 0 bytes

end EdgeRender.Text.Utf8
