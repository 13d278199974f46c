/-!
# Percent encoding

An identifier enters a URL as one path segment or one query value. Letters, digits and the marks
`-`, `.`, `_` and `~` stand for themselves; every other character becomes one escape for each byte
of its UTF-8 form.
-/

namespace Provisioner.Text.Percent

set_option autoImplicit false

def isUnreserved (c : Char) : Bool :=
  c.isAlphanum || c == '-' || c == '.' || c == '_' || c == '~'

/-- The digits of a byte's escape, in capitals. -/
def digit (n : Nat) : Char :=
  if n < 10 then Char.ofNat (0x30 + n) else Char.ofNat (0x41 + (n - 10))

def escapeByte (byte : UInt8) : List Char :=
  ['%', digit (byte.toNat / 16), digit (byte.toNat % 16)]

def encodeChar (c : Char) : List Char :=
  if isUnreserved c then [c] else (String.utf8EncodeChar c).flatMap escapeByte

def encode (text : String) : String := String.ofList (text.toList.flatMap encodeChar)

end Provisioner.Text.Percent
