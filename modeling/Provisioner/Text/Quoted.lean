import Provisioner.Text.Hidden

/-!
# Quoted text

A text shown between double quotes inside a message. Quotes and backslashes are escaped, the usual
control characters have short escapes, and every other character without a drawing of its own is
written as its code point in braces.
-/

namespace Provisioner.Text

set_option autoImplicit false

def hexDigits (n : Nat) : List Char := Nat.toDigits 16 n

def quotedChar (c : Char) : List Char :=
  match c with
  | '"' => ['\\', '"']
  | '\\' => ['\\', '\\']
  | '\n' => ['\\', 'n']
  | '\r' => ['\\', 'r']
  | '\t' => ['\\', 't']
  | c =>
    if c.toNat = 0 then ['\\', '0']
    else if isHidden c then
      ['\\', 'u', '\x7b'] ++ hexDigits c.toNat ++ ['\x7d']
    else [c]

def quoted (text : String) : String :=
  String.ofList (['"'] ++ text.toList.flatMap quotedChar ++ ['"'])

/-- A list of quoted texts between square brackets. -/
def quotedList (texts : List String) : String :=
  "[" ++ ", ".intercalate (texts.map quoted) ++ "]"

end Provisioner.Text
