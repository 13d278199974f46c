import Provisioner.Decimal.Notation
import Provisioner.Json.Basic

/-!
# Compact JSON text

No blanks, entries in the order of the object, and only quotes, backslashes and control characters
escaped.
-/

namespace Provisioner.Json

set_option autoImplicit false

def hexDigit (n : Nat) : Char :=
  if n < 10 then Char.ofNat (0x30 + n) else Char.ofNat (0x61 + (n - 10))

def escapedChar (c : Char) : List Char :=
  if c = '"' then ['\\', '"']
  else if c = '\\' then ['\\', '\\']
  else if c.toNat = 0x8 then ['\\', 'b']
  else if c.toNat = 0xC then ['\\', 'f']
  else if c = '\n' then ['\\', 'n']
  else if c = '\r' then ['\\', 'r']
  else if c = '\t' then ['\\', 't']
  else if c.toNat < 0x20 then
    ['\\', 'u', '0', '0', hexDigit (c.toNat / 16), hexDigit (c.toNat % 16)]
  else [c]

def escaped (text : String) : List Char := ['"'] ++ text.toList.flatMap escapedChar ++ ['"']

def numberChars : Number → List Char
  | .integer value => (toString value).toList
  | .double value => value.text.toList

mutual

def chars : Json → List Char
  | .null => ['n', 'u', 'l', 'l']
  | .bool true => ['t', 'r', 'u', 'e']
  | .bool false => ['f', 'a', 'l', 's', 'e']
  | .num value => numberChars value
  | .str value => escaped value
  | .arr items => '[' :: itemChars items ++ [']']
  | .obj entries => '\x7b' :: entryChars entries ++ ['\x7d']

def itemChars : List Json → List Char
  | [] => []
  | [item] => item.chars
  | item :: next :: rest => item.chars ++ ',' :: itemChars (next :: rest)

def entryChars : List (String × Json) → List Char
  | [] => []
  | [(key, value)] => escaped key ++ ':' :: value.chars
  | (key, value) :: next :: rest =>
    escaped key ++ ':' :: value.chars ++ ',' :: entryChars (next :: rest)

end

def compact (value : Json) : String := String.ofList value.chars

end Provisioner.Json
