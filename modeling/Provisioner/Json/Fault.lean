/-!
# Faults in JSON text

What is wrong with a text that is not JSON, and where: the number of bytes read when the fault was
seen. A message gives the place as a line and a column, both counted from the text's line feeds.
-/

namespace Provisioner.Json

set_option autoImplicit false

inductive Flaw where
  | endInList
  | endInObject
  | endInString
  | endInValue
  | missingColon
  | missingListSeparator
  | missingObjectSeparator
  | unknownWord
  | missingValue
  | badEscape
  | badNumber
  | numberTooLarge
  | controlCharacter
  | keyNotString
  | loneSurrogate
  | trailingComma
  | trailingCharacters
  | brokenSurrogatePair
  | tooDeep
deriving DecidableEq, Repr

def Flaw.text : Flaw → String
  | .endInList => "EOF while parsing a list"
  | .endInObject => "EOF while parsing an object"
  | .endInString => "EOF while parsing a string"
  | .endInValue => "EOF while parsing a value"
  | .missingColon => "expected `:`"
  | .missingListSeparator => "expected `,` or `]`"
  | .missingObjectSeparator => "expected `,` or `\x7d`"
  | .unknownWord => "expected ident"
  | .missingValue => "expected value"
  | .badEscape => "invalid escape"
  | .badNumber => "invalid number"
  | .numberTooLarge => "number out of range"
  | .controlCharacter => "control character (\\u0000-\\u001F) found while parsing a string"
  | .keyNotString => "key must be a string"
  | .loneSurrogate => "lone leading surrogate in hex escape"
  | .trailingComma => "trailing comma"
  | .trailingCharacters => "trailing characters"
  | .brokenSurrogatePair => "unexpected end of hex escape"
  | .tooDeep => "recursion limit exceeded"

structure Fault where
  flaw : Flaw
  offset : Nat
deriving DecidableEq, Repr

/-- The line and column reached after `offset` bytes. A column counts the bytes since the line's
start. -/
def place (offset : Nat) : List Char → Nat → Nat → Nat → Nat × Nat
  | [], seen, line, lineStart => (line, min offset seen - lineStart)
  | c :: rest, seen, line, lineStart =>
    if offset ≤ seen then (line, offset - lineStart)
    else if c = '\n' then place offset rest (seen + 1) (line + 1) (seen + 1)
    else place offset rest (seen + c.utf8Size) line lineStart

def Fault.message (fault : Fault) (text : String) : String :=
  let (line, column) := place fault.offset text.toList 0 1 0
  fault.flaw.text ++ " at line " ++ toString line ++ " column " ++ toString column

end Provisioner.Json
