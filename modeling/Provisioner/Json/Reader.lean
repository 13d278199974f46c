import Provisioner.Json.Basic
import Provisioner.Json.Fault

/-!
# Reading JSON text

The strict grammar: no comments, no trailing commas, no text after the value, no lone surrogates,
at most 127 nested lists and objects. Of two entries with the same key the later one counts. An
integer within the range of 64 bits, signed or unsigned, is an integer; a number with a point or an
exponent, a larger integer and `-0` are doubles.
-/

namespace Provisioner.Json

set_option autoImplicit false

/-- What is left of a text, and how many of its bytes have been read. -/
structure Cursor where
  rest : List Char
  offset : Nat

namespace Cursor

def ofText (text : String) : Cursor := ⟨text.toList, 0⟩

/-- Past `count` characters of one byte each. -/
def skip (c : Cursor) (count : Nat) : Cursor := ⟨c.rest.drop count, c.offset + count⟩

/-- The fault of the next character, or of the end of the text. -/
def unexpected (c : Cursor) (flaw : Flaw) : Fault :=
  ⟨flaw, match c.rest with
    | [] => c.offset
    | _ :: _ => c.offset + 1⟩

def isBlankByte (c : Char) : Bool := c == ' ' || c == '\n' || c == '\t' || c == '\r'

def skipBlank (c : Cursor) : Cursor := c.skip (c.rest.takeWhile isBlankByte).length

end Cursor

abbrev Read (α : Type) := Except Fault (α × Cursor)

def byteCount (chars : List Char) : Nat := chars.foldl (fun count c => count + c.utf8Size) 0

def hexValue (c : Char) : Option Nat :=
  if '0' ≤ c ∧ c ≤ '9' then some (c.toNat - 0x30)
  else if 'a' ≤ c ∧ c ≤ 'f' then some (c.toNat - 0x61 + 10)
  else if 'A' ≤ c ∧ c ≤ 'F' then some (c.toNat - 0x41 + 10)
  else none

def hexQuad (a b c d : Char) : Option Nat := do
  let w ← hexValue a
  let x ← hexValue b
  let y ← hexValue c
  let z ← hexValue d
  some (((w * 16 + x) * 16 + y) * 16 + z)

/-- The fault of four bytes, read at `offset`, that are not hexadecimal digits or not there. -/
def quadFault (rest : List Char) (offset : Nat) : Fault :=
  if 4 ≤ byteCount rest then ⟨.badEscape, offset + 4⟩ else ⟨.endInString, offset + byteCount rest⟩

def isLeadingSurrogate (n : Nat) : Bool := 0xD800 ≤ n && n ≤ 0xDBFF

def isTrailingSurrogate (n : Nat) : Bool := 0xDC00 ≤ n && n ≤ 0xDFFF

def simpleEscape (c : Char) : Option Char :=
  match c with
  | '"' => some '"'
  | '\\' => some '\\'
  | '/' => some '/'
  | 'b' => some '\x08'
  | 'f' => some '\x0c'
  | 'n' => some '\n'
  | 'r' => some '\r'
  | 't' => some '\t'
  | _ => none

/-- The rest of a string whose opening quote has been read, and the characters seen so far in
reverse. -/
def readString : List Char → Nat → List Char → Read String
  | [], offset, _ => .error ⟨.endInString, offset⟩
  | '"' :: rest, offset, seen => .ok (String.ofList seen.reverse, ⟨rest, offset + 1⟩)
  | ['\\'], offset, _ => .error ⟨.endInString, offset + 1⟩
  | '\\' :: 'u' :: a :: b :: c :: d :: rest, offset, seen =>
    match hexQuad a b c d with
    | none => .error (quadFault (a :: b :: c :: d :: rest) (offset + 2))
    | some unit =>
      if isTrailingSurrogate unit then .error ⟨.loneSurrogate, offset + 6⟩
      else if isLeadingSurrogate unit then
        match rest with
        | '\\' :: 'u' :: e :: f :: g :: h :: after =>
          match hexQuad e f g h with
          | none => .error (quadFault (e :: f :: g :: h :: after) (offset + 8))
          | some second =>
            if isTrailingSurrogate second then
              let code := 0x10000 + (unit - 0xD800) * 0x400 + (second - 0xDC00)
              readString after (offset + 12) (Char.ofNat code :: seen)
            else .error ⟨.loneSurrogate, offset + 12⟩
        | '\\' :: 'u' :: after => .error (quadFault after (offset + 8))
        | ['\\'] => .error ⟨.endInString, offset + 7⟩
        | '\\' :: _ => .error ⟨.brokenSurrogatePair, offset + 8⟩
        | [] => .error ⟨.endInString, offset + 6⟩
        | _ :: _ => .error ⟨.brokenSurrogatePair, offset + 7⟩
      else readString rest (offset + 6) (Char.ofNat unit :: seen)
  | '\\' :: 'u' :: rest, offset, _ => .error (quadFault rest (offset + 2))
  | '\\' :: c :: rest, offset, seen =>
    match simpleEscape c with
    | some meant => readString rest (offset + 2) (meant :: seen)
    | none => .error ⟨.badEscape, offset + 2⟩
  | c :: rest, offset, seen =>
    if c.toNat < 0x20 then .error ⟨.controlCharacter, offset + 1⟩
    else readString rest (offset + c.utf8Size) (c :: seen)

def digitValue (c : Char) : Nat := c.toNat - 0x30

/-- Appends digits to a significand as long as it stays below `2 ^ 64`: the new significand, how
many digits it took and how many are left over. -/
def absorb : List Char → Nat → Nat → Nat × Nat × Nat
  | [], significand, taken => (significand, taken, 0)
  | d :: rest, significand, taken =>
    if significand * 10 + digitValue d < UInt64.size then
      absorb rest (significand * 10 + digitValue d) (taken + 1)
    else (significand, taken, rest.length + 1)

def scaledNumber (negative : Bool) (significand : Nat) (power : Int) (c : Cursor) : Read Number :=
  match Double.ofDecimal? negative significand power with
  | some value => .ok (.double value, c)
  | none => .error ⟨.numberTooLarge, c.offset⟩

def exponentLimit : Nat := 2147483647

/-- The digits of an exponent. A positive one that passes the limit makes a number too large unless
its digits are all zero; a negative one makes it zero. -/
def readExponentDigits (negative : Bool) (significand : Nat) (power : Int) (minus : Bool) :
    List Char → Nat → Nat → Read Number
  | d :: rest, offset, exponent =>
    if d.isDigit then
      if exponent * 10 + digitValue d ≤ exponentLimit then
        readExponentDigits negative significand power minus rest (offset + 1)
          (exponent * 10 + digitValue d)
      else if significand ≠ 0 ∧ !minus then .error ⟨.numberTooLarge, offset + 1⟩
      else
        .ok (.double (if negative then Double.zero.neg else Double.zero),
          Cursor.skip ⟨rest, offset + 1⟩ (rest.takeWhile Char.isDigit).length)
    else
      scaledNumber negative significand (if minus then power - exponent else power + exponent)
        ⟨d :: rest, offset⟩
  | [], offset, exponent =>
    scaledNumber negative significand (if minus then power - exponent else power + exponent)
      ⟨[], offset⟩

/-- An exponent whose mark has been read. -/
def readExponent (negative : Bool) (significand : Nat) (power : Int) (c : Cursor) : Read Number :=
  let (minus, c) :=
    match c.rest with
    | '+' :: _ => (false, c.skip 1)
    | '-' :: _ => (true, c.skip 1)
    | _ => (false, c)
  match c.rest with
  | [] => .error ⟨.endInValue, c.offset⟩
  | d :: _ =>
    if d.isDigit then readExponentDigits negative significand power minus c.rest c.offset 0
    else .error ⟨.badNumber, c.offset + 1⟩

def finishNumber (negative : Bool) (significand : Nat) (power : Int) (c : Cursor) : Read Number :=
  match c.rest with
  | 'e' :: _ => readExponent negative significand power (c.skip 1)
  | 'E' :: _ => readExponent negative significand power (c.skip 1)
  | _ => scaledNumber negative significand power c

/-- The digits after a point that has been read. -/
def readFraction (negative : Bool) (significand : Nat) (power : Int) (c : Cursor) : Read Number :=
  let digits := c.rest.takeWhile Char.isDigit
  let (longer, taken, left) := absorb digits significand 0
  let after := c.skip digits.length
  if taken = 0 ∧ left = 0 then
    .error (c.unexpected (if c.rest.isEmpty then .endInValue else .badNumber))
  else finishNumber negative longer (power - taken) after

/-- A number whose sign has been read. -/
def readNumber (negative : Bool) (c : Cursor) : Read Number :=
  match c.rest with
  | [] => .error ⟨.endInValue, c.offset⟩
  | first :: second =>
    if !first.isDigit then .error ⟨.badNumber, c.offset + 1⟩
    else if first = '0' ∧ (second.head?.any Char.isDigit) then .error ⟨.badNumber, c.offset + 2⟩
    else
      let digits := c.rest.takeWhile Char.isDigit
      let (significand, _, left) := absorb digits 0 0
      let after := c.skip digits.length
      match after.rest with
      | '.' :: _ => readFraction negative significand left (after.skip 1)
      | 'e' :: _ => readExponent negative significand left (after.skip 1)
      | 'E' :: _ => readExponent negative significand left (after.skip 1)
      | _ =>
        if 0 < left then scaledNumber negative significand left after
        else if !negative then .ok (.integer significand, after)
        else if 0 < significand ∧ significand ≤ Nat.pow 2 63 then .ok (.integer (-significand), after)
        else scaledNumber true significand 0 after

/-- The rest of a word, of which the first letter has been read. -/
def readWord (value : Json) : List Char → List Char → Nat → Read Json
  | [], rest, offset => .ok (value, ⟨rest, offset⟩)
  | _ :: _, [], offset => .error ⟨.endInValue, offset⟩
  | w :: word, c :: rest, offset =>
    if c = w then readWord value word rest (offset + 1) else .error ⟨.unknownWord, offset + 1⟩

def readColon (c : Cursor) : Except Fault Cursor :=
  let c := c.skipBlank
  match c.rest with
  | ':' :: _ => .ok (c.skip 1)
  | [] => .error (c.unexpected .endInObject)
  | _ :: _ => .error (c.unexpected .missingColon)

mutual

/-- One value. `depth` is one more than the number of lists and objects that may still be opened;
every call uses one unit of `fuel`, and as every second call at least reads a character, twice the
length of the text is enough. -/
def readValue (fuel depth : Nat) (c : Cursor) : Except Fault (Json × Cursor) :=
  match fuel with
  | 0 => .error ⟨.tooDeep, c.offset⟩
  | fuel + 1 =>
    let c := c.skipBlank
    match c.rest with
    | [] => .error (c.unexpected .endInValue)
    | 'n' :: rest => readWord .null ['u', 'l', 'l'] rest (c.offset + 1)
    | 't' :: rest => readWord (.bool true) ['r', 'u', 'e'] rest (c.offset + 1)
    | 'f' :: rest => readWord (.bool false) ['a', 'l', 's', 'e'] rest (c.offset + 1)
    | '"' :: rest => do
      let (text, after) ← readString rest (c.offset + 1) []
      .ok (.str text, after)
    | '[' :: _ =>
      if depth ≤ 1 then .error (c.unexpected .tooDeep)
      else readItems fuel (depth - 1) (c.skip 1) []
    | '\x7b' :: _ =>
      if depth ≤ 1 then .error (c.unexpected .tooDeep)
      else readEntries fuel (depth - 1) (c.skip 1) true []
    | '-' :: _ => do
      let (value, after) ← readNumber true (c.skip 1)
      .ok (.num value, after)
    | first :: _ =>
      if first.isDigit then do
        let (value, after) ← readNumber false c
        .ok (.num value, after)
      else .error (c.unexpected .missingValue)

/-- The rest of a list whose items so far, in reverse, are given. -/
def readItems (fuel depth : Nat) (c : Cursor) (items : List Json) : Except Fault (Json × Cursor) :=
  match fuel with
  | 0 => .error ⟨.tooDeep, c.offset⟩
  | fuel + 1 =>
    let c := c.skipBlank
    match c.rest with
    | [] => .error (c.unexpected .endInList)
    | ']' :: _ => .ok (.arr items.reverse, c.skip 1)
    | next :: _ =>
      if items.isEmpty then do
        let (item, after) ← readValue fuel depth c
        readItems fuel depth after [item]
      else if next = ',' then
        let c := (c.skip 1).skipBlank
        match c.rest with
        | [] => .error (c.unexpected .endInValue)
        | ']' :: _ => .error (c.unexpected .trailingComma)
        | _ :: _ => do
          let (item, after) ← readValue fuel depth c
          readItems fuel depth after (item :: items)
      else .error (c.unexpected .missingListSeparator)

/-- The rest of an object with the entries read so far. -/
def readEntries (fuel depth : Nat) (c : Cursor) (first : Bool) (entries : List (String × Json)) :
    Except Fault (Json × Cursor) :=
  match fuel with
  | 0 => .error ⟨.tooDeep, c.offset⟩
  | fuel + 1 =>
    let c := c.skipBlank
    match c.rest with
    | [] => .error (c.unexpected .endInObject)
    | '\x7d' :: _ => .ok (.obj entries, c.skip 1)
    | next :: _ =>
      if first then
        if next = '"' then readEntry fuel depth (c.skip 1) entries
        else .error (c.unexpected .keyNotString)
      else if next = ',' then
        let c := (c.skip 1).skipBlank
        match c.rest with
        | [] => .error (c.unexpected .endInValue)
        | '"' :: _ => readEntry fuel depth (c.skip 1) entries
        | '\x7d' :: _ => .error (c.unexpected .trailingComma)
        | _ :: _ => .error (c.unexpected .keyNotString)
      else .error (c.unexpected .missingObjectSeparator)

/-- An entry whose key's opening quote has been read, and what follows it. -/
def readEntry (fuel depth : Nat) (c : Cursor) (entries : List (String × Json)) :
    Except Fault (Json × Cursor) :=
  match fuel with
  | 0 => .error ⟨.tooDeep, c.offset⟩
  | fuel + 1 => do
    let (key, afterKey) ← readString c.rest c.offset []
    let afterColon ← readColon afterKey
    let (value, after) ← readValue fuel depth afterColon
    readEntries fuel depth after false (Keyed.insert key value entries)

end

/-- The value that a whole text stands for. -/
def read (text : String) : Except Fault Json := do
  let start := Cursor.ofText text
  let (value, after) ← readValue (3 * start.rest.length + 3) 128 start
  let last := after.skipBlank
  if last.rest.isEmpty then .ok value else .error (last.unexpected .trailingCharacters)

end Provisioner.Json
