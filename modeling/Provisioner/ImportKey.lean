import Provisioner.Error
import Provisioner.Text.Blank

/-!
# Import keys

Objects nested in a parent are named by the identifiers on the way to them, joined by slashes. A
kind names the segments of its key; parsing checks that each is there and not blank.
-/

namespace Provisioner

set_option autoImplicit false

def idSeparator : Char := '/'

/-- Joins identifiers into a composite one. -/
def compositeId (segments : List String) : String := "/".intercalate segments

/-- Cuts a text at every separator; the empty text is one empty piece. -/
def splitChars (separator : Char) : List Char → List (List Char)
  | [] => [[]]
  | c :: rest =>
    if c = separator then [] :: splitChars separator rest
    else
      match splitChars separator rest with
      | [] => [[c]]
      | piece :: pieces => (c :: piece) :: pieces

def idSegments (id : String) : List String :=
  (splitChars idSeparator id.toList).map String.ofList

structure ImportKey where
  names : List String
  segments : List String
  length_eq : segments.length = names.length

namespace ImportKey

/-- The documented form of a key. -/
def format (names : List String) : String :=
  "/".intercalate (names.map fun name => "<" ++ name ++ ">")

def segmentCount (count : Nat) : String :=
  toString count ++ " segment" ++ (if count = 1 then "" else "s")

def parseFault (raw : String) (names : List String) (found : Nat) : Failure :=
  .validation ("invalid import ID '" ++ raw ++ "': expected format " ++ format names ++ " ("
    ++ segmentCount names.length ++ " separated by '/'), got " ++ segmentCount found)

def parse (raw : String) (names : List String) : Except Error ImportKey :=
  let segments := idSegments raw
  if accepted : segments.length = names.length ∧ ¬segments.any Text.isBlank then
    .ok ⟨names, segments, accepted.1⟩
  else refuse (parseFault raw names segments.length)

/-- The segment with a name, if the key format has one. -/
def segment? (key : ImportKey) (name : String) : Option String :=
  (key.names.zip key.segments).lookup name

def segment (key : ImportKey) (name : String) : String := (key.segment? name).getD ""

/-- The last segment, which names the object itself. -/
def leaf (key : ImportKey) : String := key.segments.getLast?.getD ""

def toId (key : ImportKey) : String := compositeId key.segments

end ImportKey

end Provisioner
