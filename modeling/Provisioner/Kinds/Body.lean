import Provisioner.Json.Decoder

/-!
# Bodies

Entries of request bodies, which leave out what has no value, and the parts that the answers for
several kinds have in common.
-/

namespace Provisioner

set_option autoImplicit false

/-- Some entries of a body, in key order. -/
abbrev BodyPart := List (String × Json)

namespace BodyPart

def present (name : String) (value : Option Json) : BodyPart :=
  (value.map fun value => (name, value)).toList

/-- Left out if it is empty. -/
def text (name value : String) : BodyPart :=
  if value.isEmpty then [] else [(name, .str value)]

/-- Left out if there are none. -/
def texts (name : String) (values : List String) : BodyPart :=
  if values.isEmpty then [] else [(name, .strings values)]

end BodyPart

/-- The name that the platform gives to an object in an answer's metadata. -/
def decodeMetadata : Decoder String :=
  Decoder.record "Metadata" (Fields.defaulted "resource_name" "" Decoder.text)

/-- Where an object is on its way to being usable. -/
structure PhaseStatus where
  phase : String
  errorCode : Option String
  errorMessage : Option String
deriving DecidableEq, Repr

namespace PhaseStatus

def decode : Decoder PhaseStatus :=
  Decoder.record "PhaseStatus"
    (PhaseStatus.mk <$> Fields.required "phase" Decoder.text
      <*> Fields.optional "error_code" Decoder.text
      <*> Fields.optional "error_message" Decoder.text)

/-- The server's own words where it has some. -/
def failureReason (status : PhaseStatus) : String :=
  match status.errorCode, status.errorMessage with
  | some code, some message => message ++ " (" ++ code ++ ")"
  | none, some message => message
  | _, none => "remote object entered phase " ++ status.phase

end PhaseStatus

end Provisioner
