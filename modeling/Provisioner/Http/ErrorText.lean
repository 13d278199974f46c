import Provisioner.Json.Reader
import Provisioner.Text.Blank

/-!
# The server's error text

Finds the message in the body of a failed request. The platform's services use three forms; a body
of none of them is shown as it is, without the blanks around it.
-/

namespace Provisioner.Http

set_option autoImplicit false

/-- The text of one entry of an error list: its detail, or its title if there is no detail. -/
def entryText (entry : Json) : Option String :=
  match entry.get? "detail" with
  | some detail => detail.str?
  | none => (entry.get? "title").bind Json.str?

/-- The texts of an error list, joined; nothing if no entry has one. -/
def listText (body : Json) : Option String :=
  match (body.get? "errors").bind Json.arr? with
  | none => none
  | some entries =>
    let texts := entries.filterMap entryText
    if texts.isEmpty then none else some ("; ".intercalate texts)

def nestedText (body : Json) : Option String :=
  ((body.get? "error").bind fun error => error.get? "message").bind Json.str?

def plainText (body : Json) : Option String := (body.get? "message").bind Json.str?

def errorText (body : String) : String :=
  match Json.read body with
  | .error _ => Text.trim body
  | .ok value =>
    ((listText value).orElse fun _ => (nestedText value).orElse fun _ => plainText value).getD
      (Text.trim body)

end Provisioner.Http
