import Provisioner.Configuration

/-!
# Sessions

The context of one operation together with the credentials that all its requests carry, and the
calls that a kind of object is made of. A call that wants a value decodes the answer; an empty body
counts as null.
-/

namespace Provisioner

set_option autoImplicit false

open Http (Method Request Wire)

structure Session where
  context : Context
  credentials : Option Credentials

namespace Session

def request (session : Session) (method : Method) (path : String) (body : Option Json) :
    Request where
  method := method
  url := session.context.client.url path
  credentials := session.credentials
  body := body

def send (session : Session) (method : Method) (path : String) (body : Option Json) :
    Op Wire (Option Json) :=
  Http.send session.context.client.retry (session.request method path body)

def call {α : Type} (session : Session) (method : Method) (path : String) (body : Option Json)
    (decode : Decoder α) : Op Wire α := do
  let answer ← session.send method path body
  Operation.ofExcept (decode.fromAnswer (Json.option answer))

/-- A call whose answer does not matter beyond its success. -/
def tell (session : Session) (method : Method) (path : String) (body : Option Json) :
    Op Wire Unit := do
  let _ ← session.send method path body

def get {α : Type} (session : Session) (path : String) (decode : Decoder α) : Op Wire α :=
  session.call .get path none decode

def post {α : Type} (session : Session) (path : String) (body : Json) (decode : Decoder α) :
    Op Wire α :=
  session.call .post path (some body) decode

def patch (session : Session) (path : String) (body : Json) : Op Wire Unit :=
  session.tell .patch path (some body)

def delete (session : Session) (path : String) : Op Wire Unit := session.tell .delete path none

end Session

end Provisioner
