import Provisioner.Kinds.Connector
import Provisioner.Kinds.Environment
import Provisioner.Kinds.FlinkComputePool
import Provisioner.Kinds.KafkaCluster
import Provisioner.Kinds.KafkaTopic
import Provisioner.Kinds.Network
import Provisioner.Kinds.ServiceAccount
import Provisioner.Lifecycle
import Provisioner.Schema.Encoding

/-!
# The provider

What a host drives: it asks for schemas, configures the provider once, plans, and runs transitions
by the name of a kind. A lookup reads an existing object through a schema of its own. After a stop
no operation sends anything.
-/

namespace Provisioner

set_option autoImplicit false

open Http (Wire)

/-- Every kind, in the order of names. -/
def kinds : List (Kind Wire) :=
  [Connector.kind, Environment.kind, FlinkComputePool.kind, KafkaCluster.kind, KafkaTopic.kind,
    Network.kind, ServiceAccount.kind]

def kindNames : List String := kinds.map Kind.name

def resourceSchemas : List (String × Schema) := kinds.map fun kind => (kind.name, kind.schema)

/-- The kinds whose objects can be looked up. -/
def lookupSchemas : List (String × Schema) :=
  [(Environment.kind.name, Environment.lookupSchema),
    (KafkaCluster.kind.name, KafkaCluster.lookupSchema)]

/-- Which object a lookup asks for. -/
structure Query where
  id : String
  environment : List Reference
deriving DecidableEq, Repr

namespace Query

def decode : Decoder Query :=
  Decoder.record "Lookup"
    (Query.mk <$> Fields.required "id" Decoder.text
      <*> Fields.defaulted "environment" [] (Decoder.list (Reference.decodeAs "IdRef")))

/-- The import key of the object. -/
def key (query : Query) : String :=
  match single? query.environment with
  | some environment => compositeId [environment.id, query.id]
  | none => query.id

end Query

/-- The import key that a lookup amounts to. -/
def lookupKey (type : String) (config : Json) : Except Error String :=
  match lookupSchemas.lookup type with
  | none => refuse (.unknownResource type)
  | some schema => do
    schema.ensureValid config
    let query ← Query.decode.fromState config
    .ok query.key

/-- The state of an existing object, with the name of its kind. -/
structure Imported where
  type : String
  state : Json

def Imported.encode (i : Imported) : Json :=
  .obj [("resource_type", .str i.type), ("state", i.state)]

structure Provider where
  /-- Timing that takes the place of every kind's own. -/
  waits : Option WaitOptions := none
  /-- The environment variables that the provider sees. -/
  env : String → Option String := fun _ => none
  /-- There once the provider is configured. -/
  context : Option Context := none
  stopped : Bool := false

namespace Provider

variable {α : Type}

def lifecycle (p : Provider) (kind : Kind Wire) : Lifecycle Wire :=
  { kind, waits := fun _ => p.waits }

def lifecycle? (p : Provider) (type : String) : Option (Lifecycle Wire) :=
  (kinds.find? fun kind => kind.name == type).map p.lifecycle

def unconfigured : Failure := .configuration "the provider has not been configured"

def configuredContext (p : Provider) : Except Error Context :=
  match p.context with
  | some context => .ok context
  | none => refuse unconfigured

/-- One line about the provider, for logs. -/
def summary (p : Provider) : String :=
  "ConfluentProvider \x7b resources: " ++ Text.quotedList kindNames ++ ", configured: "
    ++ (if p.context.isSome then "true" else "false") ++ " \x7d"

/-- All schemas of the provider. -/
def schemas : Json :=
  let encodeAll := fun (entries : List (String × Schema)) =>
    Json.obj (entries.map fun entry => (entry.1, entry.2.encode))
  .obj [
    ("data_sources", encodeAll lookupSchemas),
    ("provider", Configuration.schema.encode),
    ("resources", encodeAll resourceSchemas)]

def readConfiguration (p : Provider) (config : Json) : Except Error Configuration :=
  (Configuration.ofJson config).map fun c => c.withFallback p.env

def validateConfiguration (p : Provider) (config : Json) : List Diagnostic :=
  let diagnostics := Configuration.schema.validate config
  if diagnostics.isEmpty then
    match (p.readConfiguration config).bind Configuration.validate with
    | .ok _ => []
    | .error error => [error.diagnostic]
  else diagnostics

def alreadyConfigured : Diagnostic :=
  (Diagnostic.warning "The provider is already configured").withDetail
    ("The configuration is fixed after the first configure call; the new one was ignored")

/-- The first accepted configuration is kept for good. -/
def configure (p : Provider) (config : Json) : List Diagnostic × Provider :=
  if p.context.isSome then ([alreadyConfigured], p)
  else
    match (p.readConfiguration config).bind Context.ofConfiguration with
    | .ok context => ([], { p with context := some context })
    | .error error => ([error.diagnostic], p)

def stop (p : Provider) : Provider := { p with stopped := true }

def validate (p : Provider) (type : String) (config : Json) : Except Error (List Diagnostic) :=
  match p.lifecycle? type with
  | some l => .ok (l.validate config)
  | none => refuse (.unknownResource type)

/-- Plans need no configured provider. -/
def plan (p : Provider) (type : String) (prior : Option Json) (proposed : Json) :
    Except Error Plan :=
  match p.lifecycle? type with
  | some l => .ok (l.kind.schema.plan prior proposed)
  | none => refuse (.unknownResource type)

/-- Runs a transition of a kind. An unknown kind is reported before a missing configuration. -/
def transition (p : Provider) (type : String) (act : Lifecycle Wire → Context → Op Wire α) :
    Op Wire α :=
  match p.lifecycle? type, p.context with
  | none, _ => Op.fail (.unknownResource type)
  | some _, none => Op.fail unconfigured
  | some l, some context => act l context

def create (p : Provider) (type : String) (config : Json) : Op Wire Json :=
  p.transition type fun l context => l.create context config

/-- Nothing if the object is gone. -/
def read (p : Provider) (type : String) (state : Json) : Op Wire (Option Json) :=
  p.transition type fun l context => l.read context state

def update (p : Provider) (type : String) (prior config : Json) : Op Wire Json :=
  p.transition type fun l context => l.update context prior config

def delete (p : Provider) (type : String) (state : Json) : Op Wire Unit :=
  p.transition type fun l context => l.delete context state

def importKey (p : Provider) (type key : String) : Op Wire (List Imported) :=
  p.transition type fun l context => do
    let state ← l.importKey context key
    pure [⟨type, state⟩]

def lookUp (p : Provider) (type : String) (config : Json) : Op Wire Json := do
  let key ← Operation.ofExcept (lookupKey type config)
  p.transition type fun l context => l.importKey context key

/-- The world an operation of the provider starts in. The host may ask to stop at a later time. -/
def world (p : Provider) (wire : Wire) (stopAt : Option Nat) : World Wire :=
  { stopAt := if p.stopped then some 0 else stopAt, peer := wire }

/-- The provider after an operation: a stop request that came during it stays. -/
def after (p : Provider) (w : World Wire) : Provider :=
  { p with stopped := p.stopped || w.isStopped }

end Provider

end Provisioner
