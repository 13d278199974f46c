import Provisioner.Http.Client
import Provisioner.Json.Decoder
import Provisioner.Schema.Basic

/-!
# The provider's configuration

The provider block, the environment variables that fill what it leaves out, the checks on it, and
the context that every operation receives. The context is built once and never changes.
-/

namespace Provisioner

set_option autoImplicit false

structure Configuration where
  cloudApiKey : Option String := none
  cloudApiSecret : Option String := none
  endpoint : Option String := none
  maxRetries : Option Nat := none
  kafkaId : Option String := none
  kafkaRestEndpoint : Option String := none
  kafkaApiKey : Option String := none
  kafkaApiSecret : Option String := none
  userAgentSuffix : Option String := none
deriving DecidableEq, Repr

namespace Configuration

def decode : Decoder Configuration :=
  Decoder.record "ProviderConfig"
    (Configuration.mk <$> Fields.optional "cloud_api_key" Decoder.text
      <*> Fields.optional "cloud_api_secret" Decoder.text
      <*> Fields.optional "endpoint" Decoder.text
      <*> Fields.optional "max_retries" Decoder.count32
      <*> Fields.optional "kafka_id" Decoder.text
      <*> Fields.optional "kafka_rest_endpoint" Decoder.text
      <*> Fields.optional "kafka_api_key" Decoder.text
      <*> Fields.optional "kafka_api_secret" Decoder.text
      <*> Fields.optional "user_agent_suffix" Decoder.text)

/-- Reads the provider block. No block at all is an empty one. -/
def ofJson (value : Json) : Except Error Configuration :=
  if value.isNull then .ok {}
  else
    match decode value with
    | .ok configuration => .ok configuration
    | .error fault => refuse (.configuration ("invalid provider block: " ++ fault.message))

/-- A variable counts only if it is not empty. -/
def filled (lookup : String → Option String) (value : Option String) (name : String) :
    Option String :=
  match value with
  | some text => some text
  | none => (lookup name).filter fun text => !text.isEmpty

/-- Fills what is not set from environment variables. -/
def withFallback (c : Configuration) (lookup : String → Option String) : Configuration :=
  { c with
    cloudApiKey := filled lookup c.cloudApiKey "CONFLUENT_CLOUD_API_KEY"
    cloudApiSecret := filled lookup c.cloudApiSecret "CONFLUENT_CLOUD_API_SECRET"
    endpoint := filled lookup c.endpoint "CONFLUENT_CLOUD_ENDPOINT"
    kafkaId := filled lookup c.kafkaId "KAFKA_ID"
    kafkaRestEndpoint := filled lookup c.kafkaRestEndpoint "KAFKA_REST_ENDPOINT"
    kafkaApiKey := filled lookup c.kafkaApiKey "KAFKA_API_KEY"
    kafkaApiSecret := filled lookup c.kafkaApiSecret "KAFKA_API_SECRET" }

/-- A key and its secret must be set together. -/
def checkPair (key secret : Option String) (keyName secretName : String) : Except Error Unit :=
  if key.isSome = secret.isSome then .ok ()
  else
    refuse (.configuration ("'" ++ keyName ++ "' and '" ++ secretName ++ "' must be set together"))

def checkUrl (name : String) (value : Option String) : Except Error Unit :=
  match value with
  | none => .ok ()
  | some url =>
    if Http.isAbsoluteUrl url then .ok ()
    else
      refuse (.configuration ("'" ++ name ++ "' must be an http(s) URL, got '" ++ url ++ "'"))

def validate (c : Configuration) : Except Error Unit := do
  checkPair c.cloudApiKey c.cloudApiSecret "cloud_api_key" "cloud_api_secret"
  checkPair c.kafkaApiKey c.kafkaApiSecret "kafka_api_key" "kafka_api_secret"
  checkUrl "endpoint" c.endpoint
  checkUrl "kafka_rest_endpoint" c.kafkaRestEndpoint

def schema : Schema where
  block := {
    attributes := [
      ("cloud_api_key", (Attribute.text .free).secret.described "Cloud API key"),
      ("cloud_api_secret", (Attribute.text .free).secret.described "Cloud API secret"),
      ("endpoint", (Attribute.text .free).described "Cloud API base URL"),
      ("kafka_api_key", (Attribute.text .free).secret),
      ("kafka_api_secret", (Attribute.text .free).secret),
      ("kafka_id", Attribute.text .free),
      ("kafka_rest_endpoint", Attribute.text .free),
      ("max_retries", (Attribute.integer .free).described "Retries for transient HTTP failures"),
      ("user_agent_suffix", Attribute.text .free)] }

end Configuration

/-- A key with its secret, if both are there. -/
def Credentials.ofPair? (key secret : Option String) : Option Credentials := do
  some ⟨← key, ← secret⟩

/-- What a log shows of credentials. -/
def Credentials.masked (c : Credentials) : String :=
  "Credentials \x7b key: " ++ Text.quoted c.key ++ ", secret: \"***\" \x7d"

/-- The Kafka cluster that topics belong to unless they name one themselves. -/
structure KafkaScope where
  clusterId : Option String
  restEndpoint : Option String
  credentials : Option Credentials
deriving DecidableEq, Repr

structure Context where
  client : Http.Client
  cloudCredentials : Option Credentials
  kafka : KafkaScope

namespace Context

def defaultEndpoint : String := "https://api.confluent.cloud"

def defaultMaxRetries : Nat := 4

def ofConfiguration (c : Configuration) : Except Error Context := do
  c.validate
  let client ← Http.Client.make (c.endpoint.getD defaultEndpoint)
    { maxRetries := c.maxRetries.getD defaultMaxRetries } c.userAgentSuffix
  .ok {
    client
    cloudCredentials := Credentials.ofPair? c.cloudApiKey c.cloudApiSecret
    kafka := {
      clusterId := c.kafkaId
      restEndpoint := c.kafkaRestEndpoint
      credentials := Credentials.ofPair? c.kafkaApiKey c.kafkaApiSecret } }

end Context

end Provisioner
