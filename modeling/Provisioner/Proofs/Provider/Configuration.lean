import Provisioner.Proofs.Lifecycle.Separation

/-!
# Accepted configurations

What a provider takes from a configuration that it accepts: the client from the settings of the
platform, each pair of credentials from its key and its secret, and the rest as it is. So two
configurations that agree on all settings but those of one pair give contexts that agree on all but
that pair.
-/

namespace Provisioner

set_option autoImplicit false

open Http

namespace Configuration

theorem checkPair_ok_iff {key secret : Option String} {keyName secretName : String} :
    checkPair key secret keyName secretName = .ok () ↔ key.isSome = secret.isSome := by
  unfold checkPair
  split
  · next together => simp [together]
  · next apart => simp [apart, refuse]

theorem checkUrl_ok_iff {name : String} {value : Option String} :
    checkUrl name value = .ok () ↔ ∀ url, value = some url → isAbsoluteUrl url = true := by
  unfold checkUrl
  cases value with
  | none => simp
  | some url =>
    simp only [Option.some.injEq, forall_eq']
    split
    · next absolute => simp [absolute]
    · next relative => simp [relative, refuse]

theorem validate_ok_iff {c : Configuration} :
    c.validate = .ok () ↔
      c.cloudApiKey.isSome = c.cloudApiSecret.isSome ∧
      c.kafkaApiKey.isSome = c.kafkaApiSecret.isSome ∧
      (∀ url, c.endpoint = some url → isAbsoluteUrl url = true) ∧
      ∀ url, c.kafkaRestEndpoint = some url → isAbsoluteUrl url = true := by
  rw [← checkPair_ok_iff, ← checkPair_ok_iff, ← checkUrl_ok_iff, ← checkUrl_ok_iff]
  unfold validate
  simp only [bind, Except.bind]
  constructor
  · intro valid
    split at valid
    · cases valid
    · next cloud =>
      split at valid
      · cases valid
      · next kafka =>
        split at valid
        · cases valid
        · next endpoint => exact ⟨cloud, kafka, endpoint, valid⟩
  · intro parts
    obtain ⟨cloud, kafka, endpoint, rest⟩ := parts
    rw [cloud, kafka, endpoint]
    exact rest

/-- The configurations differ at most in the key for the platform and its secret. -/
def AgreesButCloud (a b : Configuration) : Prop :=
  { a with cloudApiKey := none, cloudApiSecret := none } =
    { b with cloudApiKey := none, cloudApiSecret := none }

/-- The configurations differ at most in the cluster that topics belong to, its endpoint, its key
and the secret of that. -/
def AgreesButKafka (a b : Configuration) : Prop :=
  { a with
    kafkaId := none
    kafkaRestEndpoint := none
    kafkaApiKey := none
    kafkaApiSecret := none } =
  { b with
    kafkaId := none
    kafkaRestEndpoint := none
    kafkaApiKey := none
    kafkaApiSecret := none }

end Configuration

namespace Context

theorem ofConfiguration_ok_iff {c : Configuration} {context : Context} :
    ofConfiguration c = .ok context ↔ c.validate = .ok () ∧
      Client.make (c.endpoint.getD defaultEndpoint)
        { maxRetries := c.maxRetries.getD defaultMaxRetries } c.userAgentSuffix =
          .ok context.client ∧
      context.cloudCredentials = Credentials.ofPair? c.cloudApiKey c.cloudApiSecret ∧
      context.kafka = {
        clusterId := c.kafkaId
        restEndpoint := c.kafkaRestEndpoint
        credentials := Credentials.ofPair? c.kafkaApiKey c.kafkaApiSecret } := by
  unfold ofConfiguration
  simp only [bind, Except.bind]
  constructor
  · intro accepted
    split at accepted
    · cases accepted
    · next valid =>
      split at accepted
      · cases accepted
      · next client made =>
        cases accepted
        exact ⟨valid, made, rfl, rfl⟩
  · intro parts
    obtain ⟨valid, made, cloud, kafka⟩ := parts
    rw [valid, made]
    simp only
    rw [← cloud, ← kafka]

theorem endpoint_of_configuration {c : Configuration} {context : Context}
    (accepted : ofConfiguration c = .ok context) :
    ∃ endpoint, context.client.endpoint = dropTrailingSlashes endpoint ∧
      isAbsoluteUrl endpoint = true := by
  obtain ⟨valid, made, _⟩ := ofConfiguration_ok_iff.mp accepted
  obtain ⟨_, _, checked, _⟩ := Configuration.validate_ok_iff.mp valid
  refine ⟨c.endpoint.getD defaultEndpoint, ?_, ?_⟩
  · unfold Client.make at made
    extract_lets agent at made
    split at made
    · rw [← Except.ok.inj made]
    · cases made
  · cases given : c.endpoint with
    | none => rfl
    | some url => exact checked url given

variable {a b : Configuration} {x y : Context}

theorem agreeButCloud_of_configuration (agrees : a.AgreesButCloud b)
    (first : ofConfiguration a = .ok x) (second : ofConfiguration b = .ok y) :
    x.AgreeButCloud y := by
  obtain ⟨_, made, _, kafka⟩ := ofConfiguration_ok_iff.mp first
  obtain ⟨_, made', _, kafka'⟩ := ofConfiguration_ok_iff.mp second
  simp only [Configuration.AgreesButCloud, Configuration.mk.injEq, true_and] at agrees
  obtain ⟨endpoint, retries, cluster, rest, key, secret, suffix⟩ := agrees
  constructor
  · rw [endpoint, retries, suffix] at made
    exact Except.ok.inj (made.symm.trans made')
  · rw [kafka, kafka', cluster, rest, key, secret]

theorem agreeButKafka_of_configuration (agrees : a.AgreesButKafka b)
    (first : ofConfiguration a = .ok x) (second : ofConfiguration b = .ok y) :
    x.AgreeButKafka y := by
  obtain ⟨_, made, cloud, _⟩ := ofConfiguration_ok_iff.mp first
  obtain ⟨_, made', cloud', _⟩ := ofConfiguration_ok_iff.mp second
  simp only [Configuration.AgreesButKafka, Configuration.mk.injEq, true_and] at agrees
  obtain ⟨key, secret, endpoint, retries, suffix⟩ := agrees
  constructor
  · rw [endpoint, retries, suffix] at made
    exact Except.ok.inj (made.symm.trans made')
  · rw [cloud, cloud', key, secret]

end Context

end Provisioner
