import Provisioner.Proofs.Provider.Steps

/-!
# Configurations that were validated

A provider that finds nothing wrong with a configuration has read it and checked all that a context
needs, except the suffix of its user agent. The client that a context holds does not admit every
suffix. So the validation promises that the provider can be configured for all configurations but
those whose suffix is no header value.
-/

namespace Provisioner

set_option autoImplicit false

open Http

theorem Http.isHeaderValue_append (first second : String) :
    isHeaderValue (first ++ second) = (isHeaderValue first && isHeaderValue second) := by
  unfold isHeaderValue
  rw [String.toList_append, List.all_append]

/-- What a suffix of the user agent has to be for a client to be made. -/
def Configuration.SuffixAdmitted (c : Configuration) : Prop :=
  ∀ suffix, c.userAgentSuffix = some suffix → isHeaderValue suffix = true

namespace Http.Client

/-- Why a client can not be made. -/
def unbuilt : Failure := .configuration "failed to build HTTP client: builder error"

theorem make_cases (endpoint : String) (retry : RetryPolicy) (suffix : Option String) :
    ((∀ text, suffix = some text → isHeaderValue text = true) ∧
        ∃ client, make endpoint retry suffix = .ok client) ∨
      (∃ text, suffix = some text ∧ isHeaderValue text = false) ∧
        make endpoint retry suffix = .error { failure := unbuilt } := by
  have base : isHeaderValue baseUserAgent = true := by decide
  have space : isHeaderValue " " = true := by decide
  unfold make
  rcases suffix with _ | text
  · exact Or.inl ⟨nofun, _, if_pos base⟩
  · by_cases empty : text = ""
    · subst empty
      refine Or.inl ⟨?_, _, if_pos base⟩
      rintro _ ⟨⟩
      rfl
    · have agent : isHeaderValue (baseUserAgent ++ " " ++ text) = isHeaderValue text := by
        rw [isHeaderValue_append, isHeaderValue_append, base, space]
        rfl
      simp only [agent]
      cases admitted : isHeaderValue text with
      | true => exact Or.inl ⟨by simpa using admitted, _, rfl⟩
      | false => exact Or.inr ⟨⟨text, rfl, admitted⟩, rfl⟩

end Http.Client

theorem Context.ofConfiguration_cases {c : Configuration} (valid : c.validate = .ok ()) :
    (c.SuffixAdmitted ∧ ∃ context, ofConfiguration c = .ok context) ∨
      ¬c.SuffixAdmitted ∧ ofConfiguration c = .error { failure := Client.unbuilt } := by
  unfold ofConfiguration
  rw [valid]
  rcases Client.make_cases (c.endpoint.getD defaultEndpoint)
    { maxRetries := c.maxRetries.getD defaultMaxRetries } c.userAgentSuffix with
    ⟨admitted, client, made⟩ | ⟨⟨text, given, refused⟩, failed⟩
  · refine Or.inl ⟨admitted, ?_⟩
    simp only [bind, Except.bind, made]
    exact ⟨_, rfl⟩
  · refine Or.inr ⟨?_, ?_⟩
    · intro admitted
      have accepted := admitted text given
      rw [refused] at accepted
      cases accepted
    · simp only [bind, Except.bind, failed]

namespace Provider

variable {p : Provider} {config : Json}

theorem read_of_validated (valid : p.validateConfiguration config = []) :
    ∃ c, p.readConfiguration config = .ok c ∧ c.validate = .ok () := by
  unfold validateConfiguration at valid
  simp only at valid
  split at valid
  · cases read : p.readConfiguration config with
    | error error =>
      rw [read] at valid
      cases valid
    | ok c =>
      refine ⟨c, rfl, ?_⟩
      rw [read] at valid
      cases checked : c.validate with
      | error error =>
        simp only [Except.bind, checked] at valid
        cases valid
      | ok _ => rfl
  · next some => simp [valid] at some

/-- A provider that was not configured before takes a configuration that it has validated, exactly
if the suffix of its user agent is admitted. Otherwise it says why the client can not be made and
stays as it is. -/
theorem validated_configures_iff (fresh : p.context = none)
    (valid : p.validateConfiguration config = []) :
    ∃ c, p.readConfiguration config = .ok c ∧
      ((∃ context, p.configure config = ([], { p with context := some context })) ↔
        c.SuffixAdmitted) ∧
      (¬c.SuffixAdmitted →
        p.configure config = ([({ failure := Client.unbuilt } : Error).diagnostic], p)) := by
  obtain ⟨c, read, checked⟩ := read_of_validated valid
  have context_eq : p.contextOf config = Context.ofConfiguration c := by
    unfold contextOf
    rw [read]
    rfl
  have cases := p.configure_cases config
  rw [fresh, context_eq] at cases
  refine ⟨c, read, ?_⟩
  rcases Context.ofConfiguration_cases checked with ⟨admitted, context, made⟩ | ⟨refused, failed⟩
  · rw [made] at cases
    refine ⟨iff_of_true ?_ admitted, fun refused => absurd admitted refused⟩
    rcases cases with ⟨impossible, _⟩ | ⟨_, _, _, run⟩ | ⟨_, _, impossible, _⟩
    · cases impossible
    · exact ⟨_, run⟩
    · cases impossible
  · rw [failed] at cases
    rcases cases with ⟨impossible, _⟩ | ⟨_, _, impossible, _⟩ | ⟨_, error, same, run⟩
    · cases impossible
    · cases impossible
    · cases same
      refine ⟨iff_of_false ?_ refused, fun _ => run⟩
      intro configured
      obtain ⟨context, taken⟩ := configured
      rw [run] at taken
      cases taken

/-- A suffix that is a header value. -/
theorem validated_configures_suffixed :
    ({} : Provider).context = none ∧
    ({} : Provider).validateConfiguration (.obj [("user_agent_suffix", .str "ci")]) = [] ∧
    ∃ context, ({} : Provider).configure (.obj [("user_agent_suffix", .str "ci")]) =
      ([], { context := some context }) := by
  have valid : ({} : Provider).validateConfiguration (.obj [("user_agent_suffix", .str "ci")]) =
    [] := by rfl
  refine ⟨rfl, valid, ?_⟩
  obtain ⟨c, read, configures, _⟩ := validated_configures_iff rfl valid
  apply configures.mpr
  cases read
  rintro _ ⟨⟩
  decide

/-- A suffix with a line break passes the validation, and the provider can not be configured with
it. -/
theorem validated_unconfigured :
    ({} : Provider).context = none ∧
    ({} : Provider).validateConfiguration (.obj [("user_agent_suffix", .str "a\nb")]) = [] ∧
    ({} : Provider).configure (.obj [("user_agent_suffix", .str "a\nb")]) =
      ([Diagnostic.error "Configuration error: failed to build HTTP client: builder error"], {}) :=
  ⟨rfl, rfl, rfl⟩

end Provider

end Provisioner
