import Provisioner.Kinds.Connector
import Provisioner.Proofs.Settings

/-!
# The settings of a connector

A state of a connector that is known takes the known settings from what the server reports, and one
that knows none takes all that look like a user's. What a new connector is recorded with goes through
both: first the answer to its creation is read against what was asked for, then the last look against
the outcome. It comes out as asked for whatever the last look shows exactly if the answer repeats
every setting that was asked for.

What is sent for a connector holds both maps where they do not contradict each other. Of a name that
stands in both, only the secret value is sent.
-/

namespace Provisioner.Connector

set_option autoImplicit false

namespace State

theorem check_ok_iff {s : State} :
    s.check = .ok () ↔ (s.plain.get? "name").getD "" ≠ "" ∧ s.sharedName? = none ∧
      (s.status = "" ∨ s.status = running) := by
  unfold check
  split
  · next unnamed => simp [refuse, unnamed]
  · next named =>
    cases s.sharedName? with
    | some name => simp [refuse]
    | none =>
      simp only [named, ne_eq, not_false_eq_true, true_and]
      split <;> simp_all [refuse]

theorem contains_name_of_check {s : State} (checked : s.check = .ok ()) :
    s.plain.contains "name" = true := by
  obtain ⟨named, _, _⟩ := check_ok_iff.mp checked
  cases found : s.plain.get? "name" with
  | none =>
    rw [found] at named
    exact absurd rfl named
  | some value => exact Settings.contains_eq_true_iff.mpr ⟨value, found⟩

/-- A setting that looks like one of the user's. -/
def adopts (s : State) (name value : String) : Bool :=
  value != masked && !addedByServer.contains name && !s.secret.contains name

theorem keeps_of_known {s : State} (known : ∃ name, s.plain.contains name = true) :
    s.keeps = fun name _ => s.plain.contains name := by
  obtain ⟨name, there⟩ := known
  have some : s.plain.isEmpty = false := by
    rw [Bool.eq_false_iff, ne_eq, Settings.isEmpty_iff]
    intro absent
    rw [absent name] at there
    cases there
  funext name value
  unfold keeps
  rw [some]
  rfl

theorem keeps_of_unknown {s : State} (unknown : ¬∃ name, s.plain.contains name = true) :
    s.keeps = s.adopts := by
  have none : s.plain.isEmpty = true := by
    rw [Settings.isEmpty_iff]
    intro name
    exact Bool.eq_false_iff.mpr fun there => unknown ⟨name, there⟩
  funext name value
  unfold keeps
  rw [none]
  rfl

/-- The reported settings that were asked for. -/
def asked (s : State) (remote : Remote) : Settings :=
  remote.config.filter fun name _ => s.plain.contains name

theorem sharedName?_eq_none_iff {s : State} :
    s.sharedName? = none ↔
      ∀ name, s.plain.contains name = true → s.secret.contains name = false := by
  unfold sharedName?
  rw [List.find?_eq_none]
  constructor
  · intro apart name there
    obtain ⟨value, found⟩ := Settings.contains_eq_true_iff.mp there
    have listed : name ∈ s.plain.names :=
      List.mem_map.mpr ⟨(name, value), Keyed.mem_of_lookup found, rfl⟩
    simpa using apart name listed
  · intro apart name listed
    obtain ⟨entry, member, rfl⟩ := List.mem_map.mp listed
    have there : s.plain.contains entry.1 = true := by
      unfold Settings.contains Settings.get?
      rw [List.lookup_isSome_iff]
      exact ⟨entry, member, beq_self_eq_true _⟩
    rw [apart entry.1 there]
    exact Bool.false_ne_true

theorem get?_config (s : State) (name : String) :
    s.config.get? name = (s.secret.get? name).or (s.plain.get? name) :=
  Settings.get?_union s.plain s.secret name

/-- What is sent holds every entry of both maps, and no other name. -/
structure Unites (s : State) (sent : Settings) : Prop where
  plain : ∀ name value, s.plain.get? name = some value → sent.get? name = some value
  secret : ∀ name value, s.secret.get? name = some value → sent.get? name = some value
  only : ∀ name, sent.contains name = true →
    s.plain.contains name = true ∨ s.secret.contains name = true

/-- A name in both maps has one value. -/
def Agrees (s : State) : Prop :=
  ∀ name value other, s.plain.get? name = some value → s.secret.get? name = some other →
    value = other

theorem unites_config_iff {s : State} : s.Unites s.config ↔ s.Agrees := by
  constructor
  · intro unites name value other inPlain inSecret
    have plain := unites.plain name value inPlain
    rw [unites.secret name other inSecret] at plain
    exact (Option.some.inj plain).symm
  · intro agrees
    refine ⟨?_, ?_, ?_⟩
    · intro name value inPlain
      rw [get?_config]
      cases inSecret : s.secret.get? name with
      | none => exact inPlain
      | some other => rw [agrees name value other inPlain inSecret, Option.some_or]
    · intro name value inSecret
      rw [get?_config, inSecret, Option.some_or]
    · intro name there
      unfold Settings.contains at there ⊢
      rw [get?_config, Option.isSome_or, Bool.or_eq_true] at there
      exact there.symm

theorem agrees_of_check {s : State} (checked : s.check = .ok ()) : s.Agrees := by
  intro name value other inPlain inSecret
  have apart := sharedName?_eq_none_iff.mp (check_ok_iff.mp checked).2.1 name
    (Settings.contains_eq_true_iff.mpr ⟨value, inPlain⟩)
  rw [Settings.contains_eq_true_iff.mpr ⟨other, inSecret⟩] at apart
  cases apart

theorem name_of_plain {s : State} {name : String} (found : s.plain.get? "name" = some name) :
    s.name = name := by
  unfold State.name
  rw [found]

theorem config_name_iff {s : State} :
    (∀ name, s.config.get? "name" = some name → name = s.name) ↔
      ∀ name, s.secret.get? "name" = some name → name = s.name := by
  constructor
  · intro same name inSecret
    apply same
    rw [get?_config, inSecret, Option.some_or]
  · intro same name sent
    rw [get?_config] at sent
    cases inSecret : s.secret.get? "name" with
    | none =>
      rw [inSecret, Option.none_or] at sent
      exact (name_of_plain sent).symm
    | some other =>
      rw [inSecret, Option.some_or] at sent
      rw [← Option.some.inj sent]
      exact same other inSecret

theorem config_name_of_check {s : State} (checked : s.check = .ok ()) :
    s.config.get? "name" = some s.name := by
  obtain ⟨name, found⟩ := Settings.contains_eq_true_iff.mp (contains_name_of_check checked)
  rw [name_of_plain found]
  exact (unites_config_iff.mpr (agrees_of_check checked)).plain _ _ found

end State

/-- A setting that was asked for is in the answer. -/
def Remote.Repeats (created : Remote) (desired : State) : Prop :=
  ∃ name, desired.plain.contains name = true ∧ created.config.contains name = true

section Created

variable {created final : Remote} {desired : State}

theorem contains_accepted (known : ∃ name, desired.plain.contains name = true) (name : String) :
    (State.ofRemote created desired).plain.contains name =
      (desired.plain.contains name && created.config.contains name) := by
  show (created.config.filter desired.keeps).contains name = _
  rw [State.keeps_of_known known]
  exact Settings.contains_filter _ _ _

theorem known_accepted_iff (known : ∃ name, desired.plain.contains name = true) :
    (∃ name, (State.ofRemote created desired).plain.contains name = true) ↔
      created.Repeats desired := by
  unfold Remote.Repeats
  simp only [contains_accepted known, Bool.and_eq_true]

theorem plain_of_repeated (known : ∃ name, desired.plain.contains name = true)
    (repeats : created.Repeats desired) :
    (State.ofRemote final (.ofRemote created desired)).plain =
      final.config.filter fun name _ =>
        desired.plain.contains name && created.config.contains name := by
  show final.config.filter (State.ofRemote created desired).keeps = _
  rw [State.keeps_of_known ((known_accepted_iff known).mpr repeats)]
  simp only [contains_accepted known]

theorem plain_of_unrepeated (known : ∃ name, desired.plain.contains name = true)
    (silent : ¬created.Repeats desired) :
    (State.ofRemote final (.ofRemote created desired)).plain =
      final.config.filter desired.adopts := by
  show final.config.filter (State.ofRemote created desired).keeps = _
  rw [State.keeps_of_unknown fun there => silent ((known_accepted_iff known).mp there)]
  rfl

theorem plain_eq_asked_iff (known : ∃ name, desired.plain.contains name = true) :
    (State.ofRemote final (.ofRemote created desired)).plain = desired.asked final ↔
      (created.Repeats desired ∧ ∀ name, desired.plain.contains name = true →
        final.config.contains name = true → created.config.contains name = true) ∨
      (¬created.Repeats desired ∧ ∀ name value, final.config.get? name = some value →
        desired.adopts name value = desired.plain.contains name) := by
  unfold State.asked
  by_cases repeats : created.Repeats desired
  · rw [plain_of_repeated known repeats, Settings.filter_eq_filter_iff]
    simp only [repeats, true_and, not_true_eq_false, false_and, or_false]
    constructor
    · intro same name wanted reported
      obtain ⟨value, found⟩ := Settings.contains_eq_true_iff.mp reported
      have here := same name value found
      rw [wanted, Bool.true_and] at here
      exact here
    · intro repeated name value found
      cases wanted : desired.plain.contains name with
      | false => rfl
      | true => exact repeated name wanted (Settings.contains_eq_true_iff.mpr ⟨value, found⟩)
  · rw [plain_of_unrepeated known repeats, Settings.filter_eq_filter_iff]
    simp only [repeats, false_and, not_false_eq_true, true_and, false_or]

/-- The last look can show any settings; so only an answer that repeats all of them is safe. -/
theorem always_asked_iff (known : ∃ name, desired.plain.contains name = true) :
    (∀ final : Remote,
        (State.ofRemote final (.ofRemote created desired)).plain = desired.asked final) ↔
      ∀ name, desired.plain.contains name = true → created.config.contains name = true := by
  constructor
  · intro always name wanted
    -- A look at this setting alone, with a value that nobody takes for a user's.
    let shown : Settings := ⟨[(name, masked)], List.pairwise_singleton _ _⟩
    have found : shown.get? name = some masked := by simp [shown, Settings.get?]
    have there : shown.contains name = true := Settings.contains_eq_true_iff.mpr ⟨_, found⟩
    rcases (plain_eq_asked_iff known).mp (always ⟨"", ⟨"", none⟩, shown⟩) with
      ⟨_, repeated⟩ | ⟨_, same⟩
    · exact repeated name wanted there
    · have here := same name masked found
      rw [wanted] at here
      simp [State.adopts] at here
  · intro repeated final
    obtain ⟨name, wanted⟩ := known
    refine (plain_eq_asked_iff ⟨name, wanted⟩).mpr (Or.inl ⟨⟨name, wanted, repeated name wanted⟩, ?_⟩)
    intro name wanted _
    exact repeated name wanted

end Created

end Provisioner.Connector
