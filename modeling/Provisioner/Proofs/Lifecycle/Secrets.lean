import Provisioner.Proofs.Lifecycle.Delivered
import Provisioner.Proofs.Lifecycle.Withheld

/-!
# Where the secrets of a state come from

A host creates an object, reads it and updates it, in any order and as often as it likes, and passes
on the state that it holds. Of a field that the server neither computes nor reports the states then
hold what the configuration of the last creation or update told that succeeded, whatever the server
answers and whatever fails in between.
-/

namespace Provisioner

set_option autoImplicit false

open Http

/-- What a host asks of an object. -/
inductive Command where
  | create (config : Json)
  | read
  | update (config : Json)

namespace Command

def config? : Command → Option Json
  | .create config | .update config => some config
  | .read => none

/-- The state that a call gives. Without a state to pass on only a creation can give one. -/
def given (l : Lifecycle Wire) (context : Context) (w : World Wire) :
    Command → Option Json → Option Json
  | .create config, _ => (l.create context config w).1.toOption
  | .read, some held => (l.read context held w).1.toOption.join
  | .update config, some held => (l.update context held config w).1.toOption
  | _, none => none

end Command

theorem toOption_eq_some_iff {σ ε α : Type} {op : Operation σ ε α} {w : World σ} {value : α} :
    (op w).1.toOption = some value ↔ ∃ after, op w = (.ok value, after) := by
  rcases op w with ⟨error | found, finish⟩ <;> simp [Except.toOption]

/-- A call in the world that it meets, with everything that will be answered to it. -/
structure Turn where
  command : Command
  context : Context
  world : World Wire

/-- What a host holds of an object: the last state that it was given, and the configuration of the
last creation or update that gave one. -/
structure Held where
  state : Option Json
  config : Option Json

namespace Held

/-- A call that gives no state changes nothing. -/
def next (l : Lifecycle Wire) (held : Held) (turn : Turn) : Held :=
  match turn.command.given l turn.context turn.world held.state with
  | none => held
  | some state => ⟨some state, turn.command.config?.or held.config⟩

section Next

variable {l : Lifecycle Wire} {context : Context} {w : World Wire} {config before state : Json}
  {asked : Option Json}

theorem next_create {held : Held} (run : ∃ after, l.create context config w = (.ok state, after)) :
    held.next l ⟨.create config, context, w⟩ = ⟨some state, some config⟩ := by
  have given : Command.given l context w (.create config) held.state = some state :=
    toOption_eq_some_iff.mpr run
  unfold next
  rw [given]
  rfl

theorem next_read (run : ∃ after, l.read context before w = (.ok (some state), after)) :
    Held.next l ⟨some before, asked⟩ ⟨.read, context, w⟩ = ⟨some state, asked⟩ := by
  have given : Command.given l context w .read (some before) = some state :=
    Option.join_eq_some_iff.mpr (toOption_eq_some_iff.mpr run)
  unfold next
  rw [given]
  rfl

theorem next_update (run : ∃ after, l.update context before config w = (.ok state, after)) :
    Held.next l ⟨some before, asked⟩ ⟨.update config, context, w⟩ =
      ⟨some state, some config⟩ := by
  have given : Command.given l context w (.update config) (some before) = some state :=
    toOption_eq_some_iff.mpr run
  unfold next
  rw [given]
  rfl

end Next

def through (l : Lifecycle Wire) (held : Held) (turns : List Turn) : Held :=
  turns.foldl (next l) held

/-- What is held after some turns. The host may have had a state before them. -/
def after (l : Lifecycle Wire) (start : Option Json) (turns : List Turn) : Held :=
  through l ⟨start, none⟩ turns

end Held

/-- A field that the server does not report either: what is read of an object leaves it as it is. -/
structure KeptField (kind : Kind Wire) (α : Type) extends ToldField kind α where
  encode : α → Json
  kept : ∀ remote known, get (kind.toState remote known) = get known
  written : ∀ state, (kind.encode state).get? name = some (encode (get state))
  round_trips : kind.RoundTrips

/-- What is held of a field is what the held configuration tells. -/
def Held.Faithful {kind : Kind Wire} {α : Type} (field : KeptField kind α) (held : Held) : Prop :=
  ∀ config, held.config = some config → ∃ state, held.state = some (kind.encode state) ∧
    field.decode.told field.name field.absent config = .ok (field.get state)

namespace KeptField

variable {api : Api} {waits : Transition → Option WaitOptions} {context : Context} {α : Type}
  (field : KeptField api.kind α) {w after : World Wire} {config state : Json}

theorem told_of_create
    (run : Lifecycle.create ⟨api.kind, waits⟩ context config w = (.ok state, after)) :
    ∃ made, state = api.kind.encode made ∧
      field.decode.told field.name field.absent config = .ok (field.get made) := by
  obtain ⟨creation, rfl⟩ := creation_of_create run
  obtain ⟨decoded, _⟩ := Lifecycle.submit_ok_iff.mp creation.submission
  refine ⟨_, rfl, ?_⟩
  rw [field.kept, field.kept]
  exact field.told_of_decodeValid decoded

theorem kept_of_read {known : api.kind.State}
    (run : Lifecycle.read ⟨api.kind, waits⟩ context (api.kind.encode known) w =
      (.ok (some state), after)) :
    ∃ seen, state = api.kind.encode seen ∧ field.get seen = field.get known := by
  obtain ⟨expected, decoded, refreshed⟩ := Lifecycle.read_ok_iff.mp run
  obtain ⟨_, remote, recorded, _⟩ := Recorded.of_refresh refreshed
  have same : known = expected := Except.ok.inj ((field.round_trips known).symm.trans decoded)
  exact ⟨_, recorded.made, by rw [field.kept, same]⟩

/-- Of the prior state nothing is left in the field, also by an update that changes nothing. -/
theorem told_of_update {priorState : Json}
    (run : Lifecycle.update ⟨api.kind, waits⟩ context priorState config w = (.ok state, after)) :
    ∃ made, state = api.kind.encode made ∧
      field.decode.told field.name field.absent config = .ok (field.get made) := by
  obtain ⟨_, desired, remote, recorded, _, _, _, prepared⟩ := Recorded.of_update run
  refine ⟨_, recorded.made, ?_⟩
  rw [field.kept]
  exact field.told_of_prepareUpdate prepared

theorem faithful_next {held : Held} (faithful : held.Faithful field) (turn : Turn) :
    (held.next ⟨api.kind, waits⟩ turn).Faithful field := by
  obtain ⟨command, context, w⟩ := turn
  unfold Held.next
  split
  · exact faithful
  · next state given =>
    intro config asked
    cases command with
    | create desired =>
      obtain ⟨after, run⟩ := toOption_eq_some_iff.mp given
      obtain ⟨made, rfl, told⟩ := field.told_of_create run
      obtain rfl : desired = config := Option.some.inj asked
      exact ⟨made, rfl, told⟩
    | read =>
      obtain ⟨earlier, before, told⟩ := faithful config asked
      rw [before] at given
      obtain ⟨after, run⟩ := toOption_eq_some_iff.mp (Option.join_eq_some_iff.mp given)
      obtain ⟨seen, rfl, same⟩ := field.kept_of_read run
      exact ⟨seen, rfl, same ▸ told⟩
    | update desired =>
      cases before : held.state with
      | none =>
        rw [before] at given
        cases given
      | some prior =>
        rw [before] at given
        obtain ⟨after, run⟩ := toOption_eq_some_iff.mp given
        obtain ⟨made, rfl, told⟩ := field.told_of_update run
        obtain rfl : desired = config := Option.some.inj asked
        exact ⟨made, rfl, told⟩

/-- By induction on the turns: a host that starts without a configuration is faithful to it. -/
theorem faithful_through {held : Held} (faithful : held.Faithful field) (turns : List Turn) :
    (held.through ⟨api.kind, waits⟩ turns).Faithful field := by
  induction turns generalizing held with
  | nil => exact faithful
  | cons turn rest ih => exact ih (field.faithful_next faithful turn)

theorem written_after (start : Option Json) (turns : List Turn) {config : Json}
    (asked : (Held.after ⟨api.kind, waits⟩ start turns).config = some config) :
    ∃ value state, field.decode.told field.name field.absent config = .ok value ∧
      (Held.after ⟨api.kind, waits⟩ start turns).state = some state ∧
      state.get? field.name = some (field.encode value) := by
  have unasked : Held.Faithful field ⟨start, none⟩ := by
    intro config impossible
    cases impossible
  obtain ⟨made, held, told⟩ := field.faithful_through unasked turns config asked
  exact ⟨field.get made, _, told, held, field.written made⟩

end KeptField

namespace Connector

def keptSecret : KeptField api.kind Settings where
  toToldField := toldSecret
  encode := Settings.encode
  kept _ _ := rfl
  written _ := rfl
  round_trips := round_trips

end Connector

namespace KafkaTopic

def keptCredentials : KeptField api.kind (List Credentials) where
  toToldField := toldCredentials
  encode credentials := .arr (credentials.map encodeCredentials)
  kept _ _ := rfl
  written _ := rfl
  round_trips := round_trips

end KafkaTopic

/-- After any calls, whatever was answered to them, the secrets in the state that a host holds of a
connector and the credentials in that of a topic are those in the configuration of the last creation
or update that gave a state. -/
theorem secrets_told (waits : Transition → Option WaitOptions) (start : Option Json)
    (turns : List Turn) (config : Json) :
    ((Held.after ⟨Connector.kind, waits⟩ start turns).config = some config →
      ∃ secret state,
        Connector.decodeSettings.told "config_sensitive" .empty config = .ok secret ∧
        (Held.after ⟨Connector.kind, waits⟩ start turns).state = some state ∧
        state.get? "config_sensitive" = some secret.encode) ∧
    ((Held.after ⟨KafkaTopic.kind, waits⟩ start turns).config = some config →
      ∃ credentials state,
        (Decoder.blockList KafkaTopic.decodeCredentials).told "credentials" [] config =
          .ok credentials ∧
        (Held.after ⟨KafkaTopic.kind, waits⟩ start turns).state = some state ∧
        state.get? "credentials" =
          some (.arr (credentials.map KafkaTopic.encodeCredentials))) := by
  constructor
  · exact Connector.keptSecret.written_after start turns
  · exact KafkaTopic.keptCredentials.written_after start turns

namespace Connector

theorem read_masked :
    ∃ after, Lifecycle.read ⟨kind, fun _ => none⟩ Context.plain
        (withSecret "password" "s3cret").encode (maskedWorld []) =
      (.ok (some (withSecret "password" "s3cret").encode), after) := by
  have ready : Ready (maskedWorld []) [runningAnswer, maskedAnswer] := ⟨rfl, rfl⟩
  have stable : classify ⟨"sink", ⟨running, none⟩, maskedSettings⟩
      (withSecret "password" "s3cret") = .ok .stable :=
    (stable_iff _ _).mpr ⟨Or.inl rfl, Or.inr rfl⟩
  exact api.read_of_answers (fun _ => none) Context.plain_accepting (round_trips _) rfl
    (.two running_gives masked_gives) stable (by decide) ready

theorem update_masked :
    ∃ after, Lifecycle.update ⟨kind, fun _ => none⟩ Context.plain
        (withSecret "password" "s3cret").encode (secretConfig "password" "fresh")
        (maskedWorld writtenAnswers) =
      (.ok (withSecret "password" "fresh").encode, after) := by
  have prepared : Lifecycle.prepareUpdate ⟨kind, fun _ => none⟩
      (withSecret "password" "s3cret").encode (secretConfig "password" "fresh")
      (withSecret "password" "s3cret") =
        .ok (withSecret "password" "fresh", ["config_sensitive"]) := by rfl
  have ready : Ready (maskedWorld writtenAnswers)
      [createdAnswer, runningAnswer, maskedAnswer, runningAnswer, maskedAnswer] := ⟨rfl, rfl⟩
  obtain ⟨_, result, succeeds, _⟩ := created_gives
  exact api.update_of_answers (fun _ => none) Context.plain_accepting (round_trips _) prepared
    (by simp) rfl succeeds rfl (.two running_gives masked_gives)
    ((stable_iff _ _).mpr ⟨Or.inl rfl, Or.inr rfl⟩) (.two running_gives masked_gives) ready

/-- A creation, a read, and an update with another password. -/
def maskedTurns : List Turn := [
  ⟨.create (secretConfig "password" "s3cret"), Context.plain, maskedWorld writtenAnswers⟩,
  ⟨.read, Context.plain, maskedWorld []⟩,
  ⟨.update (secretConfig "password" "fresh"), Context.plain, maskedWorld writtenAnswers⟩]

theorem asked_masked :
    (Held.after ⟨kind, fun _ => none⟩ none maskedTurns).config =
      some (secretConfig "password" "fresh") := by
  unfold Held.after Held.through maskedTurns
  rw [List.foldl_cons, Held.next_create create_masked, List.foldl_cons,
    Held.next_read read_masked, List.foldl_cons, Held.next_update update_masked]
  rfl

end Connector

namespace KafkaTopic

/-- A topic with a key of its own. -/
def keyedConfig : Json :=
  .obj [
    ("credentials", .arr [.obj [("key", .str "K"), ("secret", .str "S")]]),
    ("kafka_cluster", .arr [.obj [("id", .str "lkc-1")]]),
    ("rest_endpoint", .str "https://lkc-1.example"),
    ("topic_name", .str "orders")]

def keyedState : State :=
  { secretState with config := .empty, credentials := [⟨"K", "S"⟩] }

def ordersRemote : Remote := ⟨⟨"lkc-1", "orders", 6⟩, [withheld]⟩

def keyedOrders : State := .ofRemote ordersRemote (.ofRemote ⟨⟨"lkc-1", "orders", 6⟩, []⟩ keyedState)

theorem create_keyed :
    ∃ after, Lifecycle.create ⟨kind, fun _ => none⟩ Context.plain keyedConfig withheldWorld =
      (.ok keyedOrders.encode, after) := by
  have decoded : Lifecycle.decodeValid ⟨api.kind, fun _ => none⟩ keyedConfig = .ok keyedState := by
    rfl
  have ready : Ready withheldWorld
      [ordersAnswer, ordersAnswer, withheldAnswer, ordersAnswer, withheldAnswer] := ⟨rfl, rfl⟩
  obtain ⟨_, _, after, _, _, run⟩ := Api.create_of_answers api (fun _ => none)
    Context.plain_accepting decoded (by rfl) rfl accepted_gives rfl (.two orders_gives withheld_gives) rfl
    (.two orders_gives withheld_gives) ready
  exact ⟨after, run⟩

theorem read_keyed :
    ∃ after, Lifecycle.read ⟨kind, fun _ => none⟩ Context.plain keyedOrders.encode lookedAtWorld =
      (.ok (some (State.ofRemote ordersRemote keyedOrders).encode), after) := by
  exact api.read_of_answers (fun _ => none) Context.plain_accepting (round_trips keyedOrders) rfl
    (.two orders_gives withheld_gives) rfl (by decide) ⟨rfl, rfl⟩

def keyedTurns : List Turn := [
  ⟨.create keyedConfig, Context.plain, withheldWorld⟩, ⟨.read, Context.plain, lookedAtWorld⟩]

theorem asked_keyed :
    (Held.after ⟨kind, fun _ => none⟩ none keyedTurns).config = some keyedConfig := by
  unfold Held.after Held.through keyedTurns
  rw [List.foldl_cons, Held.next_create create_keyed, List.foldl_cons, Held.next_read read_keyed]
  rfl

end KafkaTopic

/-- A connector whose password is masked in every look and changed once, and a topic whose key no
answer shows. -/
theorem secrets_told_masked :
    (Held.after ⟨Connector.kind, fun _ => none⟩ none Connector.maskedTurns).config =
        some (Connector.secretConfig "password" "fresh") ∧
      (∃ state,
        (Held.after ⟨Connector.kind, fun _ => none⟩ none Connector.maskedTurns).state = some state ∧
        state.setting? "config_sensitive" "password" = some (.str "fresh")) ∧
      (Held.after ⟨KafkaTopic.kind, fun _ => none⟩ none KafkaTopic.keyedTurns).config =
        some KafkaTopic.keyedConfig ∧
      ∃ state,
        (Held.after ⟨KafkaTopic.kind, fun _ => none⟩ none KafkaTopic.keyedTurns).state =
          some state ∧
        state.get? "credentials" =
          some (.arr [.obj [("key", .str "K"), ("secret", .str "S")]]) := by
  refine ⟨Connector.asked_masked, ?_, KafkaTopic.asked_keyed, ?_⟩
  · obtain ⟨secret, state, told, held, written⟩ :=
      (secrets_told (fun _ => none) none Connector.maskedTurns _).1 Connector.asked_masked
    have fresh : (Connector.withSecret "password" "fresh").secret = secret := Except.ok.inj told
    refine ⟨state, held, ?_⟩
    unfold Json.setting?
    rw [written, ← fresh]
    rfl
  · obtain ⟨credentials, state, told, held, written⟩ :=
      (secrets_told (fun _ => none) none KafkaTopic.keyedTurns _).2 KafkaTopic.asked_keyed
    have key : [⟨"K", "S"⟩] = credentials := Except.ok.inj told
    refine ⟨state, held, ?_⟩
    rw [written, ← key]
    rfl

end Provisioner
