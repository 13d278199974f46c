import Provisioner.Proofs.Kinds.Refresh
import Provisioner.Proofs.Lifecycle.Delivered
import Provisioner.Proofs.Lifecycle.Withheld

/-!
# A state that was read reads the same

A read and an import give the state of the object that they saw. Reading that state again, where the
server gives the same answers, gives it unchanged: the state is read back as it was written, the
object is looked for where the state says and is the same, its status is still known, and taking it
again from itself changes nothing.
-/

namespace Provisioner

set_option autoImplicit false

open Http (Wire)
open Operation (bind_ofExcept_ok_iff)

/-- Wherever the answers that come next in a world come next, a read of the state gives it
unchanged. -/
def Lifecycle.Rereads (l : Lifecycle Wire) (context : Context) (state : Json) (w : World Wire) :
    Prop :=
  ∀ other, Alike w other → ∃ finish, l.read context state other = (.ok (some state), finish)

namespace Refresh

variable {refresh : Refresh} {waits : Transition → Option WaitOptions} {context : Context}
  {w after : World Wire}

theorem listed (member : refresh ∈ all) : refresh.api ∈ apis := by
  rw [← api_all]
  exact List.mem_map_of_mem member

theorem read_again (member : refresh ∈ all) {session later : Session}
    (same : later.context = session.context) {prior : refresh.api.kind.State}
    {remote : refresh.api.kind.Remote}
    (run : refresh.api.kind.read session prior w = (.ok remote, after))
    (places : refresh.Places remote) {other : World Wire} (alike : Alike w other) :
    ∃ finish, refresh.api.kind.read later (refresh.api.kind.toState remote prior) other =
      (.ok remote, finish) := by
  rw [refresh.api.read_eq] at run
  obtain ⟨path, found, reading⟩ := bind_ofExcept_ok_iff.mp run
  rw [← same] at found
  obtain ⟨place, located⟩ := refresh.object_again places found
  have retry : later.context.client.retry = session.context.client.retry := by rw [same]
  obtain ⟨finish, again, _⟩ :=
    (Api.repeats_reading (listed member) retry path place).gives alike reading
  refine ⟨finish, ?_⟩
  rw [refresh.api.read_eq]
  exact bind_ofExcept_ok_iff.mpr ⟨place, located, again⟩

/-- What a look from a known state came to: the state of the object that was read, which reads the
same as long as it keeps what it took and the object can be found again. -/
structure Gives (refresh : Refresh) (waits : Transition → Option WaitOptions) (context : Context)
    (known : refresh.api.kind.State) (remote : refresh.api.kind.Remote) (w : World Wire)
    (state : Json) : Prop where
  read : ∃ finished, refresh.api.kind.read ⟨context, refresh.api.kind.credentials context known⟩
    known w = (.ok remote, finished)
  made : state = refresh.api.kind.encode (refresh.api.kind.toState remote known)
  rereads : refresh.Keeps remote known → refresh.Places remote →
    Lifecycle.Rereads ⟨refresh.api.kind, waits⟩ context state w

theorem gives_of_refresh (member : refresh ∈ all) {known : refresh.api.kind.State} {isNew : Bool}
    {state : Json}
    (run : Lifecycle.refresh ⟨refresh.api.kind, waits⟩ context known isNew w =
      (.ok (some state), after)) :
    ∃ remote, refresh.Gives waits context known remote w state := by
  let l : Lifecycle Wire := ⟨refresh.api.kind, waits⟩
  obtain ⟨remote, phase, finished, looked, judged, _, made, _⟩ :=
    Lifecycle.refresh_some_iff.mp run
  have read : refresh.api.kind.read (l.session context known) known w =
    (.ok remote, finished) := looked
  refine ⟨remote, ⟨finished, read⟩, made, ?_⟩
  intro keeps places other alike
  let fresh : refresh.api.kind.State := refresh.api.kind.toState remote known
  have decoded : refresh.api.kind.decode.fromState state = .ok fresh := by
    rw [made]
    exact Api.round_trips (listed member) fresh
  have same : (l.session context fresh).context = (l.session context known).context := rfl
  obtain ⟨finish, again⟩ := read_again member same read places alike
  obtain ⟨found, classified, present⟩ := Api.present_again (listed member) judged fresh
  have refreshed : l.refresh context fresh false other =
      (.ok (some state), l.logged "Read" (refresh.api.kind.toState remote fresh) finish) := by
    refine Lifecycle.refresh_some_iff.mpr ⟨remote, found, finish, again, classified, ?_, ?_, rfl⟩
    · intro gone
      exact present gone.1
    · rw [made]
      exact congrArg refresh.api.kind.encode (refresh.toState_toState keeps).symm
  exact ⟨_, Lifecycle.read_ok_iff.mpr ⟨fresh, decoded, refreshed⟩⟩

end Refresh

/-- Refreshing is idempotent, for every kind. A state that is made of an object from a state that was
made of it is that state; and a state that a read or an import gave is read unchanged where the
server gives the same answers. A connector has to have an unmasked name, which the known state has
among its plain settings or has none of them, and not among its secret ones; a topic has to tell its
cluster. -/
theorem refresh_idempotent :
    Refresh.all.map (fun refresh => refresh.api.kind) = kinds ∧
    ∀ refresh ∈ Refresh.all,
      let kind := refresh.api.kind
      (∀ remote prior, refresh.Keeps remote prior →
        kind.toState remote (kind.toState remote prior) = kind.toState remote prior) ∧
      ∀ waits context w after state,
        let l : Lifecycle Wire := ⟨kind, waits⟩
        (∀ known, l.read context known w = (.ok (some state), after) →
          ∃ prior remote, kind.decode.fromState known = .ok prior ∧
            refresh.Gives waits context prior remote w state) ∧
        ∀ raw, l.importKey context raw w = (.ok state, after) →
          ∃ key remote, ImportKey.parse raw kind.keyNames = .ok key ∧
            refresh.Gives waits context (kind.ofKey key) remote w state := by
  refine ⟨rfl, ?_⟩
  intro refresh member kind
  constructor
  · intro remote prior keeps
    exact refresh.toState_toState keeps
  · intro waits context w after state l
    constructor
    · intro known run
      obtain ⟨prior, decoded, refreshed⟩ := Lifecycle.read_ok_iff.mp run
      obtain ⟨remote, gives⟩ := Refresh.gives_of_refresh member refreshed
      exact ⟨prior, remote, decoded, gives⟩
    · intro raw run
      obtain ⟨key, parsed, refreshed⟩ := Lifecycle.importKey_ok_iff.mp run
      obtain ⟨remote, gives⟩ := Refresh.gives_of_refresh member refreshed
      exact ⟨key, remote, parsed, gives⟩

namespace Connector

/-- The connector of an import key. -/
def namedSink : State := .named "env-1/lkc-1/sink" "env-1" "lkc-1"

/-- The connector as a server tells it that masks the password. -/
def maskedSink : Remote := ⟨"sink", ⟨running, none⟩, maskedSettings⟩

theorem masked_ready : Http.Ready (maskedWorld []) [runningAnswer, maskedAnswer] := ⟨rfl, rfl⟩

theorem read_named : ∃ after,
    kind.read ⟨Context.plain, none⟩ namedSink (maskedWorld []) = (.ok maskedSink, after) := by
  let session : Session := ⟨Context.plain, none⟩
  have accepting : session.context.client.retry.Accepting := Context.plain_accepting
  have found : api.object Context.plain namedSink = .ok namedSink.path := rfl
  have answered : (api.reading namedSink.path).Answered [runningAnswer, maskedAnswer]
    maskedSink := .two running_gives masked_gives
  have ready : Http.Ready (maskedWorld []) ([runningAnswer, maskedAnswer] ++ []) := masked_ready
  obtain ⟨after, run, _⟩ := Api.read_of_ready accepting found answered ready
  exact ⟨after, run⟩

theorem import_named : ∃ after,
    Lifecycle.importKey ⟨kind, fun _ => none⟩ Context.plain "env-1/lkc-1/sink" (maskedWorld []) =
      (.ok (State.ofRemote maskedSink namedSink).encode, after) := by
  have stable : classify maskedSink namedSink = .ok .stable :=
    (stable_iff _ _).mpr ⟨Or.inl rfl, Or.inl rfl⟩
  obtain ⟨after, run⟩ := api.refresh_of_answers (fun _ => none) Context.plain_accepting rfl
    (.two running_gives masked_gives) stable (by decide) masked_ready true
  exact ⟨after, Lifecycle.importKey_ok_iff.mpr
    ⟨⟨kind.keyNames, ["env-1", "lkc-1", "sink"], rfl⟩, rfl, run⟩⟩

theorem keeps_masked : Keeps maskedSink namedSink where
  named := ⟨"sink", by decide, by decide⟩
  plain := Or.inl rfl
  apart := rfl

end Connector

namespace KafkaTopic

theorem read_withheld : ∃ after, kind.read ⟨Context.plain, none⟩ secretState lookedAtWorld =
    (.ok (⟨⟨"lkc-1", "orders", 6⟩, [withheld]⟩ : Remote), after) := by
  let session : Session := ⟨Context.plain, none⟩
  have accepting : session.context.client.retry.Accepting := Context.plain_accepting
  obtain ⟨url, found⟩ : ∃ url, api.object session.context secretState = .ok url := ⟨_, rfl⟩
  have answered : (api.reading url).Answered [ordersAnswer, withheldAnswer]
    (⟨⟨"lkc-1", "orders", 6⟩, [withheld]⟩ : Remote) := .two orders_gives withheld_gives
  have ready : Http.Ready lookedAtWorld ([ordersAnswer, withheldAnswer] ++ []) := ⟨rfl, rfl⟩
  obtain ⟨after, run, _⟩ := Api.read_of_ready accepting found answered ready
  exact ⟨after, run⟩

end KafkaTopic

/-- A connector that was imported without the password that the server masks reads as it was
imported, and a topic keeps a setting that its cluster withholds from every look. -/
theorem refresh_idempotent_masked :
    (∃ state after, Lifecycle.importKey ⟨Connector.kind, fun _ => none⟩ Context.plain
        "env-1/lkc-1/sink" (Connector.maskedWorld []) = (.ok state, after) ∧
      state.setting? "config_nonsensitive" "password" = none ∧
      ∃ finish, Lifecycle.read ⟨Connector.kind, fun _ => none⟩ Context.plain state
        (Connector.maskedWorld []) = (.ok (some state), finish)) ∧
    ∃ state after, Lifecycle.read ⟨KafkaTopic.kind, fun _ => none⟩ Context.plain
        KafkaTopic.secretState.encode KafkaTopic.lookedAtWorld = (.ok (some state), after) ∧
      state.setting? "config" "sasl.secret" = some (.str "s3cret") ∧
      ∃ finish, Lifecycle.read ⟨KafkaTopic.kind, fun _ => none⟩ Context.plain state
        KafkaTopic.lookedAtWorld = (.ok (some state), finish) := by
  constructor
  · obtain ⟨after, run⟩ := Connector.import_named
    obtain ⟨_, imported⟩ := (refresh_idempotent.2 .connectors (by simp [Refresh.all])).2
      (fun _ => none) Context.plain (Connector.maskedWorld []) after _
    obtain ⟨key, remote, parsed, gives⟩ := imported _ run
    obtain rfl : (⟨Connector.kind.keyNames, ["env-1", "lkc-1", "sink"], rfl⟩ : ImportKey) = key :=
      Except.ok.inj parsed
    obtain ⟨_, looked⟩ := gives.read
    obtain ⟨_, read⟩ := Connector.read_named
    obtain rfl : Connector.maskedSink = remote :=
      Except.ok.inj (Prod.mk.inj (read.symm.trans looked)).1
    exact ⟨_, after, run, rfl, gives.rereads Connector.keeps_masked trivial _ (.refl _)⟩
  · obtain ⟨after, run⟩ := KafkaTopic.read_secret
    obtain ⟨readings, _⟩ := (refresh_idempotent.2 .kafkaTopics (by simp [Refresh.all])).2
      (fun _ => none) Context.plain KafkaTopic.lookedAtWorld after _
    obtain ⟨prior, remote, decoded, gives⟩ := readings _ run
    obtain rfl : KafkaTopic.secretState = prior :=
      Except.ok.inj ((KafkaTopic.round_trips KafkaTopic.secretState).symm.trans decoded)
    obtain ⟨_, looked⟩ := gives.read
    obtain ⟨_, read⟩ := KafkaTopic.read_withheld
    obtain rfl : (⟨⟨"lkc-1", "orders", 6⟩, [KafkaTopic.withheld]⟩ : KafkaTopic.Remote) = remote :=
      Except.ok.inj (Prod.mk.inj (read.symm.trans looked)).1
    have named : (⟨"lkc-1", "orders", 6⟩ : KafkaTopic.Description).clusterId ≠ "" := by decide
    exact ⟨_, after, run, rfl, gives.rereads trivial named _ (.refl _)⟩

end Provisioner
