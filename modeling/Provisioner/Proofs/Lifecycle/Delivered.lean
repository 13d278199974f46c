import Provisioner.Proofs.Kinds.ConnectorSettings
import Provisioner.Proofs.Kinds.RoundTrip
import Provisioner.Proofs.Lifecycle.Requested
import Provisioner.Proofs.Lifecycle.Told

/-!
# The settings sent for a connector

Both maps of a connector are sent as one. The check of a creation refuses a name that stands in
both, so what a creation sends is the disjoint union. The check of an update does not look for such
a name: what it sends then is the secret value alone, and a secret name can be another one than that
of the connector that it is sent to.
-/

namespace Provisioner.Connector

set_option autoImplicit false

open Http

/-- Both maps of a state are what a configuration tells. -/
structure State.IsTold (s : State) (config : Json) : Prop where
  plain : decodeSettings.told "config_nonsensitive" .empty config = .ok s.plain
  secret : decodeSettings.told "config_sensitive" .empty config = .ok s.secret

section Bodies

variable {waits : Transition → Option WaitOptions} {context : Context} {w : World Wire}
  {entry : Sent} {body config priorState : Json} {prior desired : State} {changed : List String}

theorem isTold_of_decodeValid
    (decoded : Lifecycle.decodeValid ⟨kind, waits⟩ config = .ok desired) :
    desired.IsTold config :=
  ⟨toldPlain.told_of_decodeValid decoded, toldSecret.told_of_decodeValid decoded⟩

theorem isTold_of_prepareUpdate
    (prepared : Lifecycle.prepareUpdate ⟨kind, waits⟩ priorState config prior =
      .ok (desired, changed)) : desired.IsTold config :=
  ⟨toldPlain.told_of_prepareUpdate prepared, toldSecret.told_of_prepareUpdate prepared⟩

theorem body_of_create
    (member : entry ∈ (Lifecycle.create ⟨kind, waits⟩ context config).sent w)
    (carried : entry.request.body = some body) :
    ∃ desired : State, desired.IsTold config ∧ desired.check = .ok () ∧
      entry.request.method = .post ∧
      entry.request.url = context.client.url desired.collectionPath ∧
      body = .obj [("config", desired.config.encode), ("name", .str desired.name)] := by
  obtain ⟨desired, path, decoded, checked, found, sent⟩ := api.posts_of_body waits member carried
  refine ⟨desired, isTold_of_decodeValid decoded, checked, ?_, ?_, ?_⟩
  · rw [sent]
    rfl
  · have located : State.collectionPath desired = path := Except.ok.inj found
    rw [sent, located]
    rfl
  · rw [sent] at carried
    exact (Option.some.inj carried).symm

theorem eq_of_mem_writes {write : Write} (member : write ∈ writes prior desired changed)
    (carried : write.body = some body) :
    write = ⟨.put, desired.path ++ "/config", some desired.config.encode⟩ := by
  rcases mem_writes_iff.mp member with ⟨_, settings⟩ | ⟨_, _, _, rfl⟩
  · exact settings
  · cases carried

theorem body_of_update
    (member : entry ∈ (Lifecycle.update ⟨kind, waits⟩ context priorState config).sent w)
    (carried : entry.request.body = some body) :
    ∃ prior desired : State, ∃ changed, kind.decode.fromState priorState = .ok prior ∧
      Lifecycle.prepareUpdate ⟨kind, waits⟩ priorState config prior = .ok (desired, changed) ∧
      entry.request.method = .put ∧
      entry.request.url =
        context.client.url (childPath desired.collectionPath desired.name ++ "/config") ∧
      body = desired.config.encode := by
  obtain ⟨prior, desired, changed, decoded, prepared, listed, found, write, inside, sent⟩ :=
    api.writes_of_body waits member carried
  have writing : writes prior desired changed = listed := Except.ok.inj found
  rw [← writing] at inside
  obtain ⟨methods, urls, bodies⟩ : entry.request.method = write.method ∧
      entry.request.url = context.client.url write.path ∧ entry.request.body = write.body := by
    rw [sent]
    exact ⟨rfl, rfl, rfl⟩
  rw [eq_of_mem_writes inside (bodies.symm.trans carried)] at methods urls bodies
  exact ⟨prior, desired, changed, decoded, prepared, methods, urls,
    Option.some.inj (carried.symm.trans bodies)⟩

theorem mem_writes_of_changed
    (changes : "config_nonsensitive" ∈ changed ∨ "config_sensitive" ∈ changed) :
    ⟨.put, desired.path ++ "/config", some desired.config.encode⟩ ∈
      writes prior desired changed := by
  refine mem_writes_iff.mpr (Or.inl ⟨?_, rfl⟩)
  rcases changes with plain | secret
  · exact ⟨_, plain, by decide⟩
  · exact ⟨_, secret, by decide⟩

theorem body_sent_by_create {state : Json} {after : World Wire}
    (run : Lifecycle.create ⟨kind, waits⟩ context config w = (.ok state, after)) :
    ∃ entry ∈ (Lifecycle.create ⟨kind, waits⟩ context config).sent w,
      entry.request.body ≠ none := by
  obtain ⟨entry, member, _, _, _, _, _, sent⟩ := api.post_sent_of_run waits run
  refine ⟨entry, member, ?_⟩
  rw [sent]
  exact Option.some_ne_none _

theorem body_sent_by_update {state : Json} {after : World Wire}
    (run : Lifecycle.update ⟨kind, waits⟩ context priorState config w = (.ok state, after))
    {names : List String}
    (named : kind.schema.changedNames priorState (kind.schema.mergeComputed priorState config) =
      names) (changes : "config_nonsensitive" ∈ names ∨ "config_sensitive" ∈ names) :
    ∃ entry ∈ (Lifecycle.update ⟨kind, waits⟩ context priorState config).sent w,
      entry.request.body ≠ none := by
  subst named
  have some : kind.schema.changedNames priorState
      (kind.schema.mergeComputed priorState config) ≠ [] := by
    intro none
    rw [none] at changes
    rcases changes with plain | secret
    · cases plain
    · cases secret
  obtain ⟨prior, desired, listed, _, found, all⟩ := api.writes_sent_of_run waits run some
  have writing : writes prior desired _ = listed := Except.ok.inj found
  obtain ⟨entry, member, sent⟩ := all _ (writing ▸ mem_writes_of_changed changes)
  refine ⟨entry, member, ?_⟩
  rw [sent]
  exact Option.some_ne_none _

end Bodies

/-- What a creation sends is the disjoint union of the two configured maps, and its name the one
that the connector gets. What an update sends is for every name the secret value, or else the plain
one: it holds both maps exactly if they agree where they overlap, and no other name than that of
the path exactly if no other name is secret. A creation that gives a state has sent it, and so has
an update that gives one and changes settings. -/
theorem sent_settings_unite_iff (waits : Transition → Option WaitOptions) (context : Context) :
    (∀ (config : Json) (w : World Wire),
      ∀ entry ∈ (Lifecycle.create ⟨kind, waits⟩ context config).sent w, ∀ body,
      entry.request.body = some body →
      ∃ desired : State, desired.IsTold config ∧ desired.check = .ok () ∧
        entry.request.method = .post ∧
        entry.request.url = context.client.url desired.collectionPath ∧
        body = .obj [("config", desired.config.encode), ("name", .str desired.name)] ∧
        desired.Unites desired.config ∧
        (∀ name, desired.plain.contains name = true → desired.secret.contains name = false) ∧
        desired.config.get? "name" = some desired.name) ∧
    (∀ (priorState config : Json) (w : World Wire),
      ∀ entry ∈ (Lifecycle.update ⟨kind, waits⟩ context priorState config).sent w, ∀ body,
      entry.request.body = some body →
      ∃ prior desired : State, ∃ changed, kind.decode.fromState priorState = .ok prior ∧
        Lifecycle.prepareUpdate ⟨kind, waits⟩ priorState config prior = .ok (desired, changed) ∧
        desired.IsTold config ∧ entry.request.method = .put ∧
        entry.request.url =
          context.client.url (childPath desired.collectionPath desired.name ++ "/config") ∧
        body = desired.config.encode ∧
        (∀ name, desired.config.get? name =
          (desired.secret.get? name).or (desired.plain.get? name)) ∧
        (desired.Unites desired.config ↔ desired.Agrees) ∧
        ((∀ name, desired.config.get? "name" = some name → name = desired.name) ↔
          ∀ name, desired.secret.get? "name" = some name → name = desired.name)) ∧
    (∀ (config : Json) (w : World Wire) (state : Json) (after : World Wire),
      Lifecycle.create ⟨kind, waits⟩ context config w = (.ok state, after) →
      ∃ entry ∈ (Lifecycle.create ⟨kind, waits⟩ context config).sent w,
        entry.request.body ≠ none) ∧
    ∀ (priorState config : Json) (w : World Wire) (state : Json) (after : World Wire),
      Lifecycle.update ⟨kind, waits⟩ context priorState config w = (.ok state, after) →
      ∀ names, kind.schema.changedNames priorState (kind.schema.mergeComputed priorState config) =
        names → ("config_nonsensitive" ∈ names ∨ "config_sensitive" ∈ names) →
      ∃ entry ∈ (Lifecycle.update ⟨kind, waits⟩ context priorState config).sent w,
        entry.request.body ≠ none := by
  refine ⟨?_, ?_, ?_, ?_⟩
  · intro config w entry member body carried
    obtain ⟨desired, told, checked, method, url, same⟩ := body_of_create member carried
    have apart := State.sharedName?_eq_none_iff.mp (State.check_ok_iff.mp checked).2.1
    exact ⟨desired, told, checked, method, url, same,
      State.unites_config_iff.mpr (State.agrees_of_check checked), apart,
      State.config_name_of_check checked⟩
  · intro priorState config w entry member body carried
    obtain ⟨prior, desired, changed, decoded, prepared, method, url, same⟩ :=
      body_of_update member carried
    exact ⟨prior, desired, changed, decoded, prepared, isTold_of_prepareUpdate prepared, method,
      url, same, State.get?_config desired, State.unites_config_iff, State.config_name_iff⟩
  · intro config w state after run
    exact body_sent_by_create run
  · intro priorState config w state after run names named changes
    exact body_sent_by_update run named changes

def listedState : State := { askedState with id := "env-1/lkc-1/sink" }

def withSecret (name value : String) : State :=
  { listedState with secret := ⟨[(name, value)], List.pairwise_singleton _ _⟩ }

def secretConfig (name value : String) : Json :=
  .obj [
    ("config_nonsensitive", .obj [("name", .str "sink")]),
    ("config_sensitive", .obj [(name, .str value)]),
    ("environment", .arr [.obj [("id", .str "env-1")]]),
    ("kafka_cluster", .arr [.obj [("id", .str "lkc-1")]]),
    ("status", .str "RUNNING")]

theorem secret_prepared (name value : String) :
    Lifecycle.prepareUpdate ⟨kind, fun _ => none⟩ listedState.encode (secretConfig name value)
      listedState = .ok (withSecret name value, ["config_sensitive"]) := by
  rfl

/-- A server that accepts a change of the settings. -/
def acceptingWorld : World Wire where
  peer := { script := [createdAnswer] }

theorem secret_sent (name value : String) :
    ∃ entry ∈ (Lifecycle.update ⟨kind, fun _ => none⟩ Context.plain listedState.encode
        (secretConfig name value)).sent acceptingWorld,
      entry.request.method = .put ∧
      entry.request.url = Context.plain.client.url ((withSecret name value).path ++ "/config") ∧
      entry.request.body = some (withSecret name value).config.encode := by
  have ready : Ready acceptingWorld [createdAnswer] := ⟨rfl, rfl⟩
  obtain ⟨_, result, succeeds, _⟩ := created_gives
  exact api.write_sent (fun _ => none) Context.plain_accepting (round_trips listedState)
    (secret_prepared name value) (by simp) rfl ready succeeds

/-- An update with a secret name is accepted, although a creation refuses it, and sends that name to
the path of the connector. -/
theorem update_sends_other_name :
    ∃ prior desired : State, ∃ entry ∈ (Lifecycle.update ⟨kind, fun _ => none⟩ Context.plain
        listedState.encode (secretConfig "name" "other")).sent acceptingWorld,
      kind.decode.fromState listedState.encode = .ok prior ∧
      Lifecycle.prepareUpdate ⟨kind, fun _ => none⟩ listedState.encode
        (secretConfig "name" "other") prior = .ok (desired, ["config_sensitive"]) ∧
      desired.check ≠ .ok () ∧
      entry.request.method = .put ∧
      entry.request.url =
        Context.plain.client.url (childPath desired.collectionPath "sink" ++ "/config") ∧
      entry.request.body = some (.obj [("name", .str "other")]) ∧
      desired.plain.get? "name" = some "sink" ∧ ¬desired.Unites desired.config := by
  obtain ⟨entry, member, method, url, body⟩ := secret_sent "name" "other"
  have overrides : ¬(withSecret "name" "other").Agrees := by
    intro agrees
    exact absurd (agrees "name" "sink" "other" rfl rfl) (by decide)
  refine ⟨listedState, withSecret "name" "other", entry, member, round_trips listedState,
    secret_prepared "name" "other", ?_, method, ?_, ?_, rfl, ?_⟩
  · intro checked
    exact overrides (State.agrees_of_check checked)
  · exact url
  · rw [body]
    rfl
  · rw [State.unites_config_iff]
    exact overrides

def maskedAnswer : Answer :=
  .ofText "\x7b\"name\":\"sink\",\"password\":\"****************\"\x7d"

def maskedSettings : Settings :=
  ⟨[("name", "sink"), ("password", masked)], List.pairwise_pair.mpr (by decide)⟩

theorem masked_gives : maskedAnswer.Gives Decoder.settings maskedSettings :=
  Answer.ofText_gives (.obj [("name", .str "sink"), ("password", .str "****************")])
    (by cbv) (by cbv) (by cbv)

/-- A server that masks the password in every look. -/
def maskedWorld (answers : List Answer) : World Wire where
  peer := { script := answers ++ [runningAnswer, maskedAnswer] }

def writtenAnswers : List Answer := [createdAnswer, runningAnswer, maskedAnswer]

theorem create_masked :
    ∃ after, Lifecycle.create ⟨kind, fun _ => none⟩ Context.plain
        (secretConfig "password" "s3cret") (maskedWorld writtenAnswers) =
      (.ok (withSecret "password" "s3cret").encode, after) := by
  have decoded : Lifecycle.decodeValid ⟨api.kind, fun _ => none⟩
      (secretConfig "password" "s3cret") =
        .ok { withSecret "password" "s3cret" with id := "" } := by rfl
  have stable : classify ⟨"sink", ⟨running, none⟩, maskedSettings⟩
      (.ofRemote ⟨"sink", ⟨"", none⟩, .empty⟩ { withSecret "password" "s3cret" with id := "" }) =
        .ok .stable := (stable_iff _ _).mpr ⟨Or.inl rfl, Or.inl rfl⟩
  have ready : Ready (maskedWorld writtenAnswers)
      [createdAnswer, runningAnswer, maskedAnswer, runningAnswer, maskedAnswer] := ⟨rfl, rfl⟩
  obtain ⟨_, _, after, _, _, run⟩ := Api.create_of_answers api (fun _ => none)
    Context.plain_accepting decoded rfl rfl created_gives rfl (.two running_gives masked_gives) stable
    (.two running_gives masked_gives) ready
  exact ⟨after, run⟩

/-- A creation and an update with a secret that is no name send both maps. -/
theorem sent_settings_unite_secret :
    (∃ desired : State, ∃ entry ∈ (Lifecycle.create ⟨kind, fun _ => none⟩ Context.plain
        (secretConfig "password" "s3cret")).sent (maskedWorld writtenAnswers),
      desired.IsTold (secretConfig "password" "s3cret") ∧ entry.request.method = .post ∧
      entry.request.body =
        some (.obj [("config", desired.config.encode), ("name", .str desired.name)]) ∧
      desired.Unites desired.config) ∧
    ∃ desired : State, ∃ entry ∈ (Lifecycle.update ⟨kind, fun _ => none⟩ Context.plain
        listedState.encode (secretConfig "password" "s3cret")).sent acceptingWorld,
      desired.IsTold (secretConfig "password" "s3cret") ∧ entry.request.method = .put ∧
      entry.request.body = some desired.config.encode ∧ desired.Unites desired.config ∧
      ∀ name, desired.config.get? "name" = some name → name = desired.name := by
  obtain ⟨creates, updates, posts, _⟩ := sent_settings_unite_iff (fun _ => none) Context.plain
  constructor
  · obtain ⟨after, run⟩ := create_masked
    obtain ⟨entry, member, carries⟩ := posts _ _ _ _ run
    obtain ⟨body, carried⟩ := Option.ne_none_iff_exists'.mp carries
    obtain ⟨desired, told, _, method, _, same, unites, _⟩ := creates _ _ entry member body carried
    exact ⟨desired, entry, member, told, method, carried.trans (congrArg some same), unites⟩
  · obtain ⟨entry, member, method, _, body⟩ := secret_sent "password" "s3cret"
    obtain ⟨prior, desired, changed, decoded, prepared, told, _, _, same, _, unites, names⟩ :=
      updates _ _ _ entry member _ body
    have before : listedState = prior :=
      Except.ok.inj ((round_trips listedState).symm.trans decoded)
    rw [← before, secret_prepared] at prepared
    have after : withSecret "password" "s3cret" = desired :=
      congrArg Prod.fst (Except.ok.inj prepared)
    refine ⟨desired, entry, member, told, method, body.trans (congrArg some same),
      unites.mpr ?_, names.mpr ?_⟩
    · rw [← after]
      exact State.agrees_of_check rfl
    · rw [← after]
      intro name inSecret
      cases inSecret

end Provisioner.Connector
