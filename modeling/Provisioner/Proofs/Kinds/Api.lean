import Provisioner.Proofs.Http.Prompt
import Provisioner.Provider

/-!
# The calls of the kinds as data

Every kind creates with one POST, looks at an object with one or two GETs, changes it with a list of
writes that is settled before the first of them is sent, and deletes it with one DELETE. An entry of
the table says for one kind where these requests go, what they carry and how their answers are read,
and that its calls are exactly that.
-/

namespace Provisioner

set_option autoImplicit false

open Http
open Operation (Sends ofExcept run_bind run_ofExcept)

structure Write where
  method : Method
  path : String
  body : Option Json

/-- The GETs of one look at an object, and what their answers make up. -/
inductive Reading (ρ : Type) : Type 1 where
  | one (path : String) (decode : Decoder ρ)
  | two {α β : Type} (path : String) (decode : Decoder α) (second : String)
      (decodeSecond : Decoder β) (combine : α → β → ρ)

namespace Reading

variable {ρ : Type}

def paths : Reading ρ → List String
  | one path _ => [path]
  | two path _ second _ _ => [path, second]

def run (session : Session) : Reading ρ → Op Wire ρ
  | one path decode => session.get path decode
  | two path decode second decodeSecond combine => do
    let first ← session.get path decode
    let rest ← session.get second decodeSecond
    pure (combine first rest)

theorem sends_run (session : Session) (reading : Reading ρ) :
    (reading.run session).Sends fun request =>
      ∃ path ∈ reading.paths, request = session.request .get path none := by
  cases reading with
  | one path decode =>
    apply Sends.mono (session.sends_call .get path none decode)
    rintro request rfl
    exact ⟨path, by simp [paths], rfl⟩
  | two path decode second decodeSecond combine =>
    apply Sends.bind
    · apply Sends.mono (session.sends_call .get path none decode)
      rintro request rfl
      exact ⟨path, by simp [paths], rfl⟩
    · intro first
      apply Sends.bind
      · apply Sends.mono (session.sends_call .get second none decodeSecond)
        rintro request rfl
        exact ⟨second, by simp [paths], rfl⟩
      · intro rest
        exact .pure _

/-- The exchanges of a look that gave a value. -/
inductive Gave (session : Session) : Reading ρ → List Exchange → ρ → Prop where
  | one {path : String} {decode : Decoder ρ} {exchanges : List Exchange} {value : ρ}
      (called : Session.Called (session.request .get path none) decode exchanges value) :
      Gave session (.one path decode) exchanges value
  | two {α β : Type} {path : String} {decode : Decoder α} {second : String}
      {decodeSecond : Decoder β} {combine : α → β → ρ} {exchanges exchangesSecond : List Exchange}
      {first : α} {rest : β}
      (called : Session.Called (session.request .get path none) decode exchanges first)
      (calledSecond : Session.Called (session.request .get second none) decodeSecond
        exchangesSecond rest) :
      Gave session (.two path decode second decodeSecond combine) (exchanges ++ exchangesSecond)
        (combine first rest)

theorem gave_of_run {session : Session} {reading : Reading ρ} {w after : World Wire} {value : ρ}
    (run : reading.run session w = (.ok value, after)) :
    ∃ exchanges, Transcript w.peer exchanges after.peer ∧
      reading.Gave session exchanges value := by
  cases reading with
  | one path decode =>
    obtain ⟨exchanges, transcript, called⟩ := Session.called_of_call run
    exact ⟨exchanges, transcript, .one called⟩
  | two path decode second decodeSecond combine =>
    obtain ⟨first, middle, firstRun, rest⟩ := Operation.bind_ok_iff.mp run
    obtain ⟨other, last, secondRun, result⟩ := Operation.bind_ok_iff.mp rest
    obtain ⟨rfl, rfl⟩ := Operation.pure_ok_iff.mp result
    obtain ⟨exchanges, transcript, called⟩ := Session.called_of_call firstRun
    obtain ⟨later, transcriptLater, calledLater⟩ := Session.called_of_call secondRun
    exact ⟨exchanges ++ later, transcript.append transcriptLater, .two called calledLater⟩

/-- Answers from which a look makes up a value. -/
inductive Answered : Reading ρ → List Answer → ρ → Prop where
  | one {path : String} {decode : Decoder ρ} {answer : Answer} {value : ρ}
      (gives : answer.Gives decode value) : Answered (.one path decode) [answer] value
  | two {α β : Type} {path : String} {decode : Decoder α} {second : String}
      {decodeSecond : Decoder β} {combine : α → β → ρ} {answer answerSecond : Answer}
      {first : α} {rest : β} (gives : answer.Gives decode first)
      (givesSecond : answerSecond.Gives decodeSecond rest) :
      Answered (.two path decode second decodeSecond combine) [answer, answerSecond]
        (combine first rest)

theorem run_of_ready {session : Session} (accepting : session.context.client.retry.Accepting)
    {reading : Reading ρ} {answers rest : List Answer} {value : ρ}
    (answered : reading.Answered answers value) {w : World Wire}
    (ready : Ready w (answers ++ rest)) :
    ∃ after, reading.run session w = (.ok value, after) ∧ Ready after rest := by
  cases answered with
  | one gives =>
    obtain ⟨after, run, readyAfter, _⟩ := Session.call_of_ready accepting ready gives .get _ none
    exact ⟨after, run, readyAfter⟩
  | two gives givesSecond =>
    obtain ⟨middle, run, readyMiddle, _⟩ := Session.call_of_ready accepting ready gives .get _ none
    obtain ⟨after, runSecond, readyAfter, _⟩ :=
      Session.call_of_ready accepting readyMiddle givesSecond .get _ none
    refine ⟨after, ?_, readyAfter⟩
    exact Operation.bind_ok_iff.mpr ⟨_, middle, run,
      Operation.bind_ok_iff.mpr ⟨_, after, runSecond, rfl⟩⟩

end Reading

namespace Session

def tellAll (session : Session) : List Write → Op Wire Unit
  | [] => pure ()
  | write :: rest => do
    session.tell write.method write.path write.body
    session.tellAll rest

theorem tellAll_append (session : Session) (first second : List Write) :
    session.tellAll (first ++ second) = (do
      session.tellAll first
      session.tellAll second) := by
  induction first with
  | nil => rfl
  | cons write rest ih =>
    simp only [List.cons_append, tellAll, ih]
    rw [bind_assoc]

theorem tellAll_one (session : Session) (method : Method) (path : String) (body : Option Json) :
    session.tellAll [⟨method, path, body⟩] = session.tell method path body := by
  simp only [tellAll]
  exact bind_pure (session.tell method path body)

theorem sends_tellAll (session : Session) (writes : List Write) :
    (session.tellAll writes).Sends fun request =>
      ∃ write ∈ writes, request = session.request write.method write.path write.body := by
  induction writes with
  | nil => exact .pure ()
  | cons write rest ih =>
    apply Sends.bind
    · apply Sends.mono (session.sends_tell write.method write.path write.body)
      rintro request rfl
      exact ⟨write, by simp, rfl⟩
    · intro _
      apply Sends.mono ih
      rintro request ⟨later, member, rfl⟩
      exact ⟨later, by simp [member], rfl⟩

theorem sent_of_tellAll {session : Session} {writes : List Write} {w after : World Wire}
    (run : session.tellAll writes w = (.ok (), after)) :
    ∃ exchanges, Transcript w.peer exchanges after.peer ∧ ∀ write ∈ writes,
      ∃ exchange ∈ exchanges,
        exchange.sent.request = session.request write.method write.path write.body := by
  -- By induction on the writes: where all are accepted, each has been sent.
  induction writes generalizing w with
  | nil =>
    obtain ⟨_, rfl⟩ := Operation.pure_ok_iff.mp run
    exact ⟨[], .none _, by simp⟩
  | cons write rest ih =>
    obtain ⟨_, middle, telling, later⟩ := Operation.bind_ok_iff.mp run
    obtain ⟨first, transcript, exchange, member, same⟩ := sent_of_tell telling
    obtain ⟨others, transcriptLater, all⟩ := ih later
    refine ⟨first ++ others, transcript.append transcriptLater, ?_⟩
    intro other inside
    rcases List.mem_cons.mp inside with rfl | inRest
    · exact ⟨exchange, List.mem_append_left _ member, same⟩
    · obtain ⟨found, there, equal⟩ := all other inRest
      exact ⟨found, List.mem_append_right _ there, equal⟩

theorem call_map {α β : Type} (session : Session) (method : Method) (path : String)
    (body : Option Json) (decode : Decoder α) (complete : α → β) :
    (do
      let value ← session.call method path body decode
      pure (complete value)) =
        session.call method path body fun value => (decode value).map complete := by
  unfold call
  rw [bind_assoc]
  congr 1
  funext answer w
  rw [run_bind]
  simp only [run_ofExcept, Decoder.fromAnswer, Except.map]
  cases decode (Json.option answer) <;> rfl

end Session

structure Api where
  kind : Kind Wire
  /-- Where a new object is posted. -/
  collection : Context → kind.State → Except Error String
  posted : kind.State → Json
  created : Decoder kind.Remote
  /-- Where an object is. -/
  object : Context → kind.State → Except Error String
  reading : String → Reading kind.Remote
  /-- The writes that lead from a prior state to a desired one. -/
  writes : Context → kind.State → kind.State → List String → Except Error (List Write)
  create_eq : ∀ session desired, kind.create session desired = (do
    let path ← ofExcept (collection session.context desired)
    session.post path (posted desired) created)
  read_eq : ∀ session known, kind.read session known = (do
    let path ← ofExcept (object session.context known)
    (reading path).run session)
  update_eq : ∀ session prior desired changed, kind.update session prior desired changed = (do
    let writes ← ofExcept (writes session.context prior desired changed)
    session.tellAll writes)
  delete_eq : ∀ session known, kind.delete session known = (do
    let path ← ofExcept (object session.context known)
    session.delete path)

/-- A kind whose objects are the items of one collection, each under its identifier. One GET reads
an item, in its environment if it belongs to one, and one PATCH changes it. -/
structure ItemKind where
  kind : Kind Wire
  collection : String
  posted : kind.State → Json
  remote : Decoder kind.Remote
  environment : kind.State → Option String
  change : kind.State → List String → Json
  create_eq : ∀ session desired,
    kind.create session desired = session.post collection (posted desired) remote
  read_eq : ∀ session known, kind.read session known =
    session.get ((environment known).elim (childPath collection (kind.id known))
      (inEnvironment (childPath collection (kind.id known)))) remote
  update_eq : ∀ session prior desired changed, kind.update session prior desired changed =
    session.patch (childPath collection (kind.id desired)) (change desired changed)
  delete_eq : ∀ session known, kind.delete session known =
    session.delete ((environment known).elim (childPath collection (kind.id known))
      (inEnvironment (childPath collection (kind.id known))))

namespace ItemKind

/-- Where an item is written. -/
def target (item : ItemKind) (state : item.kind.State) : String :=
  childPath item.collection (item.kind.id state)

/-- Where an item is read. -/
def path (item : ItemKind) (state : item.kind.State) : String :=
  (item.environment state).elim (item.target state) (inEnvironment (item.target state))

def api (item : ItemKind) : Api where
  kind := item.kind
  collection _ _ := .ok item.collection
  posted := item.posted
  created := item.remote
  object _ known := .ok (item.path known)
  reading path := .one path item.remote
  writes _ _ desired changed :=
    .ok [⟨.patch, item.target desired, some (item.change desired changed)⟩]
  create_eq session desired := item.create_eq session desired
  read_eq session known := item.read_eq session known
  update_eq session prior desired changed := by
    rw [item.update_eq]
    exact (session.tellAll_one .patch (item.target desired)
      (some (item.change desired changed))).symm
  delete_eq session known := item.delete_eq session known

def environments : ItemKind where
  kind := Environment.kind
  collection := Environment.collectionPath
  posted := Environment.State.body
  remote := Environment.Remote.decode
  environment _ := none
  change desired _ := Environment.State.body desired
  create_eq _ _ := rfl
  read_eq _ _ := rfl
  update_eq _ _ _ _ := rfl
  delete_eq _ _ := rfl

def serviceAccounts : ItemKind where
  kind := ServiceAccount.kind
  collection := ServiceAccount.collectionPath
  posted := ServiceAccount.State.creationBody
  remote := ServiceAccount.Remote.decode
  environment _ := none
  change desired _ := ServiceAccount.State.changeBody desired
  create_eq _ _ := rfl
  read_eq _ _ := rfl
  update_eq _ _ _ _ := rfl
  delete_eq _ _ := rfl

def networks : ItemKind where
  kind := Network.kind
  collection := Network.collectionPath
  posted := Network.State.creationBody
  remote := Network.Remote.decode
  environment known := some (Network.State.environmentId known)
  change desired _ := Network.State.changeBody desired
  create_eq _ _ := rfl
  read_eq _ _ := rfl
  update_eq _ _ _ _ := rfl
  delete_eq _ _ := rfl

def kafkaClusters : ItemKind where
  kind := KafkaCluster.kind
  collection := KafkaCluster.collectionPath
  posted := KafkaCluster.State.creationBody
  remote := KafkaCluster.Remote.decode
  environment known := some (KafkaCluster.State.environmentId known)
  change := KafkaCluster.State.changeBody
  create_eq _ _ := rfl
  read_eq _ _ := rfl
  update_eq _ _ _ _ := rfl
  delete_eq _ _ := rfl

def flinkComputePools : ItemKind where
  kind := FlinkComputePool.kind
  collection := FlinkComputePool.collectionPath
  posted := FlinkComputePool.State.creationBody
  remote := FlinkComputePool.Remote.decode
  environment known := some (FlinkComputePool.State.environmentId known)
  change := FlinkComputePool.State.changeBody
  create_eq _ _ := rfl
  read_eq _ _ := rfl
  update_eq _ _ _ _ := rfl
  delete_eq _ _ := rfl

/-- The item kinds in the order of names. -/
def all : List ItemKind :=
  [environments, flinkComputePools, kafkaClusters, networks, serviceAccounts]

end ItemKind

namespace KafkaTopic

/-- The answer to a creation, which tells no settings yet. -/
def decodeCreated : Decoder Remote := fun value =>
  (Description.decode value).map fun topic => ⟨topic, []⟩

theorem create_eq (session : Session) (desired : State) :
    create session desired = (do
      let url ← ofExcept (desired.collectionUrl session.context.kafka)
      session.post url desired.creationBody decodeCreated) := by
  unfold create
  congr 1
  funext url
  exact session.call_map .post url (some desired.creationBody) Description.decode
    (Remote.mk · [])

/-- The writes of an update: partitions first, then settings. -/
def writes (url : String) (prior desired : State) (changed : List String) : List Write :=
  let partitions : List Write :=
    if changed.contains "partitions_count" then
      (desired.partitions.map fun count =>
        ⟨.patch, url, some (.obj [("partitions_count", .int64 count)])⟩).toList
    else []
  let alterations := Alteration.between prior.config desired.config
  let settings : List Write :=
    if changed.contains "config" && !alterations.isEmpty then
      [⟨.post, url ++ "/configs:alter",
        some (.obj [("data", .arr (alterations.map Alteration.encode))])⟩]
    else []
  partitions ++ settings

theorem mem_writes_iff {url : String} {prior desired : State} {changed : List String}
    {write : Write} : write ∈ writes url prior desired changed ↔
      ("partitions_count" ∈ changed ∧ ∃ count, desired.partitions = some count ∧
        write = ⟨.patch, url, some (.obj [("partitions_count", .int64 count)])⟩) ∨
      ("config" ∈ changed ∧ Alteration.between prior.config desired.config ≠ [] ∧
        write = ⟨.post, url ++ "/configs:alter", some (.obj [("data",
          .arr ((Alteration.between prior.config desired.config).map Alteration.encode))])⟩) := by
  unfold writes
  rw [List.mem_append]
  apply or_congr
  · by_cases changes : "partitions_count" ∈ changed
    · cases desired.partitions <;> simp [changes]
    · simp [changes]
  · by_cases changes : "config" ∈ changed
    · by_cases some : Alteration.between prior.config desired.config = []
      · simp [some]
      · simp [changes, some]
    · simp [changes]

theorem update_eq (session : Session) (prior desired : State) (changed : List String) :
    update session prior desired changed = (do
      let url ← ofExcept (desired.url session.context.kafka)
      session.tellAll (writes url prior desired changed)) := by
  unfold update
  congr 1
  funext url
  have settings : (if changed.contains "config" then
        alter session url (Alteration.between prior.config desired.config)
      else pure ()) = session.tellAll (if changed.contains "config" &&
        !(Alteration.between prior.config desired.config).isEmpty then
      [⟨.post, url ++ "/configs:alter", some (.obj [("data",
        .arr ((Alteration.between prior.config desired.config).map Alteration.encode))])⟩]
      else []) := by
    unfold alter
    cases changed.contains "config" with
    | false => rfl
    | true =>
      cases (Alteration.between prior.config desired.config).isEmpty with
      | false => exact (session.tellAll_one _ _ _).symm
      | true => rfl
  unfold writes setPartitions
  rw [session.tellAll_append, ← settings]
  cases changed.contains "partitions_count" with
  | false => rfl
  | true =>
    cases desired.partitions with
    | none => rfl
    | some count =>
      show _ = (session.tellAll [_] >>= fun _ => _)
      rw [session.tellAll_one]
      rfl

def api : Api where
  kind := kind
  collection context desired := State.collectionUrl desired context.kafka
  posted := State.creationBody
  created := decodeCreated
  object context known := State.url known context.kafka
  reading url :=
    .two url Description.decode (url ++ "/configs") ReportedSetting.decodeList Remote.mk
  writes context prior desired changed :=
    (State.url desired context.kafka).map fun url => writes url prior desired changed
  create_eq session desired := create_eq session desired
  read_eq _ _ := rfl
  update_eq session prior desired changed := by
    apply Eq.trans (update_eq session prior desired changed)
    cases State.url desired session.context.kafka <;> rfl
  delete_eq _ _ := rfl

/-- The writes of a topic go to its URL, which is known where there are any. -/
theorem writes_eq_ok_iff {context : Context} {prior desired : State} {changed : List String}
    {all : List Write} : api.writes context prior desired changed = .ok all ↔
      ∃ url, desired.url context.kafka = .ok url ∧ writes url prior desired changed = all := by
  have mapped : api.writes context prior desired changed =
    (desired.url context.kafka).map fun url => writes url prior desired changed := rfl
  rw [mapped]
  cases desired.url context.kafka with
  | error error => simp [Except.map]
  | ok url => simp [Except.map]

end KafkaTopic

namespace Connector

/-- The writes of an update: settings first, then the status. -/
def writes (prior desired : State) (changed : List String) : List Write :=
  let settings : List Write :=
    if changed.any fun name => "config_".toList.isPrefixOf name.toList then
      [⟨.put, desired.path ++ "/config", some desired.config.encode⟩]
    else []
  let status : List Write :=
    if changed.contains "status" then
      ((prior.statusAction? desired).map fun action =>
        ⟨.put, desired.path ++ "/" ++ action, none⟩).toList
    else []
  settings ++ status

theorem mem_writes_iff {prior desired : State} {changed : List String} {write : Write} :
    write ∈ writes prior desired changed ↔
      ((∃ name ∈ changed, "config_".toList.isPrefixOf name.toList = true) ∧
        write = ⟨.put, desired.path ++ "/config", some desired.config.encode⟩) ∨
      ("status" ∈ changed ∧ ∃ action, prior.statusAction? desired = some action ∧
        write = ⟨.put, desired.path ++ "/" ++ action, none⟩) := by
  unfold writes
  rw [List.mem_append]
  apply or_congr
  · rw [← List.any_eq_true]
    by_cases changes : (changed.any fun name => "config_".toList.isPrefixOf name.toList) = true
    · simp only [changes, if_true, List.mem_singleton, true_and]
    · simp only [changes, Bool.false_eq_true, if_false, List.not_mem_nil, false_and]
  · by_cases changes : "status" ∈ changed
    · cases prior.statusAction? desired <;> simp [changes]
    · simp [changes]

theorem update_eq (session : Session) (prior desired : State) (changed : List String) :
    update session prior desired changed = session.tellAll (writes prior desired changed) := by
  unfold update writes
  rw [session.tellAll_append]
  cases changed.any fun name => "config_".toList.isPrefixOf name.toList with
  | false =>
    cases changed.contains "status" with
    | false => rfl
    | true =>
      cases prior.statusAction? desired with
      | none => rfl
      | some action => exact (session.tellAll_one _ _ _).symm
  | true =>
    show _ = (session.tellAll [_] >>= fun _ => _)
    rw [session.tellAll_one]
    cases changed.contains "status" with
    | false => rfl
    | true =>
      cases prior.statusAction? desired with
      | none => rfl
      | some action =>
        show _ = (session.tell _ _ _ >>= fun _ => session.tellAll [_])
        rw [session.tellAll_one]
        rfl

def api : Api where
  kind := kind
  collection _ desired := .ok (State.collectionPath desired)
  posted := State.creationBody
  created := Remote.decodeCreated
  object _ known := .ok (State.path known)
  reading path :=
    .two (path ++ "/status") Remote.decodeStatus (path ++ "/config") Decoder.settings
      fun status config => ⟨status.1, status.2, config⟩
  writes _ prior desired changed := .ok (writes prior desired changed)
  create_eq _ _ := rfl
  read_eq _ _ := rfl
  update_eq session prior desired changed := update_eq session prior desired changed
  delete_eq _ _ := rfl

end Connector

/-- The calls of every kind, in the order of names. -/
def apis : List Api :=
  [Connector.api, ItemKind.environments.api, ItemKind.flinkComputePools.api,
    ItemKind.kafkaClusters.api, KafkaTopic.api, ItemKind.networks.api,
    ItemKind.serviceAccounts.api]

theorem kind_apis : apis.map Api.kind = kinds := rfl

namespace Api

variable {api : Api} {session : Session} {w after : World Wire}

/-- The requests that look at an object. -/
def Looks (api : Api) (session : Session) (known : api.kind.State) (request : Request) : Prop :=
  ∃ path, api.object session.context known = .ok path ∧
    ∃ place ∈ (api.reading path).paths, request = session.request .get place none

theorem sends_read (api : Api) (session : Session) (known : api.kind.State) :
    (api.kind.read session known).Sends (api.Looks session known) := by
  rw [api.read_eq]
  apply Sends.after
  intro path found
  apply Sends.mono ((api.reading path).sends_run session)
  intro request looks
  exact ⟨path, found, looks⟩

/-- The exchanges of a creation that was answered with a success that decodes. -/
def Posted (api : Api) (session : Session) (desired : api.kind.State) (exchanges : List Exchange)
    (created : api.kind.Remote) : Prop :=
  ∃ path, api.collection session.context desired = .ok path ∧
    Session.Called (session.request .post path (some (api.posted desired))) api.created exchanges
      created

theorem posted_of_create {desired : api.kind.State} {created : api.kind.Remote}
    (run : api.kind.create session desired w = (.ok created, after)) :
    ∃ exchanges, Transcript w.peer exchanges after.peer ∧
      api.Posted session desired exchanges created := by
  rw [api.create_eq] at run
  obtain ⟨path, found, calling⟩ := Operation.bind_ofExcept_ok_iff.mp run
  obtain ⟨exchanges, transcript, called⟩ := Session.called_of_call calling
  exact ⟨exchanges, transcript, path, found, called⟩

theorem create_of_ready (accepting : session.context.client.retry.Accepting)
    {desired : api.kind.State} {path : String}
    (found : api.collection session.context desired = .ok path) {answer : Answer}
    {rest : List Answer} {created : api.kind.Remote} (gives : answer.Gives api.created created)
    (ready : Ready w (answer :: rest)) :
    ∃ after, api.kind.create session desired w = (.ok created, after) ∧ Ready after rest := by
  obtain ⟨after, run, readyAfter, _⟩ := Session.call_of_ready accepting ready gives .post path
    (some (api.posted desired))
  refine ⟨after, ?_, readyAfter⟩
  rw [api.create_eq]
  exact Operation.bind_ofExcept_ok_iff.mpr ⟨path, found, run⟩

theorem update_of_ready (accepting : session.context.client.retry.Accepting)
    {prior desired : api.kind.State} {changed : List String} {write : Write}
    (only : api.writes session.context prior desired changed = .ok [write]) {answer : Answer}
    {rest : List Answer} {result : Option Json} (succeeds : answer.Succeeds result)
    (ready : Ready w (answer :: rest)) :
    ∃ after, api.kind.update session prior desired changed w = (.ok (), after) ∧
      Ready after rest ∧ after.peer.sent = w.peer.sent ++
        [⟨session.request write.method write.path write.body, w.now⟩] := by
  obtain ⟨after, run, readyAfter, sent⟩ := Session.tell_of_ready accepting ready succeeds
    write.method write.path write.body
  refine ⟨after, ?_, readyAfter, sent⟩
  rw [api.update_eq]
  refine Operation.bind_ofExcept_ok_iff.mpr ⟨[write], only, ?_⟩
  rw [session.tellAll_one]
  exact run

/-- The exchanges of a look that gave an object. -/
def Seen (api : Api) (session : Session) (known : api.kind.State) (exchanges : List Exchange)
    (remote : api.kind.Remote) : Prop :=
  ∃ path, api.object session.context known = .ok path ∧
    (api.reading path).Gave session exchanges remote

theorem seen_of_read {known : api.kind.State} {remote : api.kind.Remote}
    (run : api.kind.read session known w = (.ok remote, after)) :
    ∃ exchanges, Transcript w.peer exchanges after.peer ∧
      api.Seen session known exchanges remote := by
  rw [api.read_eq] at run
  obtain ⟨path, found, reading⟩ := Operation.bind_ofExcept_ok_iff.mp run
  obtain ⟨exchanges, transcript, gave⟩ := Reading.gave_of_run reading
  exact ⟨exchanges, transcript, path, found, gave⟩

theorem read_of_ready (accepting : session.context.client.retry.Accepting)
    {known : api.kind.State} {path : String}
    (found : api.object session.context known = .ok path) {answers rest : List Answer}
    {remote : api.kind.Remote} (answered : (api.reading path).Answered answers remote)
    (ready : Ready w (answers ++ rest)) :
    ∃ after, api.kind.read session known w = (.ok remote, after) ∧ Ready after rest := by
  obtain ⟨after, run, readyAfter⟩ := Reading.run_of_ready accepting answered ready
  refine ⟨after, ?_, readyAfter⟩
  rw [api.read_eq]
  exact Operation.bind_ofExcept_ok_iff.mpr ⟨path, found, run⟩

end Api

end Provisioner
