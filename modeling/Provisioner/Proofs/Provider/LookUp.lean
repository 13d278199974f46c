import Provisioner.Proofs.Http.Stopping
import Provisioner.Proofs.ImportKey
import Provisioner.Proofs.Kinds.Place
import Provisioner.Proofs.Kinds.Readable
import Provisioner.Proofs.Lifecycle.Requests
import Provisioner.Proofs.Provider.Refused
import Provisioner.Proofs.Validation

/-!
# What a lookup reads

A lookup joins the identifiers that its configuration gives to an import key and takes the key apart
again. The schema of the lookup makes sure that there are as many identifiers as the key has
segments, and a slash in one of them makes a segment too many. So a lookup is refused, or it asks
for the object that its configuration names and for nothing else.
-/

namespace Provisioner

set_option autoImplicit false

open Http (Client Request Wire)
open Operation (Sends)

/-- In a world that is not stopped the operation begins with the request. -/
def Operation.Asks {ε α : Type} (op : Operation Wire ε α) (request : Request) : Prop :=
  ∀ w, w.isStopped = false →
    ∃ later, (op w).2.peer.sent = w.peer.sent ++ ⟨request, w.now⟩ :: later

namespace Operation.Asks

variable {ε α β : Type} {request : Request}

theorem bind {first : Operation Wire ε α} {next : α → Operation Wire ε β}
    (asks : first.Asks request) (tail : ∀ value, (next value).Sends fun _ => True) :
    (first >>= next).Asks request := by
  intro w running
  obtain ⟨later, begun⟩ := asks w running
  rcases run : first w with ⟨error | value, middle⟩
  all_goals rw [run] at begun
  · rw [bind_of_error run]
    exact ⟨later, begun⟩
  · obtain ⟨exchanges, transcript, _⟩ := tail value middle
    rw [bind_of_ok run, transcript.sent_eq, begun, List.append_assoc]
    exact ⟨later ++ exchanges.map Http.Exchange.sent, rfl⟩

theorem sent {op : Operation Wire ε α} (asks : op.Asks request) {w : World Wire}
    (running : w.isStopped = false) : ∃ entry ∈ op.sent w, entry.request = request := by
  obtain ⟨later, begun⟩ := asks w running
  unfold Operation.sent
  rw [begun, List.drop_left]
  exact ⟨_, List.mem_cons_self, rfl⟩

theorem outcome {ε' : Type} {op : Operation Wire ε α} (asks : op.Asks request) :
    (op.outcome : Operation Wire ε' (Except ε α)).Asks request := asks

theorem ask (request : Request) : (Http.ask request).Asks request := by
  intro w running
  rw [Http.ask_of_running running]
  exact ⟨[], rfl⟩

theorem attempt (request : Request) : (Http.attempt request).Asks request := by
  unfold Http.attempt
  apply bind (ask request)
  intro answer
  exact Sends.bind (Op.Sends.pause _) fun _ => .pure _

theorem exchange (policy : Http.RetryPolicy) (request : Request) (number left : Nat) :
    (Http.exchange policy request number (left + 1)).Asks request := by
  rw [Http.exchange]
  apply (attempt request).bind
  intro delivery
  cases policy.pauseAfter? number delivery with
  | none => exact .of_peer_eq fun _ => rfl
  | some delay =>
    apply Sends.bind (Op.Sends.pause delay)
    intro _ w
    obtain ⟨exchanges, transcript, _⟩ := Http.traces_exchange policy request w.stopAt _ left w rfl
    exact ⟨exchanges, transcript, fun _ _ => trivial⟩

theorem send (policy : Http.RetryPolicy) (request : Request) :
    (Http.send policy request).Asks request := by
  intro w
  obtain ⟨left, limit⟩ := policy.attemptLimit_eq_succ w.peer
  unfold Http.send
  rw [limit]
  exact exchange policy request 1 left w

theorem get {α : Type} (session : Session) (path : String) (decode : Decoder α) :
    (session.get path decode).Asks (session.request .get path none) :=
  (send _ _).bind fun _ => .ofExcept _

end Operation.Asks

/-- The operation fails without doing anything. -/
def Op.Refuses {α : Type} (op : Op Wire α) : Prop := ∀ w, ∃ error, op w = (.error error, w)

/-- All that is sent are GETs of the URL, and one is sent unless the world is stopped. -/
structure Op.Gets {α : Type} (op : Op Wire α) (url : String) : Prop where
  only : ∀ w, ∀ entry ∈ op.sent w,
    entry.request.method = .get ∧ entry.request.url = url ∧ entry.request.body = none
  some : ∀ w, w.isStopped = false → op.sent w ≠ []

theorem Lifecycle.asks_import (l : Lifecycle Wire) (context : Context) {raw : String}
    {key : ImportKey} (parsed : ImportKey.parse raw l.kind.keyNames = .ok key) {request : Request}
    (reads : (l.kind.read (l.session context (l.kind.ofKey key)) (l.kind.ofKey key)).Asks
      request) : (l.importKey context raw).Asks request := by
  have refreshes : (l.refresh context (l.kind.ofKey key) true).Asks request := by
    apply reads.outcome.bind
    intro result
    cases result with
    | error error =>
      simp only
      split
      · exact .pure none
      · exact .of_peer_eq fun _ => rfl
    | ok remote =>
      apply Sends.bind (.ofExcept _)
      intro state
      split
      · exact .pure none
      · exact .of_peer_eq fun _ => rfl
  unfold importKey
  rw [parsed]
  apply refreshes.bind
  intro found
  cases found with
  | none => exact Op.Sends.fail _
  | some state => exact .pure state

namespace ItemKind

variable (item : ItemKind) (waits : Transition → Option WaitOptions) (context : Context)

theorem gets_import {raw : String} {key : ImportKey}
    (parsed : ImportKey.parse raw item.kind.keyNames = .ok key) :
    (Lifecycle.importKey ⟨item.kind, waits⟩ context raw).Gets
      (context.client.url (item.path (item.kind.ofKey key))) := by
  constructor
  · intro w entry member
    obtain ⟨found, parsedFound, path, located, place, inside, same⟩ :=
      (item.api.sends_import waits context raw).of_sent w member
    cases Except.ok.inj (parsed.symm.trans parsedFound)
    cases Except.ok.inj located
    rw [List.mem_singleton.mp inside] at same
    rw [same]
    exact ⟨rfl, rfl, rfl⟩
  · intro w running
    have asks : (Lifecycle.importKey ⟨item.kind, waits⟩ context raw).Asks
        (Session.request ⟨context, item.kind.credentials context (item.kind.ofKey key)⟩ .get
          (item.path (item.kind.ofKey key)) none) := by
      apply Lifecycle.asks_import _ context parsed
      rw [item.read_eq]
      exact .get _ _ _
    obtain ⟨entry, member, _⟩ := asks.sent running
    exact List.ne_nil_of_mem member

theorem url_path {item : ItemKind} (rooted : Http.Rooted item.collection)
    (known : item.kind.State) (client : Client) :
    client.url (item.path known) = client.endpoint ++ item.path known := by
  apply String.toList_injective
  rw [(rooted_path rooted known).url, String.toList_append]

theorem import_refuses {raw : String} {error : Error}
    (refused : ImportKey.parse raw item.kind.keyNames = .error error) :
    (Lifecycle.importKey ⟨item.kind, waits⟩ context raw).Refuses := by
  intro w
  unfold Lifecycle.importKey
  rw [refused]
  exact ⟨_, rfl⟩

end ItemKind

/-- A configuration names an object by its identifier and the environment that the object is in. -/
structure NamesInEnvironment (config : Json) (id environment : String) : Prop where
  id : config.get? "id" = some (.str id)
  environment : ∃ first rest, config.get? "environment" = some (.arr (first :: rest)) ∧
    first.get? "id" = some (.str environment)

section Reading

variable {entries : List (String × Json)}

theorem Fields.lookup_of_required_text {name value : String} (sorted : Keyed.Sorted entries)
    (decoded : (Fields.required name Decoder.text).ofEntries (Json.dropNullsEntries entries) =
      .ok value) : entries.lookup name = some (.str value) := by
  rcases (Fields.single_dropNulls_ok_iff sorted).mp decoded with ⟨given, found, _, read⟩ | ⟨_, none⟩
  · cases given with
    | str text =>
      rw [found, ← Except.ok.inj read]
    | _ => cases read
  · cases none

theorem Reference.get?_of_item {flags : Flags} {item : Json} {name path : String}
    {reference : Reference} (wellFormed : item.WellFormed)
    (valid : (Block.reference flags).check item path = [])
    (decoded : Reference.decodeAs name item.dropNulls = .ok reference) :
    item.get? "id" = some (.str reference.id) := by
  cases item with
  | obj entries =>
    obtain ⟨id, read, rfl⟩ := Fields.map_ofEntries_ok_iff.mp (Decoder.record_obj_ok_iff.mp decoded)
    exact Fields.lookup_of_required_text wellFormed.1 read
  | null => cases decoded
  | arr items =>
    unfold Block.reference at valid
    simp [Block.check] at valid
  | _ => cases decoded

theorem Decoder.first_of_items {α : Type} {decode : Decoder α} {first : Json} {rest : List Json}
    {values : List α} (read : Decoder.items decode (first :: rest) = .ok values) :
    ∃ value others, values = value :: others ∧ decode first = .ok value := by
  unfold Decoder.items at read
  cases one : decode first with
  | error fault =>
    rw [one] at read
    cases read
  | ok value =>
    rw [one] at read
    cases more : Decoder.items decode rest with
    | error fault =>
      rw [more] at read
      cases read
    | ok others =>
      rw [more] at read
      exact ⟨value, others, (Except.ok.inj read).symm, rfl⟩

theorem Reference.first_of_block {flags : Flags} {nesting : Nesting} {name path : String}
    (least : 0 < nesting.minItems) (given : nesting.computed = false)
    (wellFormed : (Json.obj entries).WellFormed)
    (valid : nesting.checkEntry (Block.reference flags) (entries.lookup name) path = [])
    {references : List Reference}
    (decoded : (Fields.defaulted name [] (Decoder.list (Reference.decodeAs "IdRef"))).ofEntries
      (Json.dropNullsEntries entries) = .ok references) :
    ∃ reference others first rest, references = reference :: others ∧
      entries.lookup name = some (.arr (first :: rest)) ∧
      first.get? "id" = some (.str reference.id) := by
  have notEmpty : nesting.check [] path ≠ [] := by
    unfold Nesting.check
    simp [least, given]
  cases found : entries.lookup name with
  | none =>
    rw [found] at valid
    exact absurd valid notEmpty
  | some value =>
    rw [found] at valid
    rcases (Fields.single_dropNulls_ok_iff wellFormed.1).mp decoded with
      ⟨_, same, _, read⟩ | ⟨absent | null, _⟩
    · cases found.symm.trans same
      cases value with
      | arr items =>
        cases items with
        | nil => exact absurd (List.append_eq_nil_iff.mp valid).1 notEmpty
        | cons first rest =>
          obtain ⟨_, itemValid⟩ :=
            flatMap_zipIdx_eq_nil (List.append_eq_nil_iff.mp valid).2 List.mem_cons_self
          obtain ⟨reference, others, rfl, one⟩ := Decoder.first_of_items read
          have wellFormedItem :=
            Json.WellFormed.of_item (wellFormed.of_lookup found) List.mem_cons_self
          exact ⟨reference, others, first, rest, rfl, rfl,
            get?_of_item wellFormedItem itemValid one⟩
      | null => exact absurd valid notEmpty
      | _ => cases read
    · rw [absent] at found
      cases found
    · cases found.symm.trans null
      exact absurd valid notEmpty

end Reading

theorem Query.decode_obj_iff {entries : List (String × Json)} {query : Query} :
    Query.decode (.obj entries) = .ok query ↔
      (Fields.required "id" Decoder.text).ofEntries entries = .ok query.id ∧
        (Fields.defaulted "environment" [] (Decoder.list (Reference.decodeAs "IdRef"))).ofEntries
          entries = .ok query.environment := by
  unfold Query.decode
  rw [Decoder.record_obj_ok_iff]
  simp only [Fields.seq_ofEntries_ok_iff, Fields.map_ofEntries_ok_iff]
  constructor
  · rintro ⟨_, environment, ⟨id, read, rfl⟩, readEnvironment, rfl⟩
    exact ⟨read, readEnvironment⟩
  · rintro ⟨read, readEnvironment⟩
    exact ⟨_, query.environment, ⟨query.id, read, rfl⟩, readEnvironment, rfl⟩

theorem lookupKey_ok {type key : String} {schema : Schema} {config : Json}
    (known : lookupSchemas.lookup type = some schema) (found : lookupKey type config = .ok key) :
    ∃ entries query, config = .obj entries ∧ schema.validate config = [] ∧
      Query.decode (.obj (Json.dropNullsEntries entries)) = .ok query ∧ key = query.key := by
  unfold lookupKey at found
  rw [known] at found
  simp only [bind, Except.bind] at found
  cases valid : schema.ensureValid config with
  | error error =>
    rw [valid] at found
    cases found
  | ok =>
    rw [valid] at found
    cases decoded : Query.decode.fromState config with
    | error error =>
      simp only [decoded] at found
      cases found
    | ok query =>
      simp only [decoded] at found
      have read := Decoder.fromState_ok_iff.mp decoded
      rcases obj_of_ensureValid valid with rfl | ⟨entries, rfl⟩
      · cases read
      · exact ⟨entries, query, rfl, (schema.ensureValid_iff_validate _).mp valid, read,
          (Except.ok.inj found).symm⟩

namespace KafkaCluster

theorem environment_of_valid {entries : List (String × Json)}
    (valid : lookupSchema.validate (.obj entries) = []) :
    Nesting.exactlyOne.checkEntry (.reference .mandatory) (entries.lookup "environment")
      (joinPath "" "environment") = [] :=
  (Block.check_obj_eq_nil_iff.mp valid).2.1 ("environment", .exactlyOne, .reference .mandatory)
    (by simp [lookupSchema])

/-- The key of a cluster that is looked up names what the configuration names. -/
theorem lookupKey_names {config : Json} (wellFormed : config.WellFormed) {key : String}
    (found : lookupKey kind.name config = .ok key) :
    ∃ id environment, NamesInEnvironment config id environment ∧
      key = compositeId [environment, id] := by
  have listed : lookupSchemas.lookup kind.name = some lookupSchema := rfl
  obtain ⟨entries, query, rfl, valid, decoded, rfl⟩ := lookupKey_ok listed found
  obtain ⟨readId, readEnvironment⟩ := Query.decode_obj_iff.mp decoded
  obtain ⟨reference, others, first, rest, same, there, named⟩ := Reference.first_of_block
    (by decide) rfl wellFormed (environment_of_valid valid) readEnvironment
  refine ⟨query.id, reference.id, ⟨Fields.lookup_of_required_text wellFormed.1 readId,
    first, rest, there, named⟩, ?_⟩
  unfold Query.key
  rw [same]
  rfl

theorem url_of_parsed {id environment : String} {key : ImportKey}
    (parsed : ImportKey.parse (compositeId [environment, id]) kind.keyNames = .ok key) :
    Plain id ∧ Plain environment ∧ ∀ client : Client,
      client.url (ItemKind.kafkaClusters.path (ItemKind.kafkaClusters.kind.ofKey key)) =
        client.endpoint ++ "/cmk/v2/clusters/" ++ Text.Percent.encode id ++ "?environment=" ++
          Text.Percent.encode environment := by
  have length : [environment, id].length = kind.keyNames.length := rfl
  obtain ⟨plain, names, segments⟩ :=
    (ImportKey.parse_compositeId_ok_iff (List.cons_ne_nil _ _) length).mp parsed
  have leaf : key.leaf = id := by
    unfold ImportKey.leaf
    rw [segments]
    rfl
  have parent : key.segment "environment_id" = environment := by
    unfold ImportKey.segment ImportKey.segment?
    rw [names, segments]
    rfl
  refine ⟨plain id (by simp), plain environment (by simp), fun client => ?_⟩
  rw [ItemKind.url_path ⟨_, _, rfl, by decide⟩]
  show client.endpoint ++ inEnvironment (childPath collectionPath key.leaf)
    (key.segment "environment_id") = _
  rw [leaf, parent]
  simp only [inEnvironment, childPath, collectionPath, String.append_assoc]
  rfl

end KafkaCluster

namespace Environment

/-- The key of an environment that is looked up is its identifier, or it has a segment too many. -/
theorem lookupKey_names {config : Json} (wellFormed : config.WellFormed) {key : String}
    (found : lookupKey kind.name config = .ok key) :
    ∃ id, config.get? "id" = some (.str id) ∧
      (key = compositeId [id] ∨ ∃ environment, key = compositeId [environment, id]) := by
  have listed : lookupSchemas.lookup kind.name = some lookupSchema := rfl
  obtain ⟨entries, query, rfl, valid, decoded, rfl⟩ := lookupKey_ok listed found
  obtain ⟨readId, readEnvironment⟩ := Query.decode_obj_iff.mp decoded
  refine ⟨query.id, Fields.lookup_of_required_text wellFormed.1 readId, ?_⟩
  unfold Query.key
  cases single? query.environment with
  | none => exact Or.inl String.intercalate_singleton.symm
  | some environment => exact Or.inr ⟨environment.id, rfl⟩

theorem url_of_parsed {id : String} {key : ImportKey}
    (parsed : ImportKey.parse (compositeId [id]) kind.keyNames = .ok key) :
    Plain id ∧ ∀ client : Client,
      client.url (ItemKind.environments.path (ItemKind.environments.kind.ofKey key)) =
        client.endpoint ++ "/org/v2/environments/" ++ Text.Percent.encode id := by
  have length : [id].length = kind.keyNames.length := rfl
  obtain ⟨plain, names, segments⟩ :=
    (ImportKey.parse_compositeId_ok_iff (List.cons_ne_nil _ _) length).mp parsed
  have leaf : key.leaf = id := by
    unfold ImportKey.leaf
    rw [segments]
    rfl
  refine ⟨plain id (by simp), fun client => ?_⟩
  rw [ItemKind.url_path ⟨_, _, rfl, by decide⟩]
  show client.endpoint ++ childPath collectionPath key.leaf = _
  rw [leaf]
  simp only [childPath, collectionPath, String.append_assoc]
  rfl

theorem not_parsed_of_two {id environment : String} (key : ImportKey) :
    ImportKey.parse (compositeId [environment, id]) kind.keyNames ≠ .ok key := by
  have short : kind.keyNames.length < [environment, id].length := Nat.lt_succ_self 1
  exact ImportKey.parse_compositeId_of_lt (List.cons_ne_nil _ _) short key

end Environment

theorem KafkaCluster.kind_listed : KafkaCluster.kind ∈ kinds := by simp [kinds]

theorem Environment.kind_listed : Environment.kind ∈ kinds := by simp [kinds]

namespace Provider

theorem lookUp_cases (p : Provider) {kind : Kind Wire} (member : kind ∈ kinds) (config : Json) :
    (p.lookUp kind.name config).Refuses ∨
      ∃ context key, p.context = some context ∧ lookupKey kind.name config = .ok key ∧
        p.lookUp kind.name config = (p.lifecycle kind).importKey context key := by
  unfold lookUp
  cases found : lookupKey kind.name config with
  | error error => exact Or.inl fun w => ⟨error, rfl⟩
  | ok key =>
    show (p.transition kind.name fun l context => l.importKey context key).Refuses ∨ _
    cases configured : p.context with
    | none =>
      refine Or.inl fun w => ⟨unconfigured, ?_⟩
      unfold transition
      rw [p.lifecycle_of_kind member, configured]
      rfl
    | some context =>
      refine Or.inr ⟨context, key, rfl, rfl, ?_⟩
      exact p.transition_of_kind member configured _

/-- A lookup is refused, or all it sends are GETs of the object that its configuration names. -/
theorem lookUp_reads_named (p : Provider) (config : Json) (wellFormed : config.WellFormed) :
    ((p.lookUp "confluent_kafka_cluster" config).Refuses ∨
      ∃ context id environment, p.context = some context ∧
        NamesInEnvironment config id environment ∧ Plain id ∧ Plain environment ∧
        (p.lookUp "confluent_kafka_cluster" config).Gets
          (context.client.endpoint ++ "/cmk/v2/clusters/" ++ Text.Percent.encode id ++
            "?environment=" ++ Text.Percent.encode environment)) ∧
    ((p.lookUp "confluent_environment" config).Refuses ∨
      ∃ context id, p.context = some context ∧ config.get? "id" = some (.str id) ∧ Plain id ∧
        (p.lookUp "confluent_environment" config).Gets
          (context.client.endpoint ++ "/org/v2/environments/" ++ Text.Percent.encode id)) := by
  constructor
  · rcases p.lookUp_cases KafkaCluster.kind_listed config with
      refused | ⟨context, raw, configured, found, same⟩
    · exact Or.inl refused
    · obtain ⟨id, environment, named, rfl⟩ := KafkaCluster.lookupKey_names wellFormed found
      have lookedUp : p.lookUp "confluent_kafka_cluster" config =
        (p.lifecycle KafkaCluster.kind).importKey context (compositeId [environment, id]) := same
      rw [lookedUp]
      cases parsed : ImportKey.parse (compositeId [environment, id]) KafkaCluster.kind.keyNames with
      | error error =>
        exact Or.inl (ItemKind.kafkaClusters.import_refuses (fun _ => p.waits) context parsed)
      | ok key =>
        obtain ⟨plain, plainEnvironment, url⟩ := KafkaCluster.url_of_parsed parsed
        have gets := ItemKind.kafkaClusters.gets_import (fun _ => p.waits) context parsed
        rw [url] at gets
        exact Or.inr ⟨context, id, environment, configured, named, plain, plainEnvironment, gets⟩
  · rcases p.lookUp_cases Environment.kind_listed config with
      refused | ⟨context, raw, configured, found, same⟩
    · exact Or.inl refused
    · have lookedUp : p.lookUp "confluent_environment" config =
        (p.lifecycle Environment.kind).importKey context raw := same
      rw [lookedUp]
      cases parsed : ImportKey.parse raw Environment.kind.keyNames with
      | error error =>
        exact Or.inl (ItemKind.environments.import_refuses (fun _ => p.waits) context parsed)
      | ok key =>
        obtain ⟨id, named, one | ⟨environment, two⟩⟩ := Environment.lookupKey_names wellFormed found
        · rw [one] at parsed
          obtain ⟨plain, url⟩ := Environment.url_of_parsed parsed
          have gets := ItemKind.environments.gets_import (fun _ => p.waits) context parsed
          rw [url, ← one] at gets
          exact Or.inr ⟨context, id, configured, named, plain, gets⟩
        · rw [two] at parsed
          exact absurd parsed (Environment.not_parsed_of_two key)

/-- A cluster to look up, with a name beside its identifiers that no lookup declares. -/
def clusterQuery : Json :=
  .obj [
    ("environment", .arr [.obj [("id", .str "env-1")]]),
    ("id", .str "lkc 1"),
    ("name", .str "a/b")]

theorem wellFormed_clusterQuery : clusterQuery.WellFormed := by
  have one := List.pairwise_singleton (fun a b : String × Json => a.1 < b.1) ("id", .str "env-1")
  exact ⟨Keyed.sorted_of_keys ["environment", "id", "name"] rfl (by decide),
    ⟨⟨one, trivial, trivial⟩, trivial⟩, trivial, trivial, trivial⟩

/-- The cluster that is asked for is read, in its environment. -/
theorem lookUp_reads_named_cluster :
    clusterQuery.WellFormed ∧
      (KafkaTopic.plainProvider.lookUp "confluent_kafka_cluster" clusterQuery).Gets
        "https://api.confluent.cloud/cmk/v2/clusters/lkc%201?environment=env-1" := by
  refine ⟨wellFormed_clusterQuery, ?_⟩
  rcases (KafkaTopic.plainProvider.lookUp_reads_named clusterQuery wellFormed_clusterQuery).1 with
    refuses | ⟨context, id, environment, configured, names, _, _, gets⟩
  · obtain ⟨error, refused⟩ := refuses { peer := {} }
    have asked : (KafkaTopic.plainProvider.lookUp "confluent_kafka_cluster" clusterQuery
        { peer := {} }).2.peer.sent.length = 1 := by decide +kernel
    rw [refused] at asked
    cases asked
  · obtain ⟨first, rest, given, named⟩ := names.environment
    cases configured
    cases names.id
    cases given
    cases named
    have url : Context.plain.client.endpoint ++ "/cmk/v2/clusters/" ++
        Text.Percent.encode "lkc 1" ++ "?environment=" ++ Text.Percent.encode "env-1" =
          "https://api.confluent.cloud/cmk/v2/clusters/lkc%201?environment=env-1" := by
      decide +kernel
    rw [url] at gets
    exact gets

end Provider

end Provisioner
