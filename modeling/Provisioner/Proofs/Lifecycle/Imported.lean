import Provisioner.Proofs.Kinds.Address
import Provisioner.Proofs.Lifecycle.Reimported
import Provisioner.Proofs.Provider.LookUp

/-!
# What an import key puts into a path

An import asks for the object that its key names, at the address of the object or at a word below
it. The parts of the key are encoded, so they hold no mark of a URL; but an encoding is empty or a
dot segment exactly if its identifier is. No part of a key is empty. A part may be a dot segment,
which whoever resolves the URL takes out of the path, with the collection in front of it where there
are two dots.
-/

namespace Provisioner

set_option autoImplicit false

open Http
open Text.Percent (encode encode_injective isUnreserved)
open Operation (Asks Sends)

namespace Http

/-- What does not stay in a path as a segment of its own when a URL is resolved. -/
def unsettled : List String := ["", ".", ".."]

theorem encode_mem_unsettled_iff {id : String} : encode id ∈ unsettled ↔ id ∈ unsettled := by
  have own : ∀ text ∈ unsettled, encode text = text := by decide
  constructor
  · intro member
    have same : encode (encode id) = encode id := own _ member
    rw [encode_injective same] at member
    exact member
  · intro member
    rw [own id member]
    exact member

namespace Address

/-- The identifiers in the path. That of the environment is in the query. -/
def pathIdentifiers (address : Address) : List String :=
  address.segments.filterMap Segment.identifier?

/-- The segments of the path that identifiers contribute. -/
def contributed (address : Address) : List String := address.pathIdentifiers.map encode

/-- The address itself, or a word below it. -/
def under (address : Address) : Option String → Address
  | none => address
  | some word => { address with segments := address.segments ++ [.word word] }

variable {address : Address}

theorem contributed_sublist : address.contributed.Sublist address.parts.segments := by
  unfold contributed pathIdentifiers parts
  induction address.segments with
  | nil => exact .slnil
  | cons segment rest ih =>
    cases segment with
    | word text => exact ih.cons text
    | identifier id => exact ih.cons_cons (encode id)

theorem pathIdentifiers_under (view : Option String) :
    (address.under view).pathIdentifiers = address.pathIdentifiers := by
  cases view with
  | none => rfl
  | some word => simp [under, pathIdentifiers, Segment.identifier?]

theorem clear_under (clear : address.form.Clear) {view : Option String}
    (unreserved : ∀ word ∈ view, word.toList.all isUnreserved = true) :
    (address.under view).form.Clear := by
  cases view with
  | none => exact clear
  | some word =>
    have words : (address.under (some word)).form.words = address.form.words ++ [some word] := by
      simp [under, form, Segment.word?]
    obtain ⟨first, rest, begin, headed, shape, foreign⟩ := clear.begins
    refine ⟨⟨first, rest, begin, ?_, shape, foreign⟩, ?_⟩
    · rw [words, List.head?_append, headed, Option.some_or]
    · rw [words]
      intro other member
      rcases List.mem_append.mp (List.reduceOption_mem_iff.mp member) with own | below
      · exact clear.unreserved other (List.reduceOption_mem_iff.mpr own)
      · obtain rfl := Option.some.inj (List.mem_singleton.mp below)
        exact unreserved other rfl

theorem text_under (clear : address.form.Clear) (free : address.environment = none)
    (word : String) : (address.under (some word)).text = address.text ++ "/" ++ word := by
  have path : (address.under (some word)).path = address.path ++ "/" ++ word := by
    unfold path under compositeId
    rw [List.map_append, List.map_singleton, String.intercalate_append_of_ne_nil
      (segments_ne_nil clear) (List.cons_ne_nil _ _), String.intercalate_singleton]
    rfl
  have same : (address.under (some word)).environment = address.environment := rfl
  unfold text
  rw [same, free, Option.elim_none, Option.elim_none, path]

end Address

end Http

/-- How a kind looks at the objects that import keys name. -/
structure Looking where
  addressing : Addressing
  /-- Where a look asks: at the object itself or at a word below it. -/
  views : List (Option String)
  /-- The parts of a key that are segments of the path. -/
  named : List String
  paths_eq : ∀ path, (addressing.api.reading path).paths =
    views.map fun view => view.elim path (path ++ "/" ++ ·)
  unreserved : ∀ view ∈ views, ∀ word ∈ view, word.toList.all isUnreserved = true
  /-- A query would come in front of the word. -/
  unrestricted : ∀ view ∈ views, view.isSome → ∀ context state,
    (addressing.address context state).environment = none
  distinct : addressing.api.kind.keyNames.Nodup
  named_mem : ∀ name ∈ named, name ∈ addressing.api.kind.keyNames
  identifiers_eq : ∀ (context : Context) {raw : String} {key : ImportKey},
    ImportKey.parse raw addressing.api.kind.keyNames = .ok key →
      (addressing.address context (addressing.api.kind.ofKey key)).pathIdentifiers =
        named.map key.segment

namespace ImportKey

variable {raw : String} {names : List String} {key : ImportKey}

theorem segment_leaf (front : List String) {last : String}
    (parsed : parse raw (front ++ [last]) = .ok key) (distinct : (front ++ [last]).Nodup) :
    key.segment last = key.leaf := by
  have names := (parse_ok_iff.mp parsed).1
  unfold segment
  rw [segment?_leaf names (names ▸ distinct), Option.getD_some]

theorem idSegments_toId (parsed : parse raw names = .ok key) :
    idSegments key.toId = key.segments := by
  have segments := (parse_ok_iff.mp parsed).2.1
  unfold toId
  rw [segments, compositeId_idSegments]

end ImportKey

namespace Looking

/-- One GET of an object that the last part of its key names. -/
def ofLeaf (addressing : Addressing) (front : List String) (last : String)
    (keyNames : addressing.api.kind.keyNames = front ++ [last])
    (distinct : (front ++ [last]).Nodup)
    (paths_eq : ∀ path, (addressing.api.reading path).paths = [path])
    (identifiers_eq : ∀ context key,
      (addressing.address context (addressing.api.kind.ofKey key)).pathIdentifiers = [key.leaf]) :
    Looking where
  addressing := addressing
  views := [none]
  named := [last]
  paths_eq := paths_eq
  unreserved := by simp
  unrestricted := by simp
  distinct := keyNames ▸ distinct
  named_mem := by
    intro name member
    rw [List.mem_singleton.mp member, keyNames]
    simp
  identifiers_eq := by
    intro context raw key parsed
    rw [keyNames] at parsed
    rw [identifiers_eq, List.map_singleton, ImportKey.segment_leaf front parsed distinct]

def environments : Looking :=
  ofLeaf .environments [] "environment_id" rfl (by decide) (fun _ => rfl) fun _ _ => rfl

def flinkComputePools : Looking :=
  ofLeaf .flinkComputePools ["environment_id"] "compute_pool_id" rfl (by decide) (fun _ => rfl)
    fun _ _ => rfl

def kafkaClusters : Looking :=
  ofLeaf .kafkaClusters ["environment_id"] "cluster_id" rfl (by decide) (fun _ => rfl)
    fun _ _ => rfl

def networks : Looking :=
  ofLeaf .networks ["environment_id"] "network_id" rfl (by decide) (fun _ => rfl) fun _ _ => rfl

def serviceAccounts : Looking :=
  ofLeaf .serviceAccounts [] "service_account_id" rfl (by decide) (fun _ => rfl) fun _ _ => rfl

/-- The name of an imported connector is read from the joined key. -/
def connectors : Looking where
  addressing := .connectors
  views := [some "status", some "config"]
  named := ["environment_id", "kafka_cluster_id", "connector_name"]
  paths_eq path := by
    simp only [List.map_cons, List.map_nil, Option.elim_some, String.append_assoc]
    rfl
  unreserved := by decide
  unrestricted _ _ _ _ _ := rfl
  distinct := by decide
  named_mem := by decide
  identifiers_eq := by
    intro context raw key parsed
    have leaf : key.segment "connector_name" = key.leaf :=
      ImportKey.segment_leaf ["environment_id", "kafka_cluster_id"] parsed (by decide)
    have name : Connector.State.name (Connector.kind.ofKey key) = key.leaf := by
      show (idSegments key.toId).getLast?.getD "" = key.leaf
      rw [ImportKey.idSegments_toId parsed]
      rfl
    show [key.segment "environment_id", key.segment "kafka_cluster_id",
      Connector.State.name (Connector.kind.ofKey key)] = _
    rw [name, ← leaf]
    rfl

def kafkaTopics : Looking where
  addressing := .kafkaTopics
  views := [none, some "configs"]
  named := ["kafka_cluster_id", "topic_name"]
  paths_eq path := by
    simp only [List.map_cons, List.map_nil, Option.elim_some, Option.elim_none,
      String.append_assoc]
    rfl
  unreserved := by decide
  unrestricted _ _ _ _ _ := rfl
  distinct := by decide
  named_mem := by decide
  identifiers_eq := by
    intro context raw key parsed
    have leaf : key.segment "topic_name" = key.leaf :=
      ImportKey.segment_leaf ["kafka_cluster_id"] parsed (by decide)
    have plain : Plain (key.segment "kafka_cluster_id") :=
      ImportKey.plain_segment parsed (by decide) (by decide)
    have cluster : KafkaTopic.State.clusterId (KafkaTopic.kind.ofKey key) context.kafka =
        key.segment "kafka_cluster_id" := KafkaTopic.clusterId_of_plain plain rfl context.kafka
    show [KafkaTopic.State.clusterId (KafkaTopic.kind.ofKey key) context.kafka, key.leaf] = _
    rw [cluster, ← leaf]
    rfl

variable {looking : Looking} {context : Context} {state : looking.addressing.api.kind.State}
  {path : String}

theorem located (found : looking.addressing.api.object context state = .ok path) {place : String}
    (member : place ∈ (looking.addressing.api.reading path).paths) :
    ∃ view ∈ looking.views, ((looking.addressing.address context state).under view).Located
      (looking.addressing.base context state) (context.client.url place) := by
  rw [looking.paths_eq] at member
  obtain ⟨view, listed, rfl⟩ := List.mem_map.mp member
  have clearAddress := looking.addressing.clear_address context state
  have clear := Address.clear_under clearAddress (looking.unreserved view listed)
  have below : view.elim path (path ++ "/" ++ ·) = looking.addressing.origin context state ++
      "/" ++ ((looking.addressing.address context state).under view).text := by
    rw [looking.addressing.path_eq found]
    cases view with
    | none => rfl
    | some word =>
      rw [Address.text_under clearAddress (looking.unrestricted _ listed rfl context state)]
      simp only [Option.elim_some, String.append_assoc]
  obtain ⟨c, rest, shape, foreign⟩ := Address.text_begins clear
  have url : context.client.url (looking.addressing.origin context state ++ "/" ++
      ((looking.addressing.address context state).under view).text) = _ :=
    Client.url_append (looking.addressing.bare context state) shape foreign
  refine ⟨view, listed, ?_⟩
  rw [below, url]
  exact Address.located clear _

theorem contributed_eq {raw : String} {key : ImportKey}
    (parsed : ImportKey.parse raw looking.addressing.api.kind.keyNames = .ok key)
    (view : Option String) :
    ((looking.addressing.address context (looking.addressing.api.kind.ofKey key)).under
      view).contributed = looking.named.map fun name => encode (key.segment name) := by
  unfold Address.contributed
  rw [Address.pathIdentifiers_under, looking.identifiers_eq context parsed, List.map_map]
  rfl

theorem plain_named {raw : String} {key : ImportKey}
    (parsed : ImportKey.parse raw looking.addressing.api.kind.keyNames = .ok key) {name : String}
    (member : name ∈ looking.named) : Plain (key.segment name) :=
  ImportKey.plain_segment parsed looking.distinct (looking.named_mem name member)

end Looking

theorem Plain.mem_unsettled_iff {id : String} (plain : Plain id) :
    id ∈ unsettled ↔ id = "." ∨ id = ".." := by
  have notEmpty : id ≠ "" := fun empty => plain.not_isEmpty (String.isEmpty_iff.mpr empty)
  simp [unsettled, notEmpty]

theorem Plain.encode_ne_empty {id : String} (plain : Plain id) : encode id ≠ "" := by
  intro empty
  have same : encode id = encode "" := empty
  exact plain.not_isEmpty (String.isEmpty_iff.mpr (encode_injective same))

theorem Reading.asks {ρ : Type} (session : Session) (reading : Reading ρ) :
    ∃ path, (reading.run session).Asks (session.request .get path none) := by
  cases reading with
  | one path decode => exact ⟨path, .get session path decode⟩
  | two path decode second decodeSecond combine =>
    refine ⟨path, (Asks.get session path decode).bind ?_⟩
    intro first
    have rest : (session.get second decodeSecond).Sends fun _ => True :=
      Sends.mono (session.sends_call .get second none decodeSecond) fun _ _ => trivial
    exact rest.bind fun _ => .pure _

theorem Api.asks_import (api : Api) (waits : Transition → Option WaitOptions) {context : Context}
    {raw : String} {key : ImportKey} (parsed : ImportKey.parse raw api.kind.keyNames = .ok key)
    {path : String} (found : api.object context (api.kind.ofKey key) = .ok path) :
    ∃ request, (Lifecycle.importKey ⟨api.kind, waits⟩ context raw).Asks request := by
  let session : Session := ⟨context, api.kind.credentials context (api.kind.ofKey key)⟩
  obtain ⟨place, asks⟩ := (api.reading path).asks session
  have reads : (api.kind.read session (api.kind.ofKey key)).Asks
      (session.request .get place none) := by
    rw [api.read_eq]
    show (Operation.ofExcept (api.object context (api.kind.ofKey key)) >>= _).Asks _
    rw [found]
    exact asks
  exact ⟨_, Lifecycle.asks_import ⟨api.kind, waits⟩ context parsed reads⟩

/-- How each of the kinds looks at what an import key names. -/
def lookings : List Looking :=
  [.connectors, .environments, .flinkComputePools, .kafkaClusters, .kafkaTopics, .networks,
    .serviceAccounts]

/-- A key that is accepted leads to GETs below the object that it names, and to at least one where
the object has an address and the world is not stopped. What its parts contribute to the paths is
never empty, and it stays in them as segments of their own exactly if no part of the key that names
a segment is a dot segment. -/
theorem imported_segments_stay_iff (waits : Transition → Option WaitOptions) (context : Context)
    (raw : String) :
    lookings.map (fun looking => looking.addressing.api.kind) = kinds ∧
    ∀ looking ∈ lookings, ∀ key,
      ImportKey.parse raw looking.addressing.api.kind.keyNames = .ok key →
      let state := looking.addressing.api.kind.ofKey key
      let imported := Lifecycle.importKey ⟨looking.addressing.api.kind, waits⟩ context raw
      (∀ w, ∀ entry ∈ imported.sent w, ∃ view ∈ looking.views,
        let address := (looking.addressing.address context state).under view
        entry.request.method = .get ∧
        address.Located (looking.addressing.base context state) entry.request.url ∧
        address.contributed.Sublist address.parts.segments ∧
        address.pathIdentifiers = looking.named.map key.segment ∧
        "" ∉ address.contributed ∧
        ((∀ segment ∈ address.contributed, segment ∉ unsettled) ↔
          ∀ name ∈ looking.named, key.segment name ≠ "." ∧ key.segment name ≠ "..")) ∧
      ∀ path, looking.addressing.api.object context state = .ok path →
        ∀ w, w.isStopped = false → imported.sent w ≠ [] := by
  refine ⟨rfl, ?_⟩
  intro looking _ key parsed
  refine ⟨?_, ?_⟩
  · intro w entry member
    obtain ⟨found, parsedFound, path, named, place, inside, same⟩ :=
      (looking.addressing.api.sends_import waits context raw).of_sent w member
    cases Except.ok.inj (parsed.symm.trans parsedFound)
    obtain ⟨view, listed, located⟩ := looking.located named inside
    rw [same]
    refine ⟨view, listed, rfl, located, Address.contributed_sublist, ?_, ?_, ?_⟩
    · rw [Address.pathIdentifiers_under, looking.identifiers_eq context parsed]
    · rw [looking.contributed_eq parsed]
      intro empty
      obtain ⟨name, given, encoded⟩ := List.mem_map.mp empty
      exact (looking.plain_named parsed given).encode_ne_empty encoded
    · rw [looking.contributed_eq parsed, List.forall_mem_map]
      apply forall₂_congr
      intro name given
      rw [encode_mem_unsettled_iff, (looking.plain_named parsed given).mem_unsettled_iff, not_or]
  · intro path named w running
    obtain ⟨request, asks⟩ := looking.addressing.api.asks_import waits parsed named
    obtain ⟨entry, member, _⟩ := asks.sent running
    exact List.ne_nil_of_mem member

/-- The blank in the name of a connector is escaped, so its parts stay. -/
theorem imported_segments_stay_connector :
    let imported :=
      Lifecycle.importKey ⟨Connector.kind, fun _ => none⟩ Context.plain "env-1/lkc-1/a b"
    imported.sent { peer := {} } ≠ [] ∧
      ∀ entry ∈ imported.sent { peer := {} }, ∃ address : Address,
        address.Located "https://api.confluent.cloud" entry.request.url ∧
        address.contributed = ["env-1", "lkc-1", "a%20b"] ∧
        ∀ segment ∈ address.contributed, segment ∉ unsettled := by
  have listed : Looking.connectors ∈ lookings := by simp [lookings]
  obtain ⟨asked, some⟩ := (imported_segments_stay_iff (fun _ => none) Context.plain
    "env-1/lkc-1/a b").2 .connectors listed _ rfl
  refine ⟨some _ rfl { peer := {} } rfl, ?_⟩
  intro entry member
  obtain ⟨view, _, _, located, _, identifiers, _, stays⟩ := asked { peer := {} } entry member
  refine ⟨_, located, ?_, stays.mpr (by decide)⟩
  unfold Address.contributed
  rw [identifiers]
  decide

namespace Environment

/-- A key of two dots is accepted, and what is asked for is below the collection only until the URL
is resolved. -/
theorem import_leaves_collection :
    (∃ key, ImportKey.parse ".." kind.keyNames = .ok key) ∧
    ∃ entry ∈ (Lifecycle.importKey ⟨kind, fun _ => none⟩ Context.plain "..").sent { peer := {} },
      entry.request.url = "https://api.confluent.cloud/org/v2/environments/.." ∧
      (Parts.ofText entry.request.url).segments.getLast? = some ".." := by
  obtain ⟨key, parsed, named⟩ : ∃ key, ImportKey.parse ".." kind.keyNames = .ok key ∧
      ItemKind.environments.path (ItemKind.environments.kind.ofKey key) =
        "/org/v2/environments/.." := ⟨_, rfl, by decide⟩
  have gets := ItemKind.environments.gets_import (fun _ => none) Context.plain parsed
  obtain ⟨entry, member⟩ := List.exists_mem_of_ne_nil _ (gets.some { peer := {} } rfl)
  have url : entry.request.url = "https://api.confluent.cloud/org/v2/environments/.." := by
    rw [(gets.only { peer := {} } entry member).2.1, named]
    decide
  refine ⟨⟨key, parsed⟩, entry, member, url, ?_⟩
  rw [url]
  decide

end Environment

end Provisioner
