import Provisioner.Proofs.Http.Address
import Provisioner.Proofs.Kinds.Api

/-!
# The addresses of the kinds

An entry of the table says for one kind where the URL of an object begins and which address it ends
with. All addresses of a kind have one form, so that the URL of an object gives back what tells it
from others: its identifier, with the environment where the kind belongs to one; environment,
cluster and name of a connector; cluster and name of a topic.
-/

namespace Provisioner

set_option autoImplicit false

open Http

/-- Where the objects of a kind are. -/
structure Addressing where
  api : Api
  /-- What the path of an object begins with, if it is not on the platform. -/
  origin : Context → api.kind.State → String
  address : Context → api.kind.State → Address
  /-- What tells an object from the others of its kind. -/
  identity : Context → api.kind.State → List String
  form : Address.Form
  clear : form.Clear
  form_eq : ∀ context state, (address context state).form = form
  identifiers_eq : ∀ context state, (address context state).identifiers = identity context state
  bare : ∀ context state, (origin context state).toList.getLast? ≠ some '/'
  path_eq : ∀ {context state path}, api.object context state = .ok path →
    path = origin context state ++ "/" ++ (address context state).text

namespace Addressing

/-- What the URL of an object begins with. -/
def base (addressing : Addressing) (context : Context) (state : addressing.api.kind.State) :
    String :=
  context.client.base (addressing.origin context state)

variable {addressing : Addressing}

theorem clear_address (context : Context) (state : addressing.api.kind.State) :
    (addressing.address context state).form.Clear :=
  addressing.form_eq context state ▸ addressing.clear

theorem url_eq {context : Context} {state : addressing.api.kind.State} {path : String}
    (found : addressing.api.object context state = .ok path) :
    context.client.url path =
      addressing.base context state ++ "/" ++ (addressing.address context state).text := by
  have clear := addressing.clear_address context state
  obtain ⟨c, rest, shape, foreign⟩ := Address.text_begins clear
  rw [addressing.path_eq found]
  exact Client.url_append (addressing.bare context state) shape foreign

theorem located {context : Context} {state : addressing.api.kind.State} {path : String}
    (found : addressing.api.object context state = .ok path) :
    (addressing.address context state).Located (addressing.base context state)
      (context.client.url path) := by
  rw [addressing.url_eq found]
  exact Address.located (addressing.clear_address context state) _

theorem url_inj {context later : Context} {state other : addressing.api.kind.State}
    {path place : String} (found : addressing.api.object context state = .ok path)
    (foundOther : addressing.api.object later other = .ok place)
    (same : context.client.url path = later.client.url place) :
    addressing.base context state = addressing.base later other ∧
      addressing.identity context state = addressing.identity later other := by
  have formed : (addressing.address context state).form = (addressing.address later other).form :=
    (addressing.form_eq context state).trans (addressing.form_eq later other).symm
  rw [addressing.url_eq found, addressing.url_eq foundOther] at same
  obtain ⟨base, address⟩ := Address.url_inj (addressing.clear_address context state) formed same
  refine ⟨base, ?_⟩
  rw [← addressing.identifiers_eq, ← addressing.identifiers_eq, address]

/-- The items of a collection that is named by words. -/
def item (item : ItemKind) (words : List String) (restricted : Bool)
    (clear : Address.Form.Clear ⟨words.map some ++ [none], restricted⟩) (given : words ≠ [])
    (collection : item.collection = "/" ++ compositeId words)
    (environment : ∀ state, (item.environment state).isSome = restricted) : Addressing where
  api := item.api
  origin _ _ := ""
  address _ state :=
    ⟨words.map .word ++ [.identifier (item.kind.id state)], item.environment state⟩
  identity _ state := item.kind.id state :: (item.environment state).toList
  form := ⟨words.map some ++ [none], restricted⟩
  clear := clear
  form_eq _ state := by
    have read : Segment.word? ∘ Segment.word = some := rfl
    simp only [Address.form, List.map_append, List.map_map, read, List.map_cons, List.map_nil,
      Segment.word?, environment state]
  identifiers_eq _ state := by
    have none : words.filterMap (Segment.identifier? ∘ Segment.word) = [] := by
      rw [List.filterMap_eq_nil_iff]
      intro _ _
      rfl
    simp only [Address.identifiers, List.filterMap_append, List.filterMap_map, none]
    rfl
  bare _ _ := by decide
  path_eq := by
    intro _ state path found
    have spoken : Segment.text ∘ Segment.word = id := rfl
    have target : item.target state =
        "/" ++ compositeId (words ++ [Text.Percent.encode (item.kind.id state)]) := by
      rw [← childPath_compositeId given]
      unfold ItemKind.target childPath
      rw [collection]
      simp only [String.append_assoc]
    rw [← Except.ok.inj found]
    simp only [Address.text, Address.path, List.map_append, List.map_map, spoken, List.map_id,
      List.map_cons, List.map_nil, Segment.text, ItemKind.path, target, String.empty_append]
    cases item.environment state with
    | none => rfl
    | some id => simp only [Option.elim_some, inEnvironment, String.append_assoc]

def environments : Addressing :=
  item .environments ["org", "v2", "environments"] false
    ⟨⟨'o', _, _, rfl, rfl, by decide⟩, by decide⟩ (by decide) rfl fun _ => rfl

def flinkComputePools : Addressing :=
  item .flinkComputePools ["fcpm", "v2", "compute-pools"] true
    ⟨⟨'f', _, _, rfl, rfl, by decide⟩, by decide⟩ (by decide) rfl fun _ => rfl

def kafkaClusters : Addressing :=
  item .kafkaClusters ["cmk", "v2", "clusters"] true
    ⟨⟨'c', _, _, rfl, rfl, by decide⟩, by decide⟩ (by decide) rfl fun _ => rfl

def networks : Addressing :=
  item .networks ["networking", "v1", "networks"] true
    ⟨⟨'n', _, _, rfl, rfl, by decide⟩, by decide⟩ (by decide) rfl fun _ => rfl

def serviceAccounts : Addressing :=
  item .serviceAccounts ["iam", "v2", "service-accounts"] false
    ⟨⟨'i', _, _, rfl, rfl, by decide⟩, by decide⟩ (by decide) rfl fun _ => rfl

/-- A connector is found in its cluster, which is found in its environment. -/
def connectors : Addressing where
  api := Connector.api
  origin _ _ := ""
  address _ (state : Connector.State) := {
    segments := [.word "connect", .word "v1", .word "environments",
      .identifier state.environmentId, .word "clusters", .identifier state.clusterId,
      .word "connectors", .identifier state.name] }
  identity _ (state : Connector.State) := [state.environmentId, state.clusterId, state.name]
  form := ⟨[some "connect", some "v1", some "environments", none, some "clusters", none,
    some "connectors", none], false⟩
  clear := ⟨⟨'c', _, _, rfl, rfl, by decide⟩, by decide⟩
  form_eq _ _ := rfl
  identifiers_eq _ _ := rfl
  bare _ _ := by decide
  path_eq := by
    intro _ state path found
    obtain rfl : Connector.State.path state = path := Except.ok.inj found
    apply String.toList_injective
    simp [Connector.State.path, Connector.State.collectionPath, childPath, Address.text,
      Address.path, compositeId, Segment.text, String.toList_append]

/-- A topic is found at the REST endpoint of its cluster. -/
def kafkaTopics : Addressing where
  api := KafkaTopic.api
  origin context (state : KafkaTopic.State) :=
    dropTrailingSlashes (state.endpoint context.kafka)
  address context (state : KafkaTopic.State) := {
    segments := [.word "kafka", .word "v3", .word "clusters",
      .identifier (state.clusterId context.kafka), .word "topics", .identifier state.topicName] }
  identity context (state : KafkaTopic.State) :=
    [state.clusterId context.kafka, state.topicName]
  form := ⟨[some "kafka", some "v3", some "clusters", none, some "topics", none], false⟩
  clear := ⟨⟨'k', _, _, rfl, rfl, by decide⟩, by decide⟩
  form_eq _ _ := rfl
  identifiers_eq _ _ := rfl
  bare _ _ := getLast_dropTrailingSlashes _
  path_eq := by
    intro context state path found
    replace found : KafkaTopic.State.url state context.kafka = .ok path := found
    unfold KafkaTopic.State.url KafkaTopic.State.collectionUrl at found
    split at found
    · cases found
    · split at found
      · cases found
      · rw [← Except.ok.inj found]
        apply String.toList_injective
        simp [childPath, Address.text, Address.path, compositeId, Segment.text,
          String.toList_append]

end Addressing

def addressings : List Addressing :=
  [.connectors, .environments, .flinkComputePools, .kafkaClusters, .kafkaTopics, .networks,
    .serviceAccounts]

/-- Each of the kinds has its addresses. The URL of an object is its base with the address behind
it, which is read as the segments and the only parameter that it lists. Whatever their identifiers
are made of, two objects of a kind have the same URL only if they have the same base and are the
same in all that tells objects of the kind apart. -/
theorem item_urls_injective :
    addressings.map (fun addressing => addressing.api.kind) = kinds ∧
    ∀ addressing ∈ addressings, ∀ context state path,
      addressing.api.object context state = .ok path →
        (addressing.address context state).identifiers = addressing.identity context state ∧
        (addressing.address context state).Located (addressing.base context state)
          (context.client.url path) ∧
        ∀ later other place, addressing.api.object later other = .ok place →
          context.client.url path = later.client.url place →
            addressing.base context state = addressing.base later other ∧
              addressing.identity context state = addressing.identity later other := by
  refine ⟨rfl, ?_⟩
  intro addressing _ context state path found
  refine ⟨addressing.identifiers_eq context state, addressing.located found, ?_⟩
  intro later other place foundOther same
  exact addressing.url_inj found foundOther same

namespace Network

/-- Two networks that would have the same path if their identifiers were not encoded. -/
theorem item_urls_injective_unescaped :
    ∃ left right : State,
      left.id ++ "?environment=" ++ left.environmentId =
        right.id ++ "?environment=" ++ right.environmentId ∧
      Parts.ofText (Context.plain.client.url left.path) =
        { segments := ["https:", "", "api.confluent.cloud", "networking", "v1", "networks", "n-1"]
          parameters := [("environment", some "a%3Fenvironment%3Db")]
          fragment := none } ∧
      Context.plain.client.url left.path ≠ Context.plain.client.url right.path := by
  have listed : Addressing.networks ∈ addressings := by simp [addressings]
  obtain ⟨_, located, injective⟩ := item_urls_injective.2 .networks listed Context.plain
    (State.named "n-1" "a?environment=b") _ rfl
  refine ⟨.named "n-1" "a?environment=b", .named "n-1?environment=a" "b", by decide, ?_, ?_⟩
  · have base : Addressing.networks.base Context.plain (State.named "n-1" "a?environment=b") =
      "https://api.confluent.cloud" := rfl
    exact (located.parts_url (by rw [base]; decide) (by rw [base]; decide)).trans (by rfl)
  · intro same
    have identities := (injective Context.plain (State.named "n-1?environment=a" "b") _ rfl same).2
    exact absurd (List.cons.inj identities).1 (by decide)

end Network

end Provisioner
