import Mathlib
import Provisioner.Proofs.Http.Prompt
import Provisioner.Proofs.Kinds.Place
import Provisioner.Proofs.Lifecycle.Requests

/-!
# Whom an update reaches

Every request of an update is about the object of the merged configuration. That is the object of
the prior state unless the configuration sets an identifier of its own: a merge keeps what the
configuration says, and no check looks at what only the server sets.
-/

namespace Provisioner

set_option autoImplicit false

open Http

namespace Place

variable {place : Place} {waits : Transition → Option WaitOptions} {context : Context}

theorem addresses_of_looks {session : Session} {state : place.api.kind.State} {request : Request}
    (looks : place.api.Looks session state request) :
    place.Addresses session.context state request := by
  obtain ⟨path, found, part, member, rfl⟩ := looks
  exact ⟨(.get, part), place.looks found part member, rfl, rfl⟩

theorem addresses_of_tells {session : Session} {prior desired : place.api.kind.State}
    {changed : List String} {request : Request}
    (tells : place.api.Tells session prior desired changed request) :
    place.Addresses session.context desired request := by
  obtain ⟨writes, found, write, member, rfl⟩ := tells
  exact ⟨(write.method, write.path), place.tells found write member, rfl, rfl⟩

theorem addressed_of_sent {priorState config : Json} {w : World Wire} {entry : Sent}
    (member : entry ∈
      (Lifecycle.update ⟨place.api.kind, waits⟩ context priorState config).sent w) :
    ∃ prior desired changed, place.api.kind.decode.fromState priorState = .ok prior ∧
      Lifecycle.prepareUpdate ⟨place.api.kind, waits⟩ priorState config prior =
        .ok (desired, changed) ∧
      place.Addresses context desired entry.request := by
  obtain ⟨prior, desired, changed, decoded, prepared, tells | looks⟩ :=
    (place.api.sends_update waits context priorState config).of_sent w member
  · exact ⟨prior, desired, changed, decoded, prepared, addresses_of_tells tells⟩
  · exact ⟨prior, desired, changed, decoded, prepared, addresses_of_looks looks⟩

theorem prepared_of_sent {priorState config : Json} {prior : place.api.kind.State}
    (decoded : place.api.kind.decode.fromState priorState = .ok prior) {w : World Wire}
    {entry : Sent} (member : entry ∈
      (Lifecycle.update ⟨place.api.kind, waits⟩ context priorState config).sent w) :
    ∃ desired changed, Lifecycle.prepareUpdate ⟨place.api.kind, waits⟩ priorState config prior =
        .ok (desired, changed) ∧ place.Addresses context desired entry.request := by
  obtain ⟨other, desired, changed, decodedOther, prepared, addresses⟩ := addressed_of_sent member
  rw [decoded] at decodedOther
  rw [← Except.ok.inj decodedOther] at prepared
  exact ⟨desired, changed, prepared, addresses⟩

/-- A configuration that names no other object than the prior state. -/
def Names (place : Place) (config : Json) (prior : place.api.kind.State) : Prop :=
  place.byId = false ∨ isBlank (config.get? "id") = true ∨
    config.get? "id" = some (.str (place.api.kind.id prior))

section Prepared

variable {source : List (String × Json)} {config : Json} {prior desired : place.api.kind.State}
  {changed : List String} (sortedSource : Keyed.Sorted source) (wellFormed : config.WellFormed)
  (decoded : place.api.kind.decode.fromState (.obj source) = .ok prior)
  (prepared : Lifecycle.prepareUpdate ⟨place.api.kind, waits⟩ (.obj source) config prior =
    .ok (desired, changed))

include sortedSource wellFormed decoded prepared

theorem merged_of_prepared :
    ∃ target, config = .obj target ∧
      let merged := place.api.kind.schema.computedNames.foldl (takeMissing source) target
      place.api.kind.schema.Kept source merged ∧
      place.api.kind.decode (.obj (Json.dropNullsEntries source)) = .ok prior ∧
      place.api.kind.decode (.obj (Json.dropNullsEntries merged)) = .ok desired ∧
      place.api.kind.validateUpdate prior desired = .ok () := by
  obtain ⟨valid, merging, rfl, guarded, checked⟩ := Lifecycle.prepareUpdate_ok_iff.mp prepared
  rcases obj_of_ensureValid valid with rfl | ⟨target, rfl⟩
  · exact absurd (Decoder.fromState_ok_iff.mp merging) (place.not_null desired)
  · rw [mergeComputed_obj] at merging guarded
    refine ⟨target, rfl, ⟨sortedSource, sorted_merge source _ wellFormed.1, ?_⟩,
      Decoder.fromState_ok_iff.mp decoded, Decoder.fromState_ok_iff.mp merging, checked⟩
    exact Lifecycle.keepsForced_of_guard guarded

theorem id_eq_iff (byId : place.byId = true) :
    place.api.kind.id prior = place.api.kind.id desired ↔
      isBlank (config.get? "id") = true ∨
        config.get? "id" = some (.str (place.api.kind.id prior)) := by
  obtain ⟨target, rfl, kept, before, after, _⟩ :=
    merged_of_prepared sortedSource wellFormed decoded prepared
  exact merged_text_eq_iff (place.id_computed byId) sortedSource wellFormed.1
    (place.id_field byId before) (place.id_field byId after)

theorem targets_eq_of_names (names : place.Names config prior) :
    place.targets context prior = place.targets context desired := by
  have sameId : place.byId = true → place.api.kind.id prior = place.api.kind.id desired := by
    intro byId
    refine (id_eq_iff sortedSource wellFormed decoded prepared byId).mpr ?_
    exact names.resolve_left (by simp [byId])
  obtain ⟨target, rfl, kept, before, after, checked⟩ :=
    merged_of_prepared sortedSource wellFormed decoded prepared
  exact place.kept kept before after checked sameId context

theorem names_of_addresses {request : Request}
    (ofDesired : place.Addresses context desired request)
    (ofPrior : place.Addresses context prior request) : place.Names config prior := by
  cases byId : place.byId with
  | false => exact Or.inl byId
  | true =>
    obtain ⟨first, here, method, url⟩ := ofPrior
    obtain ⟨second, there, method', url'⟩ := ofDesired
    refine Or.inr ((id_eq_iff sortedSource wellFormed decoded prepared byId).mp ?_)
    exact place.apart byId here there (method.symm.trans method') (url.symm.trans url')

end Prepared

end Place

/-- The requests of an update are all about the object of the merged configuration; and for a prior
state in the form that the provider gives states in, they are about the object of that state exactly
if the configuration names no other one. -/
theorem update_reaches_prior_iff (place : Place) (waits : Transition → Option WaitOptions)
    (context : Context) (priorState config : Json) (w : World Wire) :
    let l : Lifecycle Wire := ⟨place.api.kind, waits⟩
    let sent := (l.update context priorState config).sent w
    places.map (fun place => place.api.kind) = kinds ∧
      (∀ state, ∃ source, l.kind.encode state = .obj source) ∧
      (∀ entry ∈ sent, ∃ prior desired, l.kind.decode.fromState priorState = .ok prior ∧
        l.kind.decode.fromState (l.kind.schema.mergeComputed priorState config) = .ok desired ∧
        place.Addresses context desired entry.request) ∧
      ∀ source prior, priorState = .obj source → priorState.WellFormed → config.WellFormed →
        l.kind.decode.fromState priorState = .ok prior →
        ((∀ entry ∈ sent, place.Addresses context prior entry.request) ↔
          sent = [] ∨ place.Names config prior) := by
  refine ⟨kind_places, place.encode_obj, ?_, ?_⟩
  · intro entry member
    obtain ⟨prior, desired, changed, decoded, prepared, addresses⟩ :=
      Place.addressed_of_sent member
    exact ⟨prior, desired, decoded, (Lifecycle.prepareUpdate_ok_iff.mp prepared).2.1, addresses⟩
  · rintro source prior rfl wellFormedPrior wellFormed decoded
    constructor
    · intro all
      cases someSent : (Lifecycle.update ⟨place.api.kind, waits⟩ context (.obj source)
          config).sent w with
      | nil => exact Or.inl rfl
      | cons entry rest =>
        have member : entry ∈ (Lifecycle.update ⟨place.api.kind, waits⟩ context (.obj source)
            config).sent w := by simp [someSent]
        obtain ⟨desired, changed, prepared, addresses⟩ := Place.prepared_of_sent decoded member
        exact Or.inr (Place.names_of_addresses wellFormedPrior.1 wellFormed decoded prepared
          addresses (all entry member))
    · rintro (none | names) entry member
      · have inNone : entry ∈ ([] : List Sent) := none ▸ member
        cases inNone
      · obtain ⟨desired, changed, prepared, addresses⟩ := Place.prepared_of_sent decoded member
        unfold Place.Addresses
        rw [Place.targets_eq_of_names wellFormedPrior.1 wellFormed decoded prepared names]
        exact addresses

/-- An update of an item sends its PATCH as soon as the first answer accepts it. -/
theorem ItemKind.patch_sent (item : ItemKind) (waits : Transition → Option WaitOptions)
    {context : Context} (accepting : context.client.retry.Accepting) {priorState config : Json}
    {prior desired : item.kind.State} {changed : List String}
    (decoded : item.kind.decode.fromState priorState = .ok prior)
    (prepared : Lifecycle.prepareUpdate ⟨item.kind, waits⟩ priorState config prior =
      .ok (desired, changed)) (changes : changed ≠ []) {w : World Wire} {answer : Answer}
    {rest : List Answer} (ready : Ready w (answer :: rest)) {result : Option Json}
    (succeeds : answer.Succeeds result) :
    ∃ entry ∈ (Lifecycle.update ⟨item.kind, waits⟩ context priorState config).sent w,
      entry.request.method = .patch ∧
        entry.request.url = context.client.url (item.target desired) := by
  obtain ⟨entry, member, method, url, _⟩ :=
    item.api.write_sent waits accepting decoded prepared changes rfl ready succeeds
  exact ⟨entry, member, method, url⟩

namespace Environment

def known : State := ⟨"env-1", "a", [], ""⟩

def knownJson : Json := .obj [("display_name", .str "a"), ("id", .str "env-1")]

/-- A new name, with or without an identifier. -/
def renamingConfig (id : List (String × Json)) : Json := .obj (("display_name", .str "b") :: id)

def renamed (id : String) : State := ⟨id, "b", [], ""⟩

def acceptedAnswer : Answer := .ofText "null"

def acceptedWorld : World Wire where
  peer := { script := [acceptedAnswer] }

theorem accepted_succeeds : acceptedAnswer.Succeeds (some .null) :=
  Answer.ofText_succeeds .null (by cbv) (by cbv)

theorem known_decoded : kind.decode.fromState knownJson = .ok known := rfl

theorem patch_sent (config : Json) (id : String)
    (prepared : Lifecycle.prepareUpdate ⟨kind, fun _ => none⟩ knownJson config known =
      .ok (renamed id, ["display_name"])) :
    ∃ entry ∈ (Lifecycle.update ⟨kind, fun _ => none⟩ Context.plain knownJson config).sent
        acceptedWorld,
      entry.request.method = .patch ∧ entry.request.url = Context.plain.client.url (path id) := by
  have ready : Ready acceptedWorld [acceptedAnswer] := ⟨rfl, rfl⟩
  exact ItemKind.environments.patch_sent (fun _ => none) Context.plain_accepting known_decoded
    prepared (by simp) ready accepted_succeeds

/-- An update of one environment that writes to another. -/
theorem update_writes_elsewhere :
    known.id = "env-1" ∧
      ∃ entry ∈ (Lifecycle.update ⟨kind, fun _ => none⟩ Context.plain knownJson
          (renamingConfig [("id", .str "env-2")])).sent acceptedWorld,
        entry.request.method = .patch ∧
          entry.request.url = Context.plain.client.url (path "env-2") ∧
          entry.request.url ≠ Context.plain.client.url (path known.id) := by
  obtain ⟨entry, member, method, url⟩ :=
    patch_sent (renamingConfig [("id", .str "env-2")]) "env-2" rfl
  refine ⟨rfl, entry, member, method, url, ?_⟩
  rw [url]
  intro same
  have ids := id_of_childPath_url ⟨_, _, rfl, by decide⟩ same
  exact absurd ids (by decide)

theorem wellFormed_named (name id : String) :
    Json.WellFormed (.obj [("display_name", .str name), ("id", .str id)]) :=
  ⟨List.pairwise_pair.mpr (show "display_name" < "id" by decide), trivial, trivial, trivial⟩

end Environment

/-- A renamed environment is reached if the configuration has no identifier, and missed if it has
another one. -/
theorem update_reaches_environment :
    (∃ entry ∈ (Lifecycle.update ⟨Environment.kind, fun _ => none⟩ Context.plain
        Environment.knownJson (Environment.renamingConfig [])).sent Environment.acceptedWorld,
      Environment.place.Addresses Context.plain Environment.known entry.request) ∧
    ¬∀ entry ∈ (Lifecycle.update ⟨Environment.kind, fun _ => none⟩ Context.plain
        Environment.knownJson (Environment.renamingConfig [("id", .str "env-2")])).sent
          Environment.acceptedWorld,
      Environment.place.Addresses Context.plain Environment.known entry.request := by
  constructor
  · obtain ⟨entry, member, _⟩ :=
      Environment.patch_sent (Environment.renamingConfig []) "env-1" rfl
    refine ⟨entry, member, ?_⟩
    have exactly := (update_reaches_prior_iff Environment.place (fun _ => none) Context.plain
      Environment.knownJson (Environment.renamingConfig []) Environment.acceptedWorld).2.2.2 _ _ rfl
      (Environment.wellFormed_named _ _) ⟨List.pairwise_singleton _ _, trivial, trivial⟩
      Environment.known_decoded
    exact exactly.mpr (Or.inr (Or.inr (Or.inl rfl))) entry member
  · have exactly := (update_reaches_prior_iff Environment.place (fun _ => none) Context.plain
      Environment.knownJson (Environment.renamingConfig [("id", .str "env-2")])
      Environment.acceptedWorld).2.2.2 _ _ rfl (Environment.wellFormed_named _ _)
      (Environment.wellFormed_named _ _) Environment.known_decoded
    intro all
    obtain ⟨entry, member, _⟩ :=
      Environment.patch_sent (Environment.renamingConfig [("id", .str "env-2")]) "env-2" rfl
    rcases exactly.mp all with none | impossible | blank | same
    · have inNone : entry ∈ ([] : List Sent) := none ▸ member
      cases inNone
    · cases impossible
    · cases blank
    · have ids : "env-2" = "env-1" := Json.str.inj (Option.some.inj same)
      exact absurd ids (by decide)

end Provisioner
