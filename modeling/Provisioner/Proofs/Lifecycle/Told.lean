import Provisioner.Proofs.Kinds.Fields
import Provisioner.Proofs.Lifecycle.Runs
import Provisioner.Proofs.Plan.Merge

/-!
# What a configuration tells

A field that is no computed one holds what the configuration tells, after the check of a creation as
after the preparation of an update. A merge fills in computed names only, so nothing of the prior
state gets there.
-/

namespace Provisioner

set_option autoImplicit false

open Http (Wire)

namespace Json

variable {key other : String}

theorem lookup_dropNullsEntries_cons_of_ne (value : Json) (ne : other ≠ key)
    (rest : List (String × Json)) :
    (dropNullsEntries ((key, value) :: rest)).lookup other =
      (dropNullsEntries rest).lookup other := by
  rw [dropNullsEntries]
  split
  · rfl
  · rw [List.lookup_cons, beq_false_of_ne ne]

theorem lookup_dropNullsEntries_cons_congr {entry : String × Json}
    {rest rest' : List (String × Json)}
    (same : (dropNullsEntries rest).lookup other = (dropNullsEntries rest').lookup other) :
    (dropNullsEntries (entry :: rest)).lookup other =
      (dropNullsEntries (entry :: rest')).lookup other := by
  obtain ⟨key, value⟩ := entry
  rw [dropNullsEntries, dropNullsEntries]
  split
  · exact same
  · rw [List.lookup_cons, List.lookup_cons, same]

/-- Keys need not be in order here: an insertion leaves all entries under other keys in their
places. -/
theorem lookup_dropNullsEntries_insert_of_ne (value : Json) (ne : other ≠ key)
    (entries : List (String × Json)) :
    (dropNullsEntries (Keyed.insert key value entries)).lookup other =
      (dropNullsEntries entries).lookup other := by
  induction entries with
  | nil => exact lookup_dropNullsEntries_cons_of_ne value ne []
  | cons head rest ih =>
    obtain ⟨k, v⟩ := head
    unfold Keyed.insert
    split
    · exact lookup_dropNullsEntries_cons_of_ne value ne _
    · split
      · next same =>
        subst same
        rw [lookup_dropNullsEntries_cons_of_ne value ne, lookup_dropNullsEntries_cons_of_ne v ne]
      · exact lookup_dropNullsEntries_cons_congr ih

end Json

section Merge

variable {source target : List (String × Json)} {key other : String}

theorem lookup_dropNulls_takeMissing_of_ne (ne : other ≠ key) :
    (Json.dropNullsEntries (takeMissing source target key)).lookup other =
      (Json.dropNullsEntries target).lookup other := by
  unfold takeMissing
  split
  · cases source.lookup key with
    | none => rfl
    | some value => exact Json.lookup_dropNullsEntries_insert_of_ne value ne target
  · rfl

theorem lookup_dropNulls_merge_of_not_mem {names : List String} (absent : key ∉ names) :
    (Json.dropNullsEntries (names.foldl (takeMissing source) target)).lookup key =
      (Json.dropNullsEntries target).lookup key := by
  induction names generalizing target with
  | nil => rfl
  | cons name rest ih =>
    rw [List.mem_cons, not_or] at absent
    rw [List.foldl_cons, ih absent.2, lookup_dropNulls_takeMissing_of_ne absent.1]

end Merge

namespace Decoder

variable {α : Type}

/-- What a configuration tells under a name. Null counts as absent. -/
def told (decode : Decoder α) (name : String) (absent : α) (config : Json) : Except Mismatch α :=
  match config.dropNulls.get? name with
  | some given => decode given
  | none => .ok absent

variable {decode : Decoder α} {name : String} {absent value : α}

theorem told_obj (entries : List (String × Json)) :
    decode.told name absent (.obj entries) =
      match (Json.dropNullsEntries entries).lookup name with
      | some given => decode given
      | none => .ok absent := by
  unfold told
  rw [Json.dropNulls]
  rfl

theorem told_obj_ok_iff {entries : List (String × Json)} :
    decode.told name absent (.obj entries) = .ok value ↔
      (Fields.defaulted name absent decode).ofEntries (Json.dropNullsEntries entries) =
        .ok value := by
  unfold Fields.defaulted
  rw [told_obj, Fields.single_ofEntries_ok_iff]
  cases (Json.dropNullsEntries entries).lookup name <;> simp

theorem told_mergeComputed {schema : Schema} (free : name ∉ schema.computedNames)
    (prior config : Json) :
    decode.told name absent (schema.mergeComputed prior config) =
      decode.told name absent config := by
  cases prior with
  | obj source =>
    cases config with
    | obj target =>
      rw [mergeComputed_obj, told_obj, told_obj, lookup_dropNulls_merge_of_not_mem free]
    | _ => rfl
  | _ => rfl

end Decoder

/-- A field of the states of a kind that the server does not compute. -/
structure ToldField (kind : Kind Wire) (α : Type) where
  name : String
  absent : α
  decode : Decoder α
  get : kind.State → α
  free : name ∉ kind.schema.computedNames
  decoded : ∀ {entries : List (String × Json)} {state : kind.State},
    kind.decode (.obj entries) = .ok state →
      (Fields.defaulted name absent decode).ofEntries entries = .ok (get state)
  not_null : ∀ state, kind.decode .null ≠ .ok state

namespace ToldField

variable {kind : Kind Wire} {α : Type} (field : ToldField kind α)
  {waits : Transition → Option WaitOptions} {config : Json} {desired : kind.State}

theorem told_of_decoded {entries : List (String × Json)}
    (decoded : kind.decode.fromState (.obj entries) = .ok desired) :
    field.decode.told field.name field.absent (.obj entries) = .ok (field.get desired) :=
  Decoder.told_obj_ok_iff.mpr (field.decoded (Decoder.fromState_ok_iff.mp decoded))

theorem told_of_decodeValid
    (decoded : Lifecycle.decodeValid ⟨kind, waits⟩ config = .ok desired) :
    field.decode.told field.name field.absent config = .ok (field.get desired) := by
  obtain ⟨valid, decoded⟩ := Lifecycle.decodeValid_ok_iff.mp decoded
  rcases obj_of_ensureValid valid with rfl | ⟨entries, rfl⟩
  · exact absurd (Decoder.fromState_ok_iff.mp decoded) (field.not_null desired)
  · exact field.told_of_decoded decoded

theorem told_of_prepareUpdate {priorState : Json} {prior : kind.State} {changed : List String}
    (prepared : Lifecycle.prepareUpdate ⟨kind, waits⟩ priorState config prior =
      .ok (desired, changed)) :
    field.decode.told field.name field.absent config = .ok (field.get desired) := by
  obtain ⟨valid, decoded, _⟩ := Lifecycle.prepareUpdate_ok_iff.mp prepared
  rw [← Decoder.told_mergeComputed field.free priorState config]
  rcases obj_of_ensureValid valid with rfl | ⟨target, rfl⟩
  · cases priorState <;> exact absurd (Decoder.fromState_ok_iff.mp decoded) (field.not_null desired)
  · cases priorState <;> exact field.told_of_decoded decoded

end ToldField

namespace Connector

def toldPlain : ToldField kind Settings where
  name := "config_nonsensitive"
  absent := .empty
  decode := decodeSettings
  get := State.plain
  free := by decide
  decoded decoded := (decode_obj_iff.mp decoded).2.2.2.1
  not_null _ decoded := by cases decoded

def toldSecret : ToldField kind Settings where
  name := "config_sensitive"
  absent := .empty
  decode := decodeSettings
  get := State.secret
  free := by decide
  decoded decoded := (decode_obj_iff.mp decoded).2.2.2.2.1
  not_null _ decoded := by cases decoded

end Connector

namespace KafkaTopic

def toldCredentials : ToldField kind (List Credentials) where
  name := "credentials"
  absent := []
  decode := Decoder.blockList decodeCredentials
  get := State.credentials
  free := by decide
  decoded decoded := (decode_obj_iff.mp decoded).2.2.2.2.2.2
  not_null _ decoded := by cases decoded

end KafkaTopic

end Provisioner
