import Provisioner.Proofs.Http.Conversation
import Provisioner.Proofs.Kinds.Mirrors
import Provisioner.Proofs.Kinds.RoundTrip
import Provisioner.Proofs.Lifecycle.Prompt
import Provisioner.Proofs.Lifecycle.Settled
import Provisioner.Proofs.Validation

/-!
# Nothing to plan after a creation

A server that keeps what it is sent leaves nothing to change: the state that a creation gives agrees
with the configuration it was created from. The check of a configuration counts the items of a block
with 32 bits, so a block with more of them may pass that is never created as a whole; a plan finds
no other change.
-/

namespace Provisioner

set_option autoImplicit false

open Http

theorem kind_of_mem_mirrors {mirror : Mirror} (listed : mirror ∈ mirrors) :
    mirror.item.kind ∈ kinds := by
  simp only [mirrors, List.mem_cons, List.not_mem_nil, or_false] at listed
  rcases listed with rfl | rfl | rfl | rfl | rfl
  · exact .tail _ (.head _)
  · exact .tail _ (.tail _ (.head _))
  · exact .tail _ (.tail _ (.tail _ (.head _)))
  · exact .tail _ (.tail _ (.tail _ (.tail _ (.tail _ (.head _)))))
  · exact .tail _ (.tail _ (.tail _ (.tail _ (.tail _ (.tail _ (.head _))))))

namespace Mirror

variable {mirror : Mirror} {waits : Transition → Option WaitOptions} {context : Context}
  {config : Json} {desired : mirror.item.kind.State} {w : World Wire}

/-- The next answers come in time and tell of the object what was sent. -/
def Answers (mirror : Mirror) (desired : mirror.item.kind.State) (answers : List Answer) : Prop :=
  ∀ answer ∈ answers, answer.delay ≤ requestTimeout ∧
    ∃ told, answer.Succeeds (some told) ∧ mirror.Tells desired told

theorem gives_of_answers {answers : List Answer} (echoes : mirror.Answers desired answers)
    {answer : Answer} (member : answer ∈ answers) :
    ∃ remote, answer.Gives mirror.item.remote remote ∧ mirror.shows desired remote := by
  obtain ⟨inTime, told, succeeds, tells⟩ := echoes answer member
  obtain ⟨remote, read, shows⟩ := mirror.reads tells
  exact ⟨remote, ⟨inTime, some told, succeeds, Decoder.fromAnswer_ok_iff.mpr read⟩, shows⟩

theorem create_of_echoes (accepting : context.client.retry.Accepting)
    (decoded : Lifecycle.decodeValid ⟨mirror.item.kind, waits⟩ config = .ok desired)
    (checked : mirror.item.kind.validateCreate desired = .ok ()) (running : w.stopAt = none)
    (echoes : mirror.Answers desired (w.peer.upcoming 3)) :
    ∃ created looked after, mirror.shows desired created ∧ mirror.shows desired looked ∧
      Lifecycle.create ⟨mirror.item.kind, waits⟩ context config w =
        (.ok (mirror.item.kind.encode (mirror.item.kind.toState looked
          (mirror.item.kind.toState created desired))), after) := by
  obtain ⟨created, givesCreated, showsCreated⟩ := gives_of_answers echoes (.head _)
  obtain ⟨seen, givesSeen, showsSeen⟩ := gives_of_answers echoes (.tail _ (.head _))
  obtain ⟨looked, givesLooked, showsLooked⟩ :=
    gives_of_answers echoes (.tail _ (.tail _ (.head _)))
  obtain ⟨_, _, after, _, _, run⟩ := Api.create_of_answers mirror.item.api waits accepting decoded
    checked rfl givesCreated rfl (.one givesSeen) (mirror.settles showsCreated showsSeen)
    (.one givesLooked) ⟨running, rfl⟩
  exact ⟨created, looked, after, showsCreated, showsLooked, run⟩

theorem uncounted_of_planned {target : List (String × Json)}
    (clean : mirror.item.kind.schema.Clean target)
    (decoded : mirror.item.kind.decode (.obj (Json.dropNullsEntries target)) = .ok desired)
    {created looked : mirror.item.kind.Remote} (first : mirror.shows desired created)
    (last : mirror.shows desired looked) :
    ∀ change ∈ (mirror.item.kind.schema.plan
        (some (mirror.item.kind.encode (mirror.item.kind.toState looked
          (mirror.item.kind.toState created desired)))) (.obj target)).changes,
      ∃ items, target.lookup change.path = some (.arr items) ∧ UInt32.size ≤ items.length := by
  intro change member
  obtain ⟨configurable, differs, filled⟩ :=
    Schema.differs_of_planned clean.wellFormed.1 member
  apply Classical.byContradiction
  intro counted
  have decides : mirror.item.kind.schema.Decides target change.path := by
    refine ⟨filled, ?_⟩
    intro items found
    exact Nat.lt_of_not_le fun long => counted ⟨items, found, long⟩
  rw [mirror.agrees clean decoded first last configurable decides] at differs
  cases differs

end Mirror

namespace Network

/-- A network in two zones, whose addresses are left to the server. -/
def zonedConfig : Json :=
  .obj [
    ("cloud", .str "AWS"),
    ("connection_types", .strings ["PEERING"]),
    ("environment", .arr [.obj [("id", .str "env-1")]]),
    ("region", .str "eu-1"),
    ("zones", .strings ["b", "a"])]

def zonedState : State := { sampleState with zones := ["b", "a"] }

/-- The zones in another order, and addresses. -/
def zonedTold : Json :=
  .obj [
    ("id", .str "n-1"),
    ("spec", .obj [
      ("cidr", .str "10.0.0.0/16"),
      ("cloud", .str "AWS"),
      ("connection_types", .strings ["PEERING"]),
      ("environment", .obj [("id", .str "env-1")]),
      ("region", .str "eu-1"),
      ("zones", .strings ["a", "b"])]),
    ("status", .obj [("phase", .str "READY")])]

def zonedAnswer : Answer := .ofText zonedTold.compact

theorem zoned_tells : mirror.Tells zonedState zonedTold where
  identified := ⟨"n-1", rfl⟩
  parts := by
    refine List.forall_mem_cons.mpr ⟨.filled (by decide) ⟨"10.0.0.0/16", rfl⟩,
      List.forall_mem_cons.mpr ⟨.repeated (.same _), List.forall_mem_cons.mpr
      ⟨.repeated (.same _), List.forall_mem_cons.mpr ⟨.left, List.forall_mem_cons.mpr
      ⟨.repeated (.same _), List.forall_mem_cons.mpr ⟨.repeated (.reordered ?_),
      List.forall_mem_cons.mpr ⟨.repeated (.same _), List.forall_mem_cons.mpr
      ⟨.left, nofun⟩⟩⟩⟩⟩⟩⟩⟩
    exact .swap "b" "a" []
  ready := ⟨_, ⟨"READY", none, none⟩, rfl, rfl, rfl⟩

theorem zoned_succeeds : zonedAnswer.Succeeds (some zonedTold) :=
  Answer.ofText_succeeds zonedTold (by cbv) (by cbv)

theorem zoned_answers : mirror.Answers zonedState [zonedAnswer, zonedAnswer, zonedAnswer] := by
  intro answer member
  have same : answer = zonedAnswer := by simpa using member
  rw [same]
  exact ⟨Nat.zero_le _, zonedTold, zoned_succeeds, zoned_tells⟩

theorem wellFormed_zonedConfig : zonedConfig.WellFormed := by
  have sorted := List.pairwise_singleton (fun a b : String × Json => a.1 < b.1)
    ("id", .str "env-1")
  exact ⟨Keyed.sorted_of_keys ["cloud", "connection_types", "environment", "region", "zones"] rfl
    (by decide), trivial, ⟨trivial, trivial⟩, ⟨⟨sorted, trivial, trivial⟩, trivial⟩, trivial,
    ⟨trivial, trivial, trivial⟩, trivial⟩

theorem declares_zonedConfig : schema.DeclaresItems zonedConfig := by
  intro b member items found entries inside entry entryInside
  obtain rfl := List.mem_singleton.mp member
  cases found
  cases List.mem_singleton.mp inside
  cases List.mem_singleton.mp entryInside
  exact .head _

/-- The environment, named more often than a 32-bit count can tell. -/
def crowd (extra : Nat) : List Reference :=
  ⟨"env-1"⟩ :: ⟨"env-1"⟩ :: List.replicate extra ⟨"env-1"⟩

def crowdedState (extra : Nat) : State := { zonedState with environment := crowd extra }

section Crowded

variable {extra : Nat}

theorem length_crowd : (crowd extra).length = extra + 2 := by
  simp [crowd]

theorem eq_of_mem_crowd {reference : Reference} (member : reference ∈ crowd extra) :
    reference = ⟨"env-1"⟩ := by
  simp only [crowd, List.mem_cons, List.mem_replicate] at member
  rcases member with one | one | ⟨_, one⟩ <;> exact one

theorem declares_crowded : schema.DeclaresItems (crowdedState extra).encode := by
  intro b member items found entries inside entry entryInside
  obtain rfl := List.mem_singleton.mp member
  cases found
  obtain ⟨reference, _, same⟩ := List.mem_map.mp inside
  cases same
  cases List.mem_singleton.mp entryInside
  exact .head _

theorem crowded_answers :
    mirror.Answers (crowdedState extra) [zonedAnswer, zonedAnswer, zonedAnswer] := by
  intro answer member
  obtain ⟨inTime, told, succeeds, tells⟩ := zoned_answers answer member
  exact ⟨inTime, told, succeeds, tells.identified, tells.parts, tells.ready⟩

theorem crowded_differs {prior : Json}
    (alone : prior.get? "environment" = some (Reference.encodeBlock [⟨"env-1"⟩])) :
    (schema.plan (some prior) (crowdedState extra).encode).changes ≠ [] := by
  obtain ⟨source, rfl, _⟩ := Json.obj_of_get? alone
  have crowded : (schema.mergeComputed (.obj source) (crowdedState extra).encode).get?
      "environment" = some (Reference.encodeBlock (crowd extra)) := by
    unfold State.encode
    rw [mergeComputed_obj]
    exact lookup_merge_of_not_mem (by decide)
  have differs : schema.agreesOn (.obj source)
      (schema.mergeComputed (.obj source) (crowdedState extra).encode) "environment" = false := by
    unfold Schema.agreesOn
    rw [alone, crowded]
    rfl
  have changed : "environment" ∈ schema.changedNames (.obj source)
      (schema.mergeComputed (.obj source) (crowdedState extra).encode) :=
    List.mem_filter.mpr ⟨by decide, by rw [differs]; rfl⟩
  intro none
  exact List.ne_nil_of_mem changed (List.map_eq_nil_iff.mp none)

variable (counted : (extra + 2) % UInt32.size = 1)

include counted

theorem check_crowd :
    Nesting.checkEntry Nesting.exactlyOne.replacing (.reference .mandatory)
      (some (Reference.encodeBlock (crowd extra))) "environment" = [] := by
  show Nesting.check _ ((crowd extra).map Reference.encode) "environment" ++ _ = []
  rw [List.append_eq_nil_iff]
  constructor
  · have one : ((crowd extra).map Reference.encode).length % UInt32.size = 1 := by
      rw [List.length_map, length_crowd]
      exact counted
    unfold Nesting.check
    simp only [one]
    rfl
  · rw [List.flatMap_eq_nil_iff]
    rintro ⟨item, position⟩ placed
    obtain ⟨reference, inside, rfl⟩ := List.mem_map.mp (List.fst_mem_of_mem_zipIdx placed)
    rw [eq_of_mem_crowd inside]
    rfl

theorem schema_accepts_crowded : schema.validate (crowdedState extra).encode = [] := by
  have attributes : (schema.block.attributes.flatMap fun a => a.2.check
      ((crowdedState extra).encode.get? a.1) (joinPath "" a.1)) = [] := rfl
  unfold State.encode at attributes ⊢
  rw [Schema.validate_obj, List.append_eq_nil_iff, List.append_eq_nil_iff]
  refine ⟨⟨attributes, ?_⟩, rfl⟩
  show Nesting.checkEntry _ _ (some (Reference.encodeBlock (crowd extra))) "environment" ++ [] = []
  rw [check_crowd counted]
  rfl

theorem accepts_crowded :
    Lifecycle.validate ⟨kind, fun _ => none⟩ (crowdedState extra).encode = [] :=
  Lifecycle.validate_eq_nil_iff.mpr
    ⟨schema_accepts_crowded counted, crowdedState extra, round_trips _, rfl⟩

theorem create_crowded :
    ∃ state after, Lifecycle.create ⟨kind, fun _ => none⟩ Context.plain (crowdedState extra).encode
        (sampleWorld [zonedAnswer, zonedAnswer, zonedAnswer]) = (.ok state, after) ∧
      (schema.plan (some state) (crowdedState extra).encode).changes ≠ [] := by
  have ensured : schema.ensureValid (crowdedState extra).encode = .ok () :=
    Schema.ensureValid_ok_iff.mpr fun found member => by
      simp [schema_accepts_crowded counted] at member
  have decoded : Lifecycle.decodeValid ⟨mirror.item.kind, fun _ => none⟩
      (crowdedState extra).encode = .ok (crowdedState extra) :=
    Lifecycle.decodeValid_ok_iff.mpr ⟨ensured, round_trips (crowdedState extra)⟩
  obtain ⟨created, looked, after, _, last, run⟩ := Mirror.create_of_echoes
    (w := sampleWorld [zonedAnswer, zonedAnswer, zonedAnswer]) Context.plain_accepting decoded rfl
    rfl crowded_answers
  refine ⟨_, after, run, crowded_differs ?_⟩
  have named : looked.spec.environment = ⟨"env-1"⟩ := last.environment
  show some (Reference.encodeBlock (looked.spec.environment.blockOr _)) = _
  rw [named]
  rfl

end Crowded

end Network

namespace Environment

def labConfig : Json := .obj [("display_name", .str "lab")]

def labState : State := ⟨"", "lab", [], ""⟩

def labTold : Json := .obj [("display_name", .str "lab"), ("id", .str "env-1")]

/-- The same, with a resource name that is null. -/
def namelessTold : Json :=
  .obj [
    ("display_name", .str "lab"),
    ("id", .str "env-1"),
    ("metadata", .obj [("resource_name", .null)])]

def namelessAnswer : Answer := .ofText namelessTold.compact

def namelessWorld : World Wire where
  peer := { script := [namelessAnswer, namelessAnswer, namelessAnswer] }

theorem lab_tells : mirror.Tells labState labTold where
  identified := ⟨"env-1", rfl⟩
  parts := List.forall_mem_cons.mpr ⟨.repeated (.same _),
    List.forall_mem_cons.mpr ⟨.left, List.forall_mem_cons.mpr ⟨.left, nofun⟩⟩⟩
  ready := trivial

theorem nameless_succeeds : namelessAnswer.Succeeds (some namelessTold) :=
  Answer.ofText_succeeds namelessTold (by cbv) (by cbv)

theorem create_nameless :
    ∃ after, Lifecycle.create ⟨kind, fun _ => none⟩ Context.plain labConfig namelessWorld =
      (.error {
        failure := .serialization "invalid type: null, expected a string"
        subject := some ⟨"confluent_environment", unassignedId⟩ }, after) := by
  have decoded : Lifecycle.decodeValid ⟨kind, fun _ => none⟩ labConfig = .ok labState := by rfl
  have unread : Remote.decode.fromAnswer namelessTold =
      .error { failure := .serialization "invalid type: null, expected a string" } := by rfl
  have ready : Ready (Lifecycle.logged ⟨kind, fun _ => none⟩ "Creating" labState namelessWorld)
      [namelessAnswer, namelessAnswer, namelessAnswer] := ⟨rfl, rfl⟩
  have accepting : (⟨Context.plain, none⟩ : Session).context.client.retry.Accepting :=
    Context.plain_accepting
  obtain ⟨after, creating⟩ := Session.call_of_unread accepting ready nameless_succeeds unread .post
    collectionPath (some labState.body)
  have submission : Lifecycle.submit ⟨kind, fun _ => none⟩ Context.plain labConfig namelessWorld =
      (.error { failure := .serialization "invalid type: null, expected a string" }, after) := by
    unfold Lifecycle.submit
    rw [decoded]
    exact Operation.bind_of_error creating _
  exact ⟨after, Lifecycle.create_of_unsubmitted submission⟩

end Environment

end Provisioner
