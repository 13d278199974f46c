import Provisioner.Proofs.Kinds.Deliveries
import Provisioner.Proofs.Lifecycle.Conversation
import Provisioner.Proofs.Lifecycle.Target

/-!
# What an update carries

An update whose writes are all accepted has told the server every planned change, but for one value:
clusters and pools are not told an empty name, which the schema takes and the plan promises. What
the writes say is the desired state, and what they say about an attribute that is not to change is
what it was.
-/

namespace Provisioner

set_option autoImplicit false

open Http
open Operation (bind_ofExcept_ok_iff)

namespace Api

variable {api : Api} {waits : Transition → Option WaitOptions} {context : Context}
  {priorState config : Json} {prior desired : api.kind.State} {changed : List String}
  {w : World Wire}

theorem write_of_sent (decoded : api.kind.decode.fromState priorState = .ok prior)
    (prepared : Lifecycle.prepareUpdate ⟨api.kind, waits⟩ priorState config prior =
      .ok (desired, changed)) {entry : Sent}
    (member : entry ∈ (Lifecycle.update ⟨api.kind, waits⟩ context priorState config).sent w)
    (writes : entry.request.method ≠ .get) :
    ∃ all, api.writes context prior desired changed = .ok all ∧ ∃ write ∈ all,
      entry.request = write.request ⟨context, api.kind.credentials context desired⟩ := by
  obtain ⟨before, after, names, decodedBefore, preparedAfter, tells⟩ :=
    api.tells_of_write waits member writes
  cases Except.ok.inj (decoded.symm.trans decodedBefore)
  cases Except.ok.inj (prepared.symm.trans preparedAfter)
  exact tells

end Api

/-- An update whose writes are all accepted tells every attribute that was to change, and that
differs, exactly if its value has a place in a write. Whatever is answered, what it sends beside
looks says nothing but what is desired, and of an attribute that was not to change what it was. -/
theorem changes_carried_iff (waits : Transition → Option WaitOptions) (context : Context) :
    ∀ delivery ∈ deliveries, ∀ (priorState config : Json)
      (prior desired : delivery.api.kind.State) (changed : List String), config.WellFormed →
      delivery.api.kind.decode.fromState priorState = .ok prior →
      Lifecycle.prepareUpdate ⟨delivery.api.kind, waits⟩ priorState config prior =
        .ok (desired, changed) →
      (∀ w told, delivery.api.kind.update
          ⟨context, delivery.api.kind.credentials context desired⟩ prior desired changed w =
            (.ok (), told) →
        ∃ writes : List Write,
          (changed ≠ [] → ∀ write ∈ writes, ∃ entry ∈
            (Lifecycle.update ⟨delivery.api.kind, waits⟩ context priorState config).sent w,
            entry.request =
              write.request ⟨context, delivery.api.kind.credentials context desired⟩) ∧
          (∀ entry ∈
            (Lifecycle.update ⟨delivery.api.kind, waits⟩ context priorState config).sent w,
            entry.request.method ≠ .get → ∃ write ∈ writes, entry.request =
              write.request ⟨context, delivery.api.kind.credentials context desired⟩) ∧
          ∀ channel ∈ delivery.channels, channel.isLocal = false → channel.name ∈ changed →
            ¬channel.same prior desired →
            ((∃ write ∈ writes, channel.tells prior desired write) ↔ ¬channel.lost desired)) ∧
      ∀ w, ∀ entry ∈
        (Lifecycle.update ⟨delivery.api.kind, waits⟩ context priorState config).sent w,
        entry.request.method ≠ .get → ∃ write : Write,
          entry.request =
            write.request ⟨context, delivery.api.kind.credentials context desired⟩ ∧
          ∀ channel ∈ delivery.channels, channel.mentions write →
            channel.tells prior desired write ∧ ∀ source, priorState = .obj source →
              Keyed.Sorted source → channel.name ∉ changed → channel.same prior desired := by
  intro delivery member priorState config prior desired changed wellFormed decoded prepared
  have known : delivery.api.kind ∈ kinds := by
    rw [← kind_deliveries]
    exact List.mem_map.mpr ⟨delivery, member, rfl⟩
  obtain ⟨merged, parts⟩ := prepared_of_prepareUpdate known wellFormed decoded prepared
  constructor
  · intro w told telling
    have tellsAll := telling
    rw [delivery.api.update_eq] at tellsAll
    obtain ⟨writes, listed, _⟩ := bind_ofExcept_ok_iff.mp tellsAll
    refine ⟨writes, ?_, ?_, delivery.delivers parts listed⟩
    · intro changes write inside
      exact delivery.api.sent_of_update waits decoded prepared changes telling listed inside
    · intro entry sent noLook
      obtain ⟨all, found, write, inside, request⟩ :=
        Api.write_of_sent decoded prepared sent noLook
      cases Except.ok.inj (listed.symm.trans found)
      exact ⟨write, inside, request⟩
  · intro w entry sent noLook
    obtain ⟨all, found, write, inside, request⟩ := Api.write_of_sent decoded prepared sent noLook
    exact ⟨write, request, delivery.keeps parts found write inside⟩

namespace FlinkComputePool

def pool (name : String) (size : Int64) : State :=
  ⟨"lfcp-1", name, "AWS", "eu-1", some size, [⟨"env-1"⟩], ""⟩

/-- What is asked of a pool, in the form that the host gives it in. -/
def poolConfig (name : String) (size : Int64) : Json :=
  .obj [("cloud", .str "AWS"), ("display_name", .str name),
    ("environment", .arr [.obj [("id", .str "env-1")]]), ("max_cfu", .int64 size),
    ("region", .str "eu-1")]

theorem wellFormed_poolConfig (name : String) (size : Int64) :
    (poolConfig name size).WellFormed := by
  refine ⟨Keyed.sorted_of_keys ["cloud", "display_name", "environment", "max_cfu", "region"] rfl
    (by decide), trivial, trivial, ⟨⟨?_, trivial, trivial⟩, trivial⟩, trivial, trivial, trivial⟩
  exact List.pairwise_singleton _ _

theorem update_accepted (prior desired : State) (changed : List String) :
    ∃ told, kind.update ⟨Context.plain, kind.credentials Context.plain desired⟩ prior desired
      changed Environment.acceptedWorld = (.ok (), told) := by
  have ready : Ready Environment.acceptedWorld [Environment.acceptedAnswer] := ⟨rfl, rfl⟩
  have only : ItemKind.flinkComputePools.api.writes Context.plain prior desired changed =
    .ok [ItemKind.flinkComputePools.patch desired changed] := rfl
  obtain ⟨told, run, _⟩ :=
    @Api.update_of_ready _ ⟨Context.plain, none⟩ _ Context.plain_accepting _ _ _ _ only _ _ _
      Environment.accepted_succeeds ready
  exact ⟨told, run⟩

/-- An empty name is planned, and the PATCH that is to bring it is accepted without it. -/
theorem update_loses_name :
    kind.decode.fromState (pool "a" 5).encode = .ok (pool "a" 5) ∧
    Lifecycle.prepareUpdate ⟨kind, fun _ => none⟩ (pool "a" 5).encode (poolConfig "" 5)
      (pool "a" 5) = .ok (pool "" 5, ["display_name"]) ∧
    (pool "a" 5).displayName ≠ (pool "" 5).displayName ∧
    (∃ told, kind.update ⟨Context.plain, none⟩ (pool "a" 5) (pool "" 5) ["display_name"]
      Environment.acceptedWorld = (.ok (), told)) ∧
    ∀ entry ∈ (Lifecycle.update ⟨kind, fun _ => none⟩ Context.plain (pool "a" 5).encode
      (poolConfig "" 5)).sent Environment.acceptedWorld, entry.request.method ≠ .get →
      entry.request.body =
        some (.obj [("spec", .obj [("environment", .obj [("id", .str "env-1")])])]) := by
  have decoded : kind.decode.fromState (pool "a" 5).encode = .ok (pool "a" 5) :=
    round_trips (pool "a" 5)
  have prepared : Lifecycle.prepareUpdate ⟨kind, fun _ => none⟩ (pool "a" 5).encode
    (poolConfig "" 5) (pool "a" 5) = .ok (pool "" 5, ["display_name"]) := rfl
  refine ⟨decoded, prepared, by decide, update_accepted _ _ _, ?_⟩
  intro entry member noLook
  obtain ⟨all, listed, write, inside, request⟩ :=
    @Api.write_of_sent ItemKind.flinkComputePools.api _ _ _ _ _ _ _ _ decoded prepared _ member
      noLook
  have only : [ItemKind.flinkComputePools.patch (pool "" 5) ["display_name"]] = all :=
    Except.ok.inj listed
  rw [← only] at inside
  rw [request, List.mem_singleton.mp inside]
  rfl

/-- A pool grows from five units to ten. -/
theorem changes_carried_size :
    ∃ entry ∈ (Lifecycle.update ⟨kind, fun _ => none⟩ Context.plain (pool "a" 5).encode
        (poolConfig "a" 10)).sent Environment.acceptedWorld,
      ∃ body, entry.request.body = some body ∧ body.at ["spec", "max_cfu"] = some (.int64 10) := by
  obtain ⟨told, telling⟩ := update_accepted (pool "a" 5) (pool "a" 10) ["max_cfu"]
  have listed : delivery ∈ deliveries := by simp [deliveries]
  obtain ⟨carries, _⟩ := changes_carried_iff (fun _ => none) Context.plain delivery listed
    (pool "a" 5).encode (poolConfig "a" 10) (pool "a" 5) (pool "a" 10) ["max_cfu"]
    (wellFormed_poolConfig "a" 10) (round_trips (pool "a" 5)) rfl
  obtain ⟨writes, sent, _, tells⟩ := carries Environment.acceptedWorld told telling
  have size : Channel.field "max_cfu" ["spec", "max_cfu"] (fun a b => a.maxCfu = b.maxCfu)
    (fun s => s.maxCfu.map Json.int64) ∈ channels := by simp [channels]
  have grows : (pool "a" 5).maxCfu ≠ (pool "a" 10).maxCfu := by decide
  obtain ⟨write, inside, _, carried⟩ := (tells _ size rfl List.mem_cons_self grows).mpr id
  obtain ⟨entry, member, request⟩ := sent (by simp) write inside
  obtain ⟨body, given, here⟩ : ∃ body, write.body = some body ∧
      body.at ["spec", "max_cfu"] = some (.int64 10) := Option.bind_eq_some_iff.mp carried
  exact ⟨entry, member, body, request ▸ given, here⟩

end FlinkComputePool

end Provisioner
