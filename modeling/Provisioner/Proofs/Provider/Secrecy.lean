import Provisioner.Proofs.Kinds.Veiled
import Provisioner.Proofs.Provider.Foretold

/-!
# Diagnostics without secrets

A host shows what a validation reports. Of a value it tells the shape alone as long as the schema
is checked, and where the checks of a kind show values, none of them comes out of a sensitive
attribute: two configurations that differ in the texts of their secrets are reported on alike.
-/

namespace Provisioner

set_option autoImplicit false

namespace Provider

/-- Values of the same shape get the same diagnostics from a schema, and configurations that differ
in the texts of sensitive attributes only get the same diagnostics from every kind. -/
theorem diagnostics_hide_secrets (p : Provider) :
    (∀ (schema : Schema) (a b : Json), a.shape = b.shape →
      schema.validate a = schema.validate b) ∧
    ∀ kind ∈ kinds, ∀ a b : Json, a.WellFormed → b.WellFormed →
      kind.schema.veil a = kind.schema.veil b →
        p.validate kind.name a = p.validate kind.name b := by
  constructor
  · intro schema a b same
    rw [← schema.validate_shape a, same, schema.validate_shape]
  · intro kind listed a b wellFormed wellFormedOther same
    have discreet : (p.lifecycle kind).kind.Discreet := discreet_of_mem_kinds listed
    rw [p.validate_of_kind listed, p.validate_of_kind listed,
      ← Lifecycle.validate_veil discreet wellFormed,
      ← Lifecycle.validate_veil discreet wellFormedOther]
    exact congrArg (fun config => Except.ok ((p.lifecycle kind).validate config)) same

/-- A connector with a setting in both maps, which is refused by the name of that setting. -/
def clashing (secret : String) : Json :=
  .obj [("config_nonsensitive", .obj [("key", .str "plain"), ("name", .str "sink")]),
    ("config_sensitive", .obj [("key", .str secret)]),
    ("environment", .arr [.obj [("id", .str "env-1")]]),
    ("kafka_cluster", .arr [.obj [("id", .str "lkc-1")]])]

theorem wellFormed_clashing (secret : String) : (clashing secret).WellFormed := by
  have plain : "key" < "name" := by decide
  have one (key text : String) : (Json.obj [(key, .str text)]).WellFormed :=
    ⟨List.pairwise_singleton _ _, trivial, trivial⟩
  exact ⟨Keyed.sorted_of_keys
      ["config_nonsensitive", "config_sensitive", "environment", "kafka_cluster"] rfl (by decide),
    ⟨List.pairwise_pair.mpr plain, trivial, trivial, trivial⟩, one _ _, ⟨one _ _, trivial⟩,
    ⟨one _ _, trivial⟩, trivial⟩

theorem diagnostics_hide_secrets_clashing :
    ((clashing "one").shape = (clashing "another").shape ∧
      Connector.schema.validate (clashing "one") =
        Connector.schema.validate (clashing "another")) ∧
    Connector.kind ∈ kinds ∧ (clashing "one").WellFormed ∧ (clashing "another").WellFormed ∧
      Connector.kind.schema.veil (clashing "one") =
        Connector.kind.schema.veil (clashing "another") ∧
      ({} : Provider).validate "confluent_connector" (clashing "one") =
        ({} : Provider).validate "confluent_connector" (clashing "another") ∧
      ∃ found, ({} : Provider).validate "confluent_connector" (clashing "one") = .ok [found] := by
  have shapes : (clashing "one").shape = (clashing "another").shape := rfl
  have veils : Connector.kind.schema.veil (clashing "one") =
      Connector.kind.schema.veil (clashing "another") := rfl
  have listed : Connector.kind ∈ kinds := by simp [kinds]
  have hides := diagnostics_hide_secrets {}
  exact ⟨⟨shapes, hides.1 _ _ _ shapes⟩, listed, wellFormed_clashing _, wellFormed_clashing _,
    veils, hides.2 _ listed _ _ (wellFormed_clashing _) (wellFormed_clashing _) veils, _, rfl⟩

end Provider

end Provisioner
