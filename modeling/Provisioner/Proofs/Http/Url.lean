import Provisioner.Http.Client
import Provisioner.Kinds.Reference
import Provisioner.Proofs.Text.Percent

/-!
# What a URL tells

A path that begins with a single slash is resolved against the endpoint, and the URL gives the path
back. The path of an object in a collection gives the identifier back, with or without a query.
-/

namespace Provisioner

set_option autoImplicit false

namespace Http

/-- A path that begins with one slash. -/
def Rooted (path : String) : Prop :=
  ∃ first rest, path.toList = '/' :: first :: rest ∧ first ≠ '/'

theorem Rooted.append {path : String} (rooted : Rooted path) (suffix : String) :
    Rooted (path ++ suffix) := by
  obtain ⟨first, rest, shape, single⟩ := rooted
  exact ⟨first, rest ++ suffix.toList, by rw [String.toList_append, shape]; rfl, single⟩

theorem Rooted.url {path : String} (rooted : Rooted path) (client : Client) :
    (client.url path).toList = client.endpoint.toList ++ path.toList := by
  obtain ⟨first, rest, shape, single⟩ := rooted
  have relative : isAbsoluteUrl path = false := by
    unfold isAbsoluteUrl
    rw [shape]
    rfl
  have left : path.toList.dropWhile (· == '/') = first :: rest := by
    rw [shape]
    simp [single]
  unfold Client.url dropLeadingSlashes
  rw [relative, if_neg Bool.false_ne_true, left, String.toList_append, String.toList_append,
    String.toList_ofList, shape]
  simp

theorem Rooted.url_injective {a b : String} (rootedA : Rooted a) (rootedB : Rooted b)
    {client : Client} (same : client.url a = client.url b) : a = b := by
  have urls := congrArg String.toList same
  rw [rootedA.url, rootedB.url] at urls
  exact String.toList_injective (List.append_cancel_left urls)

end Http

theorem rooted_childPath {collection : String} (rooted : Http.Rooted collection) (id : String) :
    Http.Rooted (childPath collection id) := (rooted.append "/").append _

/-- The query of a path, or the lack of one. -/
def IsQuery (suffix : List Char) : Prop := suffix = [] ∨ ∃ rest, suffix = '?' :: rest

theorem takeWhile_query {text : String} {suffix : List Char} (query : IsQuery suffix) :
    ((Text.Percent.encode text).toList ++ suffix).takeWhile (· != '?') =
      (Text.Percent.encode text).toList := by
  rw [List.takeWhile_append_of_pos]
  · rcases query with rfl | ⟨rest, rfl⟩
    · simp
    · simp
  · intro c member
    simp only [bne_iff_ne, ne_eq]
    rintro rfl
    exact Text.Percent.not_mem_encode (by decide) text member

theorem id_of_childPath {collection a b : String} {suffix suffix' : List Char}
    (query : IsQuery suffix) (query' : IsQuery suffix')
    (same : (childPath collection a).toList ++ suffix =
      (childPath collection b).toList ++ suffix') : a = b := by
  unfold childPath at same
  simp only [String.toList_append, List.append_assoc, List.append_cancel_left_eq] at same
  have encodings := congrArg (List.takeWhile (· != '?')) same
  rw [takeWhile_query query, takeWhile_query query'] at encodings
  exact Text.Percent.encode_injective (String.toList_injective encodings)

theorem id_of_childPath_url {collection a b : String} (rooted : Http.Rooted collection)
    {client : Http.Client}
    (same : client.url (childPath collection a) = client.url (childPath collection b)) : a = b := by
  have paths := (rooted_childPath rooted a).url_injective (rooted_childPath rooted b) same
  apply id_of_childPath (Or.inl rfl) (Or.inl rfl)
  rw [List.append_nil, List.append_nil]
  exact congrArg String.toList paths

end Provisioner
