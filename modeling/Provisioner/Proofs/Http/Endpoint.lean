import Mathlib.Data.List.TakeWhile
import Provisioner.Http.Client

/-!
# Endpoints and absolute URLs

Whether a path is an absolute URL shows in its first characters. If it is put together from an
endpoint without slashes at its end and a suffix, the endpoint decides. An endpoint that is none of
an absolute URL makes a relative path, and the URL of that begins with the endpoint of the client.
-/

namespace Provisioner.Http

set_option autoImplicit false

/-- How absolute URLs begin. -/
def schemes : List (List Char) := ["http://".toList, "https://".toList]

theorem isAbsoluteUrl_iff {text : String} :
    isAbsoluteUrl text = true ↔ ∃ scheme ∈ schemes, scheme <+: text.toList := by
  unfold isAbsoluteUrl schemes
  simp only [Bool.or_eq_true, List.isPrefixOf_iff_prefix, List.mem_cons, List.not_mem_nil, or_false,
    exists_eq_or_imp, exists_eq_left]

theorem isAbsoluteUrl_of_prefix {text longer : String} (begins : text.toList <+: longer.toList)
    (absolute : isAbsoluteUrl text = true) : isAbsoluteUrl longer = true := by
  obtain ⟨scheme, listed, starts⟩ := isAbsoluteUrl_iff.mp absolute
  exact isAbsoluteUrl_iff.mpr ⟨scheme, listed, starts.trans begins⟩

theorem toList_dropTrailingSlashes (text : String) :
    (dropTrailingSlashes text).toList = (text.toList.reverse.dropWhile (· == '/')).reverse := by
  unfold dropTrailingSlashes
  rw [String.toList_ofList]

theorem getLast_dropTrailingSlashes (text : String) :
    (dropTrailingSlashes text).toList.getLast? ≠ some '/' := by
  rw [toList_dropTrailingSlashes, List.getLast?_reverse]
  intro last
  have kept := List.head?_dropWhile_not (· == '/') text.toList.reverse
  rw [last] at kept
  simp at kept

/-- Without a slash at its end, a text begins like an absolute URL on its own or not at all: what
follows after one slash can not complete a scheme. -/
theorem isAbsoluteUrl_append {endpoint suffix : String} {c : Char} {rest : List Char}
    (bare : endpoint.toList.getLast? ≠ some '/') (shape : suffix.toList = '/' :: c :: rest)
    (foreign : ∀ scheme ∈ schemes, c ∉ scheme) :
    isAbsoluteUrl (endpoint ++ suffix) = isAbsoluteUrl endpoint := by
  rw [Bool.eq_iff_iff]
  constructor
  · intro absolute
    obtain ⟨scheme, listed, starts⟩ := isAbsoluteUrl_iff.mp absolute
    rw [String.toList_append, shape] at starts
    refine isAbsoluteUrl_iff.mpr ⟨scheme, listed, ?_⟩
    rcases List.prefix_or_prefix_of_prefix starts (List.prefix_append _ _) with own | shorter
    · exact own
    · -- The scheme would end within the suffix, with one of its two slashes or with the letter.
      obtain ⟨tail, split⟩ := shorter
      rw [← split, List.prefix_append_right_inj] at starts
      cases tail with
      | nil =>
        rw [List.append_nil] at split
        exact ⟨[], (List.append_nil scheme).trans split.symm⟩
      | cons first more =>
        obtain ⟨rfl, later⟩ := List.cons_prefix_cons.mp starts
        cases more with
        | nil =>
          exfalso
          apply bare
          simp only [schemes, List.mem_cons, List.not_mem_nil, or_false] at listed
          rcases listed with rfl | rfl
          · have same : endpoint.toList = "http:/".toList :=
              List.append_cancel_right (split.trans (by rfl : _ = "http:/".toList ++ ['/']))
            rw [same]
            rfl
          · have same : endpoint.toList = "https:/".toList :=
              List.append_cancel_right (split.trans (by rfl : _ = "https:/".toList ++ ['/']))
            rw [same]
            rfl
        | cons second most =>
          exfalso
          obtain ⟨rfl, _⟩ := List.cons_prefix_cons.mp later
          apply foreign scheme listed
          rw [← split]
          simp
  · intro absolute
    apply isAbsoluteUrl_of_prefix _ absolute
    rw [String.toList_append]
    exact List.prefix_append _ _

/-- Where a client looks for what is below an origin; without one it is the platform's endpoint. -/
def Client.base (client : Client) (origin : String) : String :=
  if origin = "" then client.endpoint else client.url origin

theorem dropLeadingSlashes_append {origin : String} (given : origin ≠ "")
    (bare : origin.toList.getLast? ≠ some '/') (path : String) :
    dropLeadingSlashes (origin ++ path) = dropLeadingSlashes origin ++ path := by
  have stays : (origin.toList.dropWhile (· == '/')).isEmpty = false := by
    rw [Bool.eq_false_iff]
    intro empty
    have slashes := List.dropWhile_eq_nil_iff.mp (List.isEmpty_iff.mp empty)
    cases last : origin.toList.getLast? with
    | none => exact given (String.toList_injective (List.getLast?_eq_none_iff.mp last))
    | some c =>
      have slash := slashes c (List.mem_of_getLast? last)
      rw [last, beq_iff_eq.mp slash] at bare
      exact bare rfl
  apply String.toList_injective
  unfold dropLeadingSlashes
  rw [String.toList_append, String.toList_ofList, String.toList_append, String.toList_ofList,
    List.dropWhile_append, stays, if_neg Bool.false_ne_true]

theorem Client.url_append {client : Client} {origin path : String} {c : Char} {rest : List Char}
    (bare : origin.toList.getLast? ≠ some '/') (shape : path.toList = c :: rest)
    (foreign : ∀ scheme ∈ schemes, c ∉ scheme) :
    client.url (origin ++ "/" ++ path) = client.base origin ++ "/" ++ path := by
  have below : ("/" ++ path).toList = '/' :: c :: rest := by
    rw [String.toList_append, shape]
    rfl
  rw [String.append_assoc, String.append_assoc]
  unfold base url
  rw [isAbsoluteUrl_append bare below foreign]
  by_cases none : origin = ""
  · -- The slash in front of the path is dropped and another one put behind the endpoint.
    subst none
    have notSlash : c ≠ '/' := by
      rintro rfl
      exact foreign _ (List.mem_cons_self ..) (by decide)
    have relative : isAbsoluteUrl "" = false := rfl
    have dropped : dropLeadingSlashes ("/" ++ path) = path := by
      apply String.toList_injective
      unfold dropLeadingSlashes
      rw [String.toList_ofList, below, shape]
      simp [notSlash]
    rw [if_pos rfl, relative, if_neg Bool.false_ne_true, String.empty_append, dropped,
      String.append_assoc]
  · rw [if_neg none]
    by_cases absolute : isAbsoluteUrl origin = true
    · rw [if_pos absolute, if_pos absolute]
    · rw [if_neg absolute, if_neg absolute, dropLeadingSlashes_append none bare,
        String.append_assoc, String.append_assoc, String.append_assoc]

theorem dropTrailingSlashes_absolute {endpoint : String}
    (absolute : isAbsoluteUrl endpoint = true) :
    isAbsoluteUrl (dropTrailingSlashes endpoint) = true ∨
      dropTrailingSlashes endpoint = "http:" ∨ dropTrailingSlashes endpoint = "https:" := by
  obtain ⟨scheme, listed, rest, split⟩ := isAbsoluteUrl_iff.mp absolute
  have dropped := toList_dropTrailingSlashes endpoint
  rw [← split, List.reverse_append, List.dropWhile_append] at dropped
  by_cases slashes : (rest.reverse.dropWhile (· == '/')).isEmpty = true
  · right
    rw [if_pos slashes] at dropped
    simp only [schemes, List.mem_cons, List.not_mem_nil, or_false] at listed
    rcases listed with rfl | rfl
    · exact Or.inl (String.toList_injective dropped)
    · exact Or.inr (String.toList_injective dropped)
  · left
    rw [if_neg slashes, List.reverse_append, List.reverse_reverse] at dropped
    refine isAbsoluteUrl_iff.mpr ⟨scheme, listed, ?_⟩
    rw [dropped]
    exact List.prefix_append _ _

/-- A list that is a prefix of itself moved to the right is made of what stands in front of it. -/
theorem mem_of_prefix_append_self {α : Type} {front list rest : List α} (some : front ≠ [])
    (repeats : list <+: front ++ (list ++ rest)) {c : α} (member : c ∈ list) : c ∈ front := by
  obtain ⟨i, bound, rfl⟩ := List.getElem_of_mem member
  induction i using Nat.strongRecOn with
  | _ i ih =>
    have same := repeats.getElem bound
    by_cases early : i < front.length
    · rw [same, List.getElem_append_left early]
      exact List.getElem_mem early
    · have positive : 0 < front.length := List.length_pos_iff.mpr some
      have within : i - front.length < list.length := by omega
      have moved : list[i] = list[i - front.length] := by
        rw [same, List.getElem_append_right (Nat.le_of_not_lt early),
          List.getElem_append_left within]
      rw [moved]
      exact ih (i - front.length) (by omega) within (List.getElem_mem within)

/-- The URL of a relative path does not begin with the beginning of the path, if the client has an
endpoint that was absolute. -/
theorem not_prefix_url_of_relative {client : Client} {endpoint base : String}
    (made : client.endpoint = dropTrailingSlashes endpoint)
    (absolute : isAbsoluteUrl endpoint = true) (relative : isAbsoluteUrl base = false) {c : Char}
    (member : c ∈ base.toList) (foreign : ∀ scheme ∈ schemes, c ∉ scheme) (rest : String) :
    ¬base.toList <+: (client.endpoint ++ "/" ++ dropLeadingSlashes (base ++ rest)).toList := by
  intro begins
  rcases dropTrailingSlashes_absolute absolute with kept | lost
  · -- A prefix of an absolute URL is absolute itself or lies within the scheme.
    rw [← made] at kept
    obtain ⟨scheme, listed, starts⟩ := isAbsoluteUrl_iff.mp kept
    have starting : scheme <+:
        (client.endpoint ++ "/" ++ dropLeadingSlashes (base ++ rest)).toList := by
      rw [String.toList_append, String.toList_append, List.append_assoc]
      exact starts.trans (List.prefix_append _ _)
    rcases List.prefix_or_prefix_of_prefix starting begins with inside | within
    · have absoluteBase := isAbsoluteUrl_iff.mpr ⟨scheme, listed, inside⟩
      rw [relative] at absoluteBase
      cases absoluteBase
    · exact foreign scheme listed (within.subset member)
  · -- Nothing is left of the endpoint but the name of the scheme.
    obtain ⟨front, inFront, named, headed⟩ : ∃ front : List Char,
        (client.endpoint ++ "/").toList = front ∧ c ∉ front ∧ ∃ more, front = 'h' :: more := by
      rw [made]
      have httpForeign := foreign _ (List.mem_cons_self ..)
      have httpsForeign := foreign _ (List.mem_cons_of_mem _ (List.mem_cons_self ..))
      rcases lost with name | name
      · refine ⟨"http:/".toList, by rw [name]; rfl, ?_, _, rfl⟩
        intro inside
        exact httpForeign (List.mem_append_left ['/'] inside)
      · refine ⟨"https:/".toList, by rw [name]; rfl, ?_, _, rfl⟩
        intro inside
        exact httpsForeign (List.mem_append_left ['/'] inside)
    obtain ⟨more, headed⟩ := headed
    rw [String.toList_append, inFront] at begins
    cases shape : base.toList with
    | nil =>
      rw [shape] at member
      cases member
    | cons first others =>
      have first_h : first = 'h' := by
        rw [shape, headed] at begins
        exact (List.cons_prefix_cons.mp begins).1
      have unchanged : (dropLeadingSlashes (base ++ rest)).toList = base.toList ++ rest.toList := by
        unfold dropLeadingSlashes
        rw [String.toList_ofList, String.toList_append, shape, first_h]
        rfl
      rw [unchanged] at begins
      exact named (mem_of_prefix_append_self (by simp [headed]) begins member)

end Provisioner.Http
