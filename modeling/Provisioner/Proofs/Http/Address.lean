import Mathlib.Data.List.ReduceOption
import Provisioner.Kinds.Reference
import Provisioner.Proofs.Http.Endpoint
import Provisioner.Proofs.ImportKey
import Provisioner.Proofs.Text.Percent

/-!
# Addresses and the parts of a URL

A URL is read by cutting it at its marks: what is behind the first `#` is the fragment, what is
behind the first `?` in front of it is the query, the path is cut at its slashes, and the query at
its ampersands and each parameter at its first equals sign.

An address lists what a URL is to have behind its base: segments, some of them identifiers, and
perhaps an environment. No encoding holds a mark, so the text of an address is read as just what is
listed. Addresses of one form have equally many slashes, so two URLs that end with them can only be
equal if the addresses are.
-/

namespace Provisioner.Http

set_option autoImplicit false

open Text.Percent (encode encode_injective isUnreserved marks not_mem_encode not_mem_of_unreserved)

/-- What is in front of the first occurrence of a mark, and what is behind it, if it occurs. -/
def cut (mark : Char) : List Char → List Char × Option (List Char)
  | [] => ([], none)
  | c :: rest => if c = mark then ([], some rest) else (cut mark rest).map (c :: ·) id

theorem cut_of_not_mem {mark : Char} {text : List Char} (absent : mark ∉ text) :
    cut mark text = (text, none) := by
  induction text with
  | nil => rfl
  | cons c rest ih =>
    unfold cut
    rw [if_neg (List.ne_of_not_mem_cons absent).symm, ih (List.not_mem_of_not_mem_cons absent)]
    rfl

theorem cut_append {mark : Char} {front : List Char} (absent : mark ∉ front) (rest : List Char) :
    cut mark (front ++ mark :: rest) = (front, some rest) := by
  induction front with
  | nil => exact if_pos rfl
  | cons c front ih =>
    rw [List.cons_append]
    unfold cut
    rw [if_neg (List.ne_of_not_mem_cons absent).symm, ih (List.not_mem_of_not_mem_cons absent)]
    rfl

/-- The parts of a URL. Scheme and host are segments like those of the path. -/
structure Parts where
  segments : List String
  parameters : List (String × Option String)
  fragment : Option String
deriving DecidableEq, Repr

namespace Parts

def parameter (text : List Char) : String × Option String :=
  let (name, value) := cut '=' text
  (String.ofList name, value.map String.ofList)

def ofText (url : String) : Parts :=
  let (located, fragment) := cut '#' url.toList
  let (path, query) := cut '?' located
  { segments := (splitChars '/' path).map String.ofList
    parameters := query.elim [] fun text => (splitChars '&' text).map parameter
    fragment := fragment.map String.ofList }

/-- The query of a path in an environment. -/
def query (id : String) : List Char := "environment".toList ++ '=' :: (encode id).toList

theorem toList_inEnvironment (path id : String) :
    (inEnvironment path id).toList = path.toList ++ '?' :: query id := by
  unfold inEnvironment query
  simp [String.toList_append]

theorem not_mem_query {mark : Char} (separates : mark ∈ marks) (other : mark ≠ '=') (id : String) :
    mark ∉ query id := by
  unfold query
  simp only [List.mem_append, List.mem_cons, not_or]
  exact ⟨not_mem_of_unreserved (by decide) separates, other, not_mem_encode separates id⟩

theorem parameter_query (id : String) :
    parameter (query id) = ("environment", some (encode id)) := by
  have valued : cut '=' (query id) = ("environment".toList, some (encode id).toList) :=
    cut_append (by decide) _
  simp only [parameter, valued, Option.map_some, String.ofList_toList]

theorem ofText_restricted {path : String} (noFragment : '#' ∉ path.toList)
    (noQuery : '?' ∉ path.toList) (environment : Option String) :
    ofText (environment.elim path (inEnvironment path)) =
      { segments := idSegments path
        parameters := (environment.map fun id => ("environment", some (encode id))).toList
        fragment := none } := by
  unfold ofText
  cases environment with
  | none =>
    simp only [Option.elim_none, cut_of_not_mem noFragment, cut_of_not_mem noQuery]
    rfl
  | some id =>
    have located : '#' ∉ path.toList ++ '?' :: query id := by
      simp only [List.mem_append, List.mem_cons, not_or]
      exact ⟨noFragment, by decide, not_mem_query (by decide) (by decide) id⟩
    have single : splitChars '&' (query id) = [query id] :=
      splitChars_of_not_mem (not_mem_query (by decide) (by decide) id)
    simp only [Option.elim_some, toList_inEnvironment, cut_of_not_mem located, cut_append noQuery,
      single, List.map_cons, List.map_nil, parameter_query]
    rfl

end Parts

theorem childPath_compositeId {segments : List String} (given : segments ≠ []) (id : String) :
    childPath (compositeId segments) id = compositeId (segments ++ [encode id]) := by
  unfold childPath compositeId
  rw [String.intercalate_append_of_ne_nil given (List.cons_ne_nil _ _),
    String.intercalate_singleton]

/-- A segment is a fixed word or an identifier, which is encoded. -/
inductive Segment where
  | word (text : String)
  | identifier (id : String)
deriving DecidableEq, Repr

namespace Segment

def text : Segment → String
  | word text => text
  | identifier id => encode id

def word? : Segment → Option String
  | word text => some text
  | identifier _ => none

def identifier? : Segment → Option String
  | word _ => none
  | identifier id => some id

theorem eq_of_text {a b : Segment} (words : a.word? = b.word?) (same : a.text = b.text) :
    a = b := by
  cases a with
  | word text =>
    cases b with
    | word other => exact congrArg word same
    | identifier id => cases words
  | identifier id =>
    cases b with
    | word text => cases words
    | identifier other => exact congrArg identifier (encode_injective same)

theorem all_eq_of_text {left right : List Segment} (words : left.map word? = right.map word?)
    (texts : left.map text = right.map text) : left = right := by
  induction left generalizing right with
  | nil => exact (List.map_eq_nil_iff.mp words.symm).symm
  | cons segment rest ih =>
    cases right with
    | nil => cases words
    | cons other others =>
      simp only [List.map_cons, List.cons.injEq] at words texts
      rw [eq_of_text words.1 texts.1, ih words.2 texts.2]

end Segment

structure Address where
  segments : List Segment
  environment : Option String := none

namespace Address

def path (address : Address) : String := compositeId (address.segments.map Segment.text)

def text (address : Address) : String :=
  address.environment.elim address.path (inEnvironment address.path)

def identifiers (address : Address) : List String :=
  address.segments.filterMap Segment.identifier? ++ address.environment.toList

/-- The parts that the URL is to have. -/
def parts (address : Address) : Parts where
  segments := address.segments.map Segment.text
  parameters := (address.environment.map fun id => ("environment", some (encode id))).toList
  fragment := none

/-- An address without its identifiers. -/
structure Form where
  words : List (Option String)
  restricted : Bool
deriving DecidableEq, Repr

def form (address : Address) : Form where
  words := address.segments.map Segment.word?
  restricted := address.environment.isSome

/-- The words of a form need no escapes, and the first one does not begin like a scheme. -/
structure Form.Clear (form : Form) : Prop where
  begins : ∃ first rest word, form.words.head? = some (some word) ∧ word.toList = first :: rest ∧
    ∀ scheme ∈ schemes, first ∉ scheme
  unreserved : ∀ word ∈ form.words.reduceOption, word.toList.all isUnreserved = true

variable {address other : Address}

theorem not_mem_segment (clear : address.form.Clear) {mark : Char} (separates : mark ∈ marks) :
    ∀ text ∈ address.segments.map Segment.text, mark ∉ text.toList := by
  intro text member
  obtain ⟨segment, inside, rfl⟩ := List.mem_map.mp member
  cases segment with
  | word word =>
    have listed : word ∈ address.form.words.reduceOption :=
      List.reduceOption_mem_iff.mpr (List.mem_map.mpr ⟨_, inside, rfl⟩)
    exact not_mem_of_unreserved (clear.unreserved word listed) separates
  | identifier id => exact not_mem_encode separates id

theorem segments_ne_nil (clear : address.form.Clear) :
    address.segments.map Segment.text ≠ [] := by
  obtain ⟨_, _, _, headed, _, _⟩ := clear.begins
  intro none
  rw [List.map_eq_nil_iff] at none
  unfold form at headed
  rw [none] at headed
  cases headed

theorem not_mem_path (clear : address.form.Clear) {mark : Char} (separates : mark ∈ marks)
    (foreign : mark ≠ '/') : mark ∉ address.path.toList := by
  intro member
  rcases mem_compositeId member with slash | ⟨text, inside, occurs⟩
  · exact foreign slash
  · exact not_mem_segment clear separates text inside occurs

theorem idSegments_path (clear : address.form.Clear) :
    idSegments address.path = address.segments.map Segment.text :=
  idSegments_compositeId (segments_ne_nil clear) (not_mem_segment clear (by decide))

theorem parts_text (clear : address.form.Clear) : Parts.ofText address.text = address.parts := by
  have noFragment : '#' ∉ address.path.toList := not_mem_path clear (by decide) (by decide)
  have noQuery : '?' ∉ address.path.toList := not_mem_path clear (by decide) (by decide)
  unfold text parts
  rw [Parts.ofText_restricted noFragment noQuery, idSegments_path clear]

/-- Behind a base that has neither a query nor a fragment the segments of an address follow those of
the base. -/
theorem parts_url (clear : address.form.Clear) {base : String} (noFragment : '#' ∉ base.toList)
    (noQuery : '?' ∉ base.toList) : Parts.ofText (base ++ "/" ++ address.text) =
      { address.parts with segments := idSegments base ++ address.parts.segments } := by
  have moved : base ++ "/" ++ address.text = address.environment.elim (base ++ "/" ++ address.path)
      (inEnvironment (base ++ "/" ++ address.path)) := by
    unfold text
    cases address.environment with
    | none => rfl
    | some id =>
      simp only [Option.elim_some, inEnvironment, String.append_assoc]
  have shape : (base ++ "/" ++ address.path).toList =
      base.toList ++ '/' :: address.path.toList := by
    simp [String.toList_append]
  have unmarked : ∀ mark ∈ marks, mark ≠ '/' → mark ∉ base.toList →
      mark ∉ (base ++ "/" ++ address.path).toList := by
    intro mark separates foreign absent
    rw [shape]
    simp only [List.mem_append, List.mem_cons, not_or]
    exact ⟨absent, foreign, not_mem_path clear separates foreign⟩
  have segments : idSegments (base ++ "/" ++ address.path) =
      idSegments base ++ idSegments address.path := by
    unfold idSegments
    rw [shape]
    exact (congrArg _ (splitChars_append _ _ _)).trans List.map_append
  rw [moved, Parts.ofText_restricted (unmarked '#' (by decide) (by decide) noFragment)
    (unmarked '?' (by decide) (by decide) noQuery), segments, idSegments_path clear]
  rfl

theorem path_begins {word : String} (headed : address.form.words.head? = some (some word)) :
    ∃ later, address.path = word ++ later := by
  unfold form at headed
  unfold path
  cases segments : address.segments with
  | nil => simp [segments] at headed
  | cons segment others =>
    cases segment with
    | identifier id => simp [segments, Segment.word?] at headed
    | word text =>
      obtain rfl : text = word := by simpa [segments, Segment.word?] using headed
      cases others with
      | nil => exact ⟨"", by simp [compositeId, Segment.text]⟩
      | cons next more =>
        refine ⟨"/" ++ compositeId ((next :: more).map Segment.text), ?_⟩
        simp [compositeId, Segment.text, String.append_assoc]

theorem text_begins (clear : address.form.Clear) : ∃ first rest,
    address.text.toList = first :: rest ∧ ∀ scheme ∈ schemes, first ∉ scheme := by
  obtain ⟨first, rest, word, headed, shape, foreign⟩ := clear.begins
  obtain ⟨later, path⟩ := path_begins headed
  have query : ∃ query, address.text = address.path ++ query := by
    unfold text
    cases address.environment with
    | none => exact ⟨"", by simp⟩
    | some id => exact ⟨"?environment=" ++ encode id, by simp [inEnvironment, String.append_assoc]⟩
  obtain ⟨query, text⟩ := query
  refine ⟨first, rest ++ (later ++ query).toList, ?_, foreign⟩
  rw [text, path, String.append_assoc, String.toList_append, shape]
  rfl

theorem count_text (clear : address.form.Clear) :
    address.text.toList.count '/' + 1 = address.segments.length := by
  have path : address.path.toList.count '/' + 1 = address.segments.length := by
    have joined := count_compositeId (segments_ne_nil clear)
    have none : ((address.segments.map Segment.text).flatMap String.toList).count '/' = 0 := by
      rw [List.count_eq_zero]
      intro member
      obtain ⟨text, inside, occurs⟩ := List.mem_flatMap.mp member
      exact not_mem_segment clear (by decide) text inside occurs
    have slash : idSeparator = '/' := rfl
    rw [slash, none, List.length_map, Nat.add_zero] at joined
    exact joined
  unfold text
  cases address.environment with
  | none => exact path
  | some id =>
    have none : (Parts.query id).count '/' = 0 :=
      List.count_eq_zero.mpr (Parts.not_mem_query (by decide) (by decide) id)
    rw [Option.elim_some, Parts.toList_inEnvironment, List.count_append,
      List.count_cons_of_ne (by decide), none]
    exact path

theorem eq_of_text (clear : address.form.Clear) (formed : address.form = other.form)
    (same : address.text = other.text) : address = other := by
  have parts := congrArg Parts.ofText same
  rw [parts_text clear, parts_text (formed ▸ clear)] at parts
  have texts : address.segments.map Segment.text = other.segments.map Segment.text :=
    congrArg Parts.segments parts
  have words : address.segments.map Segment.word? = other.segments.map Segment.word? :=
    congrArg Form.words formed
  have segments := Segment.all_eq_of_text words texts
  have parameters : address.environment.map (fun id => ("environment", some (encode id))) =
      other.environment.map fun id => ("environment", some (encode id)) := by
    have first := congrArg (fun parts => parts.parameters.head?) parts
    simpa only [Address.parts, Option.head?_toList] using first
  have environment : address.environment = other.environment := by
    refine Option.map_injective (fun id other same => ?_) parameters
    exact encode_injective (Option.some.inj (congrArg Prod.snd same))
  cases address
  cases other
  simp only at segments environment
  rw [segments, environment]

theorem eq_nil_of_append_mark {mark : Char} {between rest later : List Char}
    (counts : rest.count mark = later.count mark)
    (tail : mark :: rest = between ++ mark :: later) : between = [] := by
  cases between with
  | nil => rfl
  | cons c between =>
    -- The one text would have the other with its mark in it, and so one mark more.
    have longer : rest = between ++ mark :: later := (List.cons.inj tail).2
    rw [longer, List.count_append, List.count_cons_self] at counts
    omega

/-- Where two texts end with equally many marks behind a further one, that one is at the same
place. -/
theorem append_mark_inj {mark : Char} {front other rest later : List Char}
    (counts : rest.count mark = later.count mark)
    (same : front ++ mark :: rest = other ++ mark :: later) : front = other ∧ rest = later := by
  rcases List.append_eq_append_iff.mp same with ⟨between, longer, tail⟩ | ⟨between, longer, tail⟩
  · obtain rfl := eq_nil_of_append_mark counts tail
    rw [List.append_nil] at longer
    exact ⟨longer.symm, (List.cons.inj tail).2⟩
  · obtain rfl := eq_nil_of_append_mark counts.symm tail
    rw [List.append_nil] at longer
    exact ⟨longer, (List.cons.inj tail).2.symm⟩

theorem url_inj (clear : address.form.Clear) (formed : address.form = other.form)
    {base place : String} (same : base ++ "/" ++ address.text = place ++ "/" ++ other.text) :
    base = place ∧ address = other := by
  have urls := congrArg String.toList same
  have lengths : address.segments.length = other.segments.length := by
    have words := congrArg (fun form => form.words.length) formed
    unfold form at words
    simpa only [List.length_map] using words
  have counts : address.text.toList.count '/' = other.text.toList.count '/' := by
    have count := count_text clear
    have countOther := count_text (formed ▸ clear)
    omega
  have slash : "/".toList = ['/'] := rfl
  simp only [String.toList_append, slash, List.append_assoc, List.singleton_append] at urls
  obtain ⟨front, rest⟩ := append_mark_inj counts urls
  exact ⟨String.toList_injective front, eq_of_text clear formed (String.toList_injective rest)⟩

/-- How a URL relates to its base and an address: the address follows the base and is read as what
it lists, on its own and, where the base has neither a query nor a fragment, as part of the URL. Of
an identifier there are only unreserved characters and escapes. -/
structure Located (address : Address) (base url : String) : Prop where
  url_eq : url = base ++ "/" ++ address.text
  parts_text : Parts.ofText address.text = address.parts
  parts_url : '#' ∉ base.toList → '?' ∉ base.toList → Parts.ofText url =
    { address.parts with segments := idSegments base ++ address.parts.segments }
  spelled : ∀ id ∈ address.identifiers, Text.Percent.Spelled (encode id).toList

theorem located (clear : address.form.Clear) (base : String) :
    address.Located base (base ++ "/" ++ address.text) where
  url_eq := rfl
  parts_text := parts_text clear
  parts_url := parts_url clear
  spelled id _ := Text.Percent.spelled_encode id

end Address

end Provisioner.Http
