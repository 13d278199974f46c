import Provisioner.Proofs.Http.Stopping

/-!
# Attempts of one request

How a request is repeated when the host does not ask to stop: it is sent again as long as retries
are left and the last answer may be another one the next time, after the delay that the server asks
for or that the policy sets. Whatever the answers before it were, the last one decides the result.
-/

namespace Provisioner

set_option autoImplicit false

namespace Http

/-- A header that names a delay: digits, perhaps after a plus sign and with blanks around them, that
make a number of 64 bits. -/
inductive NamesSeconds : String → Nat → Prop
  | intro {before sign digits after : List Char}
      (padded : ∀ c ∈ before ++ after, c = ' ' ∨ c = '\t') (signed : sign = [] ∨ sign = ['+'])
      (some : digits ≠ []) (numeral : ∀ c ∈ digits, c.isDigit = true)
      (fits : Nat.ofDigitChars 10 digits 0 < UInt64.size) :
      NamesSeconds (String.ofList (before ++ (sign ++ digits) ++ after))
        (Nat.ofDigitChars 10 digits 0)

section Padding

theorem isBlankChar_of_padding {c : Char} (padding : c = ' ' ∨ c = '\t') :
    Text.isBlankChar c = true := by
  rcases padding with rfl | rfl
  · decide
  · decide

theorem padding_of_isBlankChar {c : Char} (blank : Text.isBlankChar c = true)
    (visible : RetryPolicy.isVisible c = true) : c = ' ' ∨ c = '\t' := by
  unfold RetryPolicy.isVisible at visible
  rw [Bool.or_eq_true, beq_iff_eq, Bool.and_eq_true, decide_eq_true_eq, decide_eq_true_eq]
    at visible
  rcases visible with tab | ⟨low, high⟩
  · exact Or.inr tab
  · left
    have code : c.toNat = 0x20 := by
      simp only [Text.isBlankChar, Text.whiteSpaceRanges, List.any_cons, List.any_nil,
        Bool.or_false, Bool.or_eq_true, Bool.and_eq_true, decide_eq_true_eq] at blank
      omega
    rw [← Char.ofNat_toNat c, code]

theorem code_of_isDigit {c : Char} (digit : c.isDigit = true) :
    0x30 ≤ c.toNat ∧ c.toNat ≤ 0x39 := by
  simpa [Char.isDigit, UInt32.le_iff_toNat_le] using digit

theorem isVisible_of_isDigit {c : Char} (digit : c.isDigit = true) :
    RetryPolicy.isVisible c = true := by
  have code := code_of_isDigit digit
  unfold RetryPolicy.isVisible
  rw [Bool.or_eq_true, Bool.and_eq_true, decide_eq_true_eq, decide_eq_true_eq]
  right
  omega

theorem isBlankChar_of_isDigit {c : Char} (digit : c.isDigit = true) :
    Text.isBlankChar c = false := by
  have code := code_of_isDigit digit
  simp only [Text.isBlankChar, Text.whiteSpaceRanges, List.any_cons, List.any_nil, Bool.or_false,
    Bool.or_eq_false_iff, Bool.and_eq_false_iff, decide_eq_false_iff_not]
  omega

theorem exists_padding (text : String) : ∃ before after : List Char,
    text.toList = before ++ (Text.trim text).toList ++ after ∧
      ∀ c ∈ before ++ after, Text.isBlankChar c = true := by
  let rest := text.toList.dropWhile Text.isBlankChar
  refine ⟨text.toList.takeWhile Text.isBlankChar,
    (rest.reverse.takeWhile Text.isBlankChar).reverse, ?_, ?_⟩
  · have ends :
        rest = Text.dropBlankEnd rest ++ (rest.reverse.takeWhile Text.isBlankChar).reverse := by
      unfold Text.dropBlankEnd
      rw [← List.reverse_append, List.takeWhile_append_dropWhile, List.reverse_reverse]
    rw [Text.trim, String.toList_ofList, List.append_assoc, ← ends]
    exact List.takeWhile_append_dropWhile.symm
  · intro c member
    rcases List.mem_append.mp member with first | last
    · exact List.all_eq_true.mp List.all_takeWhile c first
    · exact List.all_eq_true.mp List.all_takeWhile c (List.mem_reverse.mp last)

theorem trim_padded {before core after : List Char}
    (padded : ∀ c ∈ before ++ after, Text.isBlankChar c = true) (some : core ≠ [])
    (visible : ∀ c ∈ core, Text.isBlankChar c = false) :
    (Text.trim (String.ofList (before ++ core ++ after))).toList = core := by
  have kept : ∀ {list : List Char} (rest : List Char), list ≠ [] →
      (∀ c ∈ list, Text.isBlankChar c = false) →
      (list ++ rest).dropWhile Text.isBlankChar = list ++ rest := by
    intro list rest some all
    obtain ⟨first, later, rfl⟩ := List.exists_cons_of_ne_nil some
    exact List.dropWhile_cons_of_neg (by simp [all first List.mem_cons_self])
  have front : (before ++ (core ++ after)).dropWhile Text.isBlankChar = core ++ after := by
    rw [List.dropWhile_append_of_pos fun c member => padded c (List.mem_append_left _ member)]
    exact kept after some visible
  have back : (after.reverse ++ core.reverse).dropWhile Text.isBlankChar = core.reverse := by
    rw [List.dropWhile_append_of_pos fun c member =>
      padded c (List.mem_append_right _ (List.mem_reverse.mp member))]
    have all := kept [] (List.reverse_ne_nil_iff.mpr some) fun c member =>
      visible c (List.mem_reverse.mp member)
    rwa [List.append_nil] at all
  rw [Text.trim, String.toList_ofList, String.toList_ofList, List.append_assoc, front,
    Text.dropBlankEnd, List.reverse_append, back, List.reverse_reverse]

end Padding

namespace RetryPolicy

theorem foldl_digits (digits : List Char) (start : Nat) :
    digits.foldl (fun n d => n * 10 + (d.toNat - 0x30)) start =
      Nat.ofDigitChars 10 digits start := by
  induction digits generalizing start with
  | nil => rfl
  | cons d rest ih =>
    rw [List.foldl_cons, ih, Nat.ofDigitChars_cons, Nat.mul_comm]
    rfl

/-- The characters without a plus sign in front. -/
def unsigned : List Char → List Char
  | '+' :: rest => rest
  | other => other

theorem unsigned_of_not_signed {chars : List Char}
    (notSigned : ∀ rest, chars = '+' :: rest → False) : unsigned chars = chars := by
  unfold unsigned
  split
  · next rest => exact (notSigned rest rfl).elim
  · rfl

theorem signed_unsigned (chars : List Char) :
    ∃ sign, (sign = [] ∨ sign = ['+']) ∧ chars = sign ++ unsigned chars := by
  unfold unsigned
  split
  · exact ⟨['+'], Or.inr rfl, rfl⟩
  · exact ⟨[], Or.inl rfl, rfl⟩

theorem unsigned_append {sign digits : List Char} (signed : sign = [] ∨ sign = ['+'])
    (numeral : ∀ c ∈ digits, c.isDigit = true) : unsigned (sign ++ digits) = digits := by
  rcases signed with rfl | rfl
  · apply unsigned_of_not_signed
    rintro rest rfl
    have plus := numeral '+' List.mem_cons_self
    cases plus
  · rfl

theorem wholeSeconds?_eq_some_iff {text : String} {seconds : Nat} :
    wholeSeconds? text = some seconds ↔
      unsigned (Text.trim text).toList ≠ [] ∧
        (∀ c ∈ unsigned (Text.trim text).toList, c.isDigit = true) ∧
        Nat.ofDigitChars 10 (unsigned (Text.trim text).toList) 0 < UInt64.size ∧
        Nat.ofDigitChars 10 (unsigned (Text.trim text).toList) 0 = seconds := by
  have reads : wholeSeconds? text =
      if (unsigned (Text.trim text).toList).isEmpty ||
          !(unsigned (Text.trim text).toList).all Char.isDigit then none
      else if Nat.ofDigitChars 10 (unsigned (Text.trim text).toList) 0 < UInt64.size then
        some (Nat.ofDigitChars 10 (unsigned (Text.trim text).toList) 0)
      else none := by
    unfold wholeSeconds?
    generalize (Text.trim text).toList = chars
    simp only [foldl_digits]
    split
    · rfl
    · next notSigned => rw [unsigned_of_not_signed notSigned]
  rw [reads, ← List.isEmpty_eq_false_iff, ← List.all_eq_true]
  split
  · next bad =>
    rw [Bool.or_eq_true, Bool.not_eq_true'] at bad
    rcases bad with none | other
    · simp [none]
    · simp [other]
  · next good =>
    rw [Bool.or_eq_true, not_or, Bool.not_eq_true', Bool.not_eq_true, Bool.not_eq_false] at good
    split
    · next fits => simp [good, fits]
    · next large => simp [large]

/-- A visible text is read as a delay exactly if it names one. -/
theorem wholeSeconds?_iff_names {text : String} {seconds : Nat} :
    (text.toList.all isVisible = true ∧ wholeSeconds? text = some seconds) ↔
      NamesSeconds text seconds := by
  constructor
  · rintro ⟨visible, read⟩
    obtain ⟨some, numeral, fits, rfl⟩ := wholeSeconds?_eq_some_iff.mp read
    obtain ⟨before, after, split, padded⟩ := exists_padding text
    obtain ⟨sign, signed, form⟩ := signed_unsigned (Text.trim text).toList
    have rebuilt : text = String.ofList
        (before ++ (sign ++ unsigned (Text.trim text).toList) ++ after) := by
      rw [← form, ← split, String.ofList_toList]
    have paddedByBlanks : ∀ c ∈ before ++ after, c = ' ' ∨ c = '\t' := by
      intro c member
      refine padding_of_isBlankChar (padded c member) (List.all_eq_true.mp visible c ?_)
      rw [split]
      rcases List.mem_append.mp member with first | last
      · exact List.mem_append_left _ (List.mem_append_left _ first)
      · exact List.mem_append_right _ last
    have names := NamesSeconds.intro paddedByBlanks signed some numeral fits
    rwa [← rebuilt] at names
  · rintro @⟨before, sign, digits, after, padded, signed, some, numeral, fits⟩
    have core : ∀ c ∈ sign ++ digits, c = '+' ∨ c.isDigit = true := by
      intro c member
      rcases List.mem_append.mp member with inSign | inDigits
      · rcases signed with rfl | rfl
        · cases inSign
        · exact Or.inl (List.mem_singleton.mp inSign)
      · exact Or.inr (numeral c inDigits)
    constructor
    · rw [String.toList_ofList, List.all_append, List.all_append, Bool.and_eq_true,
        Bool.and_eq_true, List.all_eq_true, List.all_eq_true, List.all_eq_true]
      have blanks : ∀ c ∈ before ++ after, isVisible c = true := by
        intro c member
        rcases padded c member with rfl | rfl
        · decide
        · decide
      refine ⟨⟨fun c member => blanks c (List.mem_append_left _ member), ?_⟩,
        fun c member => blanks c (List.mem_append_right _ member)⟩
      intro c member
      rcases core c member with rfl | digit
      · decide
      · exact isVisible_of_isDigit digit
    · have trimmed := trim_padded (fun c member => isBlankChar_of_padding (padded c member))
        (List.append_ne_nil_of_right_ne_nil sign some) fun c member => by
          rcases core c member with rfl | digit
          · decide
          · exact isBlankChar_of_isDigit digit
      rw [wholeSeconds?_eq_some_iff, trimmed, unsigned_append signed numeral]
      exact ⟨some, numeral, fits, rfl⟩

theorem requestedDelay?_eq_some_iff {response : Response} {delay : Nat} :
    requestedDelay? response = some delay ↔
      ∃ text seconds, response.header? "retry-after" = some text ∧ NamesSeconds text seconds ∧
        delay = seconds * 1000 := by
  unfold requestedDelay?
  cases response.header? "retry-after" with
  | none => simp
  | some text =>
    simp only [bind, Option.bind, ← wholeSeconds?_iff_names, Option.some.injEq, exists_and_left,
      exists_eq_left']
    split
    · next visible =>
      cases wholeSeconds? text with
      | none => simp [visible]
      | some seconds => simp [visible, eq_comm]
    · next hidden => simp [hidden]

/-- The delay in front of another attempt, after the given number of attempts: the one that the
server names or else that of the policy, within the bound of the policy. -/
inductive Waits (policy : RetryPolicy) (attempts : Nat) : Delivery → Nat → Prop
  | asked {response : Response} {text : String} {seconds : Nat}
      (header : response.header? "retry-after" = some text) (names : NamesSeconds text seconds) :
      policy.Waits attempts (.response response) (min (seconds * 1000) policy.maxBackoff)
  | computed {response : Response} (silent : ∀ text seconds,
      response.header? "retry-after" = some text → ¬NamesSeconds text seconds) :
      policy.Waits attempts (.response response)
        (min (policy.backoff attempts) policy.maxBackoff)
  | broken (fault : TransportFault) :
      policy.Waits attempts (.fault fault) (policy.backoff attempts)

theorem waits_of_delay {policy : RetryPolicy} {attempts delay : Nat} {delivery : Delivery}
    (given : policy.delay? attempts delivery = some delay) :
    policy.Waits attempts delivery delay := by
  unfold delay? at given
  cases delivery with
  | response response =>
    simp only at given
    split at given
    · obtain rfl := Option.some.inj given
      cases requested : requestedDelay? response with
      | none =>
        refine .computed ?_
        intro text seconds header names
        have found := requestedDelay?_eq_some_iff.mpr ⟨text, seconds, header, names, rfl⟩
        rw [requested] at found
        cases found
      | some delay =>
        obtain ⟨text, seconds, header, names, rfl⟩ := requestedDelay?_eq_some_iff.mp requested
        exact .asked header names
    · cases given
  | fault fault =>
    simp only at given
    split at given
    · obtain rfl := Option.some.inj given
      exact .broken fault
    · cases given

end RetryPolicy

/-- The same request may fare better the next time. -/
inductive Delivery.Transient : Delivery → Prop
  | status {response : Response} (status : response.status ∈ [429, 500, 502, 503, 504]) :
      Transient (.response response)
  | fault {fault : TransportFault}
      (kind : fault ∈ [TransportFault.connect, TransportFault.timeout, TransportFault.request]) :
      Transient (.fault fault)

theorem Delivery.transient_response_iff {response : Response} :
    (Delivery.response response).Transient ↔ response.status ∈ [429, 500, 502, 503, 504] := by
  refine ⟨?_, .status⟩
  rintro (status | _)
  exact status

theorem Delivery.transient_fault_iff {fault : TransportFault} :
    (Delivery.fault fault).Transient ↔ fault.isTransient = true := by
  constructor
  · rintro (_ | kind)
    cases fault <;> simp_all [TransportFault.isTransient]
  · intro transient
    refine .fault ?_
    cases fault <;> simp_all [TransportFault.isTransient]

namespace RetryPolicy

theorem delay?_eq_none_iff {policy : RetryPolicy}
    (standard : policy.retryStatuses = [429, 500, 502, 503, 504]) {attempts : Nat}
    {delivery : Delivery} : policy.delay? attempts delivery = none ↔ ¬delivery.Transient := by
  cases delivery with
  | response response =>
    rw [Delivery.transient_response_iff, ← List.contains_iff_mem, ← standard]
    simp [delay?, shouldRetry]
  | fault fault =>
    rw [Delivery.transient_fault_iff]
    simp [delay?]

theorem transient_of_delay {policy : RetryPolicy}
    (standard : policy.retryStatuses = [429, 500, 502, 503, 504]) {attempts delay : Nat}
    {delivery : Delivery} (given : policy.delay? attempts delivery = some delay) :
    delivery.Transient := by
  apply Classical.byContradiction
  intro final
  rw [(delay?_eq_none_iff standard).mpr final] at given
  cases given

end RetryPolicy

/-- Attempts of one request, the first of them made at a time and with a number, and what makes
them go on. -/
structure Retried (policy : RetryPolicy) (request : Request) (number start : Nat)
    (exchanges : List Exchange) : Prop where
  same : ∀ exchange ∈ exchanges, exchange.sent.request = request
  begins : exchanges.head?.map (fun exchange => exchange.sent.time) = some start
  goesOn : ∀ k exchange, exchanges[k]? = some exchange →
    (k + 1 < exchanges.length ↔
      number + k ≤ policy.maxRetries ∧ exchange.answer.delivered.Transient)
  waits : ∀ k exchange next, exchanges[k]? = some exchange → exchanges[k + 1]? = some next →
    ∃ wait, policy.Waits (number + k) exchange.answer.delivered wait ∧
      next.sent.time = exchange.arrival + min wait longestTimer

namespace Retried

variable {policy : RetryPolicy} {request : Request} {number start : Nat} {answer : Answer}
  {exchanges : List Exchange}

theorem one (final : ¬(number ≤ policy.maxRetries ∧ answer.delivered.Transient)) :
    Retried policy request number start [⟨⟨request, start⟩, answer⟩] where
  same := by simp
  begins := rfl
  goesOn := by
    intro k exchange found
    cases k with
    | zero =>
      obtain rfl := Option.some.inj found
      simpa using final
    | succ k => cases found
  waits := by
    intro k exchange next _ found
    cases found

theorem cons (left : number ≤ policy.maxRetries) (transient : answer.delivered.Transient)
    {wait : Nat} (waits : policy.Waits number answer.delivered wait)
    (later : Retried policy request (number + 1)
      ((Exchange.mk ⟨request, start⟩ answer).arrival + min wait longestTimer) exchanges) :
    Retried policy request number start (⟨⟨request, start⟩, answer⟩ :: exchanges) where
  same := List.forall_mem_cons.mpr ⟨rfl, later.same⟩
  begins := rfl
  goesOn := by
    intro k exchange found
    cases k with
    | zero =>
      obtain rfl := Option.some.inj found
      have some : 0 < exchanges.length := by
        rw [List.length_pos_iff]
        rintro rfl
        cases later.begins
      simpa [left, transient] using some
    | succ k =>
      have further := later.goesOn k exchange found
      rw [List.length_cons, Nat.add_lt_add_iff_right, further, Nat.add_assoc, Nat.add_comm 1 k]
  waits := by
    intro k exchange next found foundNext
    cases k with
    | zero =>
      obtain rfl := Option.some.inj found
      have time := later.begins
      have first : exchanges.head? = some next := by
        rw [List.head?_eq_getElem?]
        exact foundNext
      rw [first] at time
      exact ⟨wait, waits, Option.some.inj time⟩
    | succ k =>
      obtain ⟨wait, waits, time⟩ := later.waits k exchange next found foundNext
      rw [Nat.add_assoc, Nat.add_comm 1 k] at waits
      exact ⟨wait, waits, time⟩

theorem length_le (retried : Retried policy request 1 start exchanges) :
    exchanges.length ≤ policy.maxRetries + 1 := by
  apply Nat.le_of_not_lt
  intro many
  have inside : policy.maxRetries < exchanges.length := by omega
  have goes := (retried.goesOn _ _ (List.getElem?_eq_getElem inside)).mp many
  omega

end Retried

/-- What a final delivery means. -/
inductive Means : Delivery → Except Error (Option Json) → Prop
  | empty {response : Response} {text : String} (body : response.body = some text)
      (success : 200 ≤ response.status ∧ response.status < 300)
      (blank : ∀ c ∈ text.toList, Text.isBlankChar c = true) :
      Means (.response response) (.ok none)
  | value {response : Response} {text : String} {value : Json} (body : response.body = some text)
      (success : 200 ≤ response.status ∧ response.status < 300)
      (visible : ∃ c ∈ text.toList, Text.isBlankChar c = false)
      (read : Json.read text = .ok value) : Means (.response response) (.ok (some value))
  | malformed {response : Response} {text : String} {fault : Json.Fault}
      (body : response.body = some text)
      (success : 200 ≤ response.status ∧ response.status < 300)
      (visible : ∃ c ∈ text.toList, Text.isBlankChar c = false)
      (read : Json.read text = .error fault) :
      Means (.response response) (refuse (.serialization (fault.message text)))
  | missing {response : Response} {text : String} (body : response.body = some text)
      (status : response.status = 404) :
      Means (.response response) (refuse (.notFound (errorText text)))
  | rejected {response : Response} {text : String} (body : response.body = some text)
      (failure : response.status < 200 ∨ 300 ≤ response.status) (other : response.status ≠ 404) :
      Means (.response response) (refuse (.api response.status (errorText text)))
  | unread {response : Response} (body : response.body = none) :
      Means (.response response) (refuse (.transport .decode))
  | broken (fault : TransportFault) : Means (.fault fault) (refuse (.transport fault))

theorem means_interpret {response : Response} {text : String} (body : response.body = some text) :
    Means (.response response) (interpret response.status text) := by
  unfold interpret
  split
  · next success =>
    rw [isSuccess, Bool.and_eq_true, decide_eq_true_eq, decide_eq_true_eq] at success
    cases blank : Text.isBlank text with
    | true => exact .empty body success (List.all_eq_true.mp blank)
    | false =>
      have visible : ∃ c ∈ text.toList, Text.isBlankChar c = false := by
        simpa [Text.isBlank, List.all_eq_false] using blank
      cases read : Json.read text with
      | ok value => exact .value body success visible read
      | error fault => exact .malformed body success visible read
  · next failure =>
    rw [isSuccess, Bool.and_eq_true, decide_eq_true_eq, decide_eq_true_eq] at failure
    split
    · next missing => exact .missing body missing
    · next other => exact .rejected body (by omega) other

theorem means_conclude (delivery : Delivery) : Means delivery (conclude delivery) := by
  unfold conclude
  cases delivery with
  | fault fault => exact .broken fault
  | response response =>
    cases body : response.body with
    | none => simpa only [body] using Means.unread body
    | some text => simpa only [body] using means_interpret body

theorem Means.unique {delivery : Delivery} {result other : Except Error (Option Json)}
    (means : Means delivery result) (meansOther : Means delivery other) : result = other := by
  cases means <;> cases meansOther <;> grind

section Run

variable {w : World Wire} {policy : RetryPolicy}

/-- If the host does not ask to stop, an attempt ends when the head of its answer is there. -/
theorem attempt_of_unstopped (never : w.stopAt = none) (request : Request) :
    attempt request w = (.ok (nextExchange request w).answer.delivered,
      afterSending request w (nextExchange request w).arrival) :=
  attempt_of_arrival (World.isStopped_of_none never) request (by simp [never])

theorem RetryPolicy.pauseAfter?_eq_none_iff
    (standard : policy.retryStatuses = [429, 500, 502, 503, 504]) {number : Nat}
    {delivery : Delivery} : policy.pauseAfter? number delivery = none ↔
      ¬(number ≤ policy.maxRetries ∧ delivery.Transient) := by
  unfold pauseAfter?
  by_cases affordable : number ≤ policy.maxRetries
  · rw [if_pos affordable, delay?_eq_none_iff standard]
    simp [affordable]
  · simp [affordable]

theorem exchange_retried_of_final (standard : policy.retryStatuses = [429, 500, 502, 503, 504])
    (never : w.stopAt = none) {request : Request} {left number : Nat}
    (due : policy.pauseAfter? number (nextExchange request w).answer.delivered = none) :
    ∃ earlier last,
      Transcript w.peer (earlier ++ [last])
          (exchange policy request number (left + 1) w).2.peer ∧
        Retried policy request number w.now (earlier ++ [last]) ∧
        (exchange policy request number (left + 1) w).1 = conclude last.answer.delivered := by
  rw [exchange_of_final (attempt_of_unstopped never request) due]
  exact ⟨[], nextExchange request w, transcript_afterSending request w _,
    .one ((RetryPolicy.pauseAfter?_eq_none_iff standard).mp due), rfl⟩

theorem exchange_retried (standard : policy.retryStatuses = [429, 500, 502, 503, 504])
    (counted : policy.maxRetries + 1 < UInt32.size) (never : w.stopAt = none) (request : Request)
    {left number : Nat} (budget : number + left = policy.maxRetries + 1) :
    ∃ earlier last,
      Transcript w.peer (earlier ++ [last])
          (exchange policy request number (left + 1) w).2.peer ∧
        Retried policy request number w.now (earlier ++ [last]) ∧
        (exchange policy request number (left + 1) w).1 = conclude last.answer.delivered := by
  induction left generalizing number w with
  | zero =>
    apply exchange_retried_of_final standard never
    rw [RetryPolicy.pauseAfter?_eq_none_iff standard]
    omega
  | succ left ih =>
    cases due : policy.pauseAfter? number (nextExchange request w).answer.delivered with
    | none => exact exchange_retried_of_final standard never due
    | some delay =>
      let arrived := afterSending request w (nextExchange request w).arrival
      have unstopped : arrived.stopAt = none := never
      obtain ⟨within, delayed⟩ := RetryPolicy.pauseAfter?_eq_some_iff.mp due
      have transient := RetryPolicy.transient_of_delay standard delayed
      have next : RetryPolicy.nextAttempt number = number + 1 := Nat.mod_eq_of_lt (by omega)
      have rest : number + 1 + left = policy.maxRetries + 1 := by omega
      obtain ⟨earlier, last, transcript, retried, result⟩ :=
        ih (w := { arrived with now := arrived.timerEnd delay }) unstopped rest
      rw [exchange_of_retry (attempt_of_unstopped never request) due, next,
        Operation.bind_of_ok (Op.pause_of_unstopped unstopped)]
      exact ⟨nextExchange request w :: earlier, last,
        (transcript_afterSending request w _).append transcript,
        .cons within transient (RetryPolicy.waits_of_delay delayed) retried, result⟩

theorem nextAnswer_of_script {wire : Wire} {next : Answer} {rest : List Answer}
    (script : wire.script = next :: rest) (more : rest ≠ []) : wire.nextAnswer = (next, rest) := by
  unfold Wire.nextAnswer
  rw [script]
  cases rest with
  | nil => exact absurd rfl more
  | cons second later => rfl

/-- The answer of a server that asks to be left alone for no time at all. -/
def busyAnswer : Answer where
  delivery := .response { status := 503, headers := [("retry-after", "0")], body := some "" }

def calmAnswer : Answer where
  delivery := .response { status := 204, body := some "" }

/-- With a budget that the counter cannot exceed, the attempts go on as long as the server is busy.
By induction on the busy answers. -/
theorem sent_of_busy (standard : policy.retryStatuses = [429, 500, 502, 503, 504])
    (endless : UInt32.size ≤ policy.maxRetries + 1) (never : w.stopAt = none) (request : Request)
    {count : Nat} (left number : Nat) (numbered : number < UInt32.size)
    (script : w.peer.script = List.replicate count busyAnswer ++ [calmAnswer]) :
    (exchange policy request number (count + left + 1) w).2.peer.sent.length =
      w.peer.sent.length + (count + 1) := by
  induction count generalizing number w with
  | zero =>
    have answered : (nextExchange request w).answer = calmAnswer := by
      simp [nextExchange, Wire.nextAnswer, script]
    have final : policy.pauseAfter? number (nextExchange request w).answer.delivered = none := by
      rw [answered, RetryPolicy.pauseAfter?_eq_none_iff standard]
      rintro ⟨_, transient⟩
      exact absurd (Delivery.transient_response_iff.mp transient) (by decide)
    rw [exchange_of_final (attempt_of_unstopped never request) final]
    exact List.length_append
  | succ count ih =>
    have next := nextAnswer_of_script script (by simp)
    have answered : (nextExchange request w).answer = busyAnswer := congrArg Prod.fst next
    obtain ⟨delay, due⟩ : ∃ delay,
        policy.pauseAfter? number (nextExchange request w).answer.delivered = some delay := by
      rw [← Option.ne_none_iff_exists', Ne, answered, RetryPolicy.pauseAfter?_eq_none_iff standard]
      have transient : busyAnswer.delivered.Transient :=
        Delivery.transient_response_iff.mpr (by decide)
      exact not_not_intro ⟨by omega, transient⟩
    let arrived := afterSending request w (nextExchange request w).arrival
    have unstopped : arrived.stopAt = none := never
    have rest := ih (w := { arrived with now := arrived.timerEnd delay }) unstopped
      (RetryPolicy.nextAttempt number) (Nat.mod_lt _ (by decide)) (congrArg Prod.snd next)
    have logged : (w.peer.send request w.now).2.sent.length = w.peer.sent.length + 1 :=
      List.length_append
    rw [show count + 1 + left + 1 = count + left + 1 + 1 by omega,
      exchange_of_retry (attempt_of_unstopped never request) due,
      Operation.bind_of_ok (Op.pause_of_unstopped unstopped), rest]
    show (w.peer.send request w.now).2.sent.length + (count + 1) = _
    omega

end Run

end Http

namespace Session

open Http

/-- A request is repeated as long as retries are left and the last answer may be another one the
next time, after the delay that the answer asks for or that the policy sets. The result is what the
last answer means and nothing else. -/
theorem send_retried (session : Session) (method : Method) (path : String) (body : Option Json)
    {w : World Wire} (never : w.stopAt = none)
    (standard : session.context.client.retry.retryStatuses = [429, 500, 502, 503, 504])
    (counted : session.context.client.retry.maxRetries + 1 < UInt32.size) :
    ∃ earlier last,
      Transcript w.peer (earlier ++ [last]) (session.send method path body w).2.peer ∧
        (earlier ++ [last]).length ≤ session.context.client.retry.maxRetries + 1 ∧
        Retried session.context.client.retry
          ⟨method, session.context.client.url path, session.credentials, body⟩ 1 w.now
          (earlier ++ [last]) ∧
        ∀ result, Means last.answer.delivered result ↔
          (session.send method path body w).1 = result := by
  have budget := Nat.add_comm 1 session.context.client.retry.maxRetries
  have limit : session.context.client.retry.attemptLimit w.peer =
      session.context.client.retry.maxRetries + 1 := if_pos counted
  obtain ⟨earlier, last, transcript, retried, concluded⟩ :=
    exchange_retried standard counted never (session.request method path body) budget
  rw [← limit] at transcript concluded
  refine ⟨earlier, last, transcript, retried.length_le, retried, ?_⟩
  intro result
  rw [send, Http.send, concluded]
  constructor
  · exact (means_conclude _).unique
  · rintro rfl
    exact means_conclude _

/-- The answer of a busy server that names a delay. -/
def busyResponse (delay : String) : Response where
  status := 503
  headers := [("retry-after", delay)]
  body := some ""

/-- A server that is busy at first. -/
def busyWorld (delay : String) : World Wire where
  peer.script := [⟨0, .response (busyResponse delay)⟩,
    ⟨0, .response { status := 204, body := some "" }⟩]

/-- A server that misses an object and breaks off its answer. -/
def unreadWorld : World Wire where
  peer.script := [⟨0, .response { status := 404, body := none }⟩]

/-- A session that retries once. -/
def retryingOnce (maxBackoff : Nat) : Session where
  context.client := ⟨Context.defaultEndpoint, { maxRetries := 1, maxBackoff }, Client.baseUserAgent⟩
  context.cloudCredentials := none
  context.kafka := ⟨none, none, none⟩
  credentials := none

theorem send_retried_busy :
    (busyWorld "3").stopAt = none ∧
      (retryingOnce 30000).context.client.retry.retryStatuses = [429, 500, 502, 503, 504] ∧
      (retryingOnce 30000).context.client.retry.maxRetries + 1 < UInt32.size ∧
      ∃ earlier last,
        Transcript (busyWorld "3").peer (earlier ++ [last])
            ((retryingOnce 30000).send .get "/" none (busyWorld "3")).2.peer ∧
          (earlier ++ [last]).length ≤ 1 + 1 ∧
          Retried (retryingOnce 30000).context.client.retry
            ⟨.get, (retryingOnce 30000).context.client.url "/", none, none⟩ 1 0
            (earlier ++ [last]) ∧
          ∀ result, Means last.answer.delivered result ↔
            ((retryingOnce 30000).send .get "/" none (busyWorld "3")).1 = result :=
  ⟨rfl, rfl, by decide, send_retried (retryingOnce 30000) .get "/" none rfl rfl (by decide)⟩

theorem requestedDelay?_busyResponse {delay : String} (valid : isHeaderValue delay = true)
    (visible : delay.toList.all RetryPolicy.isVisible = true) :
    RetryPolicy.requestedDelay? (busyResponse delay) =
      (RetryPolicy.wholeSeconds? delay).map (· * 1000) := by
  have header : (busyResponse delay).header? "retry-after" = some delay := by
    simp [Response.header?, busyResponse, valid]
  rw [RetryPolicy.requestedDelay?, header]
  simp only [Option.bind_eq_bind, Option.bind_some, visible, if_true]
  cases RetryPolicy.wholeSeconds? delay <;> rfl

theorem times_of_busy {maxBackoff : Nat} {delay : String} {asked : Option Nat}
    (requested : RetryPolicy.requestedDelay? (busyResponse delay) = asked) :
    ((retryingOnce maxBackoff).send .get "/" none (busyWorld delay)).2.peer.sent.map Sent.time =
      [0, min (min (asked.getD ((retryingOnce maxBackoff).context.client.retry.backoff 1))
        maxBackoff) longestTimer] := by
  let request := (retryingOnce maxBackoff).request .get "/" none
  have first : attempt request (busyWorld delay) = (.ok (.response (busyResponse delay)),
      { busyWorld delay with peer := ((busyWorld delay).peer.send request 0).2 }) := rfl
  have due : (retryingOnce maxBackoff).context.client.retry.pauseAfter? 1
      (.response (busyResponse delay)) =
        some (min (asked.getD ((retryingOnce maxBackoff).context.client.retry.backoff 1))
          maxBackoff) := by
    rw [← requested]
    rfl
  show (exchange _ request 1 (1 + 1) _).2.peer.sent.map Sent.time = _
  rw [exchange_of_retry first due]
  show [0, 0 + min _ longestTimer] = _
  rw [Nat.zero_add]

/-- A session that retries as often as can be asked for. -/
def retryingMost : Session :=
  { retryingOnce 30000 with context.client.retry.maxRetries := UInt32.size - 1 }

/-- A server that is busy for some requests. -/
def crowdedWorld (count : Nat) : World Wire where
  peer.script := List.replicate count busyAnswer ++ [calmAnswer]

theorem sent_of_crowded (count : Nat) :
    (retryingMost.send .get "/" none (crowdedWorld count)).2.peer.sent.length = count + 1 := by
  have limit : retryingMost.context.client.retry.attemptLimit (crowdedWorld count).peer =
      count + UInt32.size * UInt64.size + 1 := by
    have pending : Peer.pending (crowdedWorld count).peer = count + 1 := by
      show (List.replicate count busyAnswer ++ [calmAnswer]).length = count + 1
      simp
    have endless : ¬retryingMost.context.client.retry.maxRetries + 1 < UInt32.size := by decide
    rw [RetryPolicy.attemptLimit, if_neg endless, pending]
    omega
  rw [send, Http.send, limit]
  refine (sent_of_busy rfl (by decide) rfl _ _ 1 (by decide) rfl).trans ?_
  exact Nat.zero_add _

/-- A number of seconds that takes more than 64 bits names no delay, no delay lasts longer than the
longest timer, a status does not count if the body cannot be read, and with the largest budget there
is no bound for the attempts. -/
theorem send_not_as_answered :
    (Nat.ofDigitChars 10 "18446744073709551616".toList 0 = UInt64.size ∧
      ((retryingOnce 30000).send .get "/" none
        (busyWorld "18446744073709551616")).2.peer.sent.map Sent.time = [0, 200] ∧
      200 < min (UInt64.size * 1000) 30000) ∧
    (((retryingOnce (2 * longestTimer)).send .get "/" none
        (busyWorld "1000000000000")).2.peer.sent.map Sent.time = [0, longestTimer] ∧
      longestTimer < min (1000000000000 * 1000) (2 * longestTimer)) ∧
    ((retryingOnce 30000).send .get "/" none unreadWorld).1 = refuse (.transport .decode) ∧
    (retryingMost.send .get "/" none (crowdedWorld (UInt32.size + 1))).2.peer.sent.length =
        UInt32.size + 2 ∧
      retryingMost.context.client.retry.maxRetries + 1 < UInt32.size + 2 := by
  refine ⟨⟨by decide, ?_, by decide⟩, ⟨?_, by decide⟩, rfl, sent_of_crowded _, by decide⟩
  · have unread : RetryPolicy.requestedDelay? (busyResponse "18446744073709551616") = none :=
      requestedDelay?_busyResponse (by decide) (by decide)
    rw [times_of_busy unread]
    decide
  · have read : RetryPolicy.requestedDelay? (busyResponse "1000000000000") =
        some (1000000000000 * 1000) :=
      requestedDelay?_busyResponse (by decide) (by decide)
    rw [times_of_busy read]
    decide

end Session

end Provisioner
