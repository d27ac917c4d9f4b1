import Sluice.Proofs.Scan.Offset

/-!
# Elements of a text

A text is a sequence of elements: runs that hide what stands in them, and single characters. Marks
that are doubled inside a quoted run belong to the run. The scanner does not know pairs, it closes a
run and opens another one, and still it ends a statement behind the first semicolon that is an
element of its own.
-/

namespace Sluice.Scan

open Text

/-! ## Runs -/

/-- The marks that open and close quoted runs. -/
inductive IsQuote : Char → Prop where
  | single : IsQuote '\''
  | double : IsQuote '"'
  | backtick : IsQuote '\x60'

/-- Every `mark` in a text is one of a pair, as pairs are read from the left. -/
inductive Paired (mark : Char) : List Char → Prop where
  | nil : Paired mark []
  | other {c s} : c ≠ mark → Paired mark s → Paired mark (c :: s)
  | pair {s} : Paired mark s → Paired mark (mark :: mark :: s)

/-- How the runs open that go on up to the first closing mark, and how they close. -/
inductive Opens : (opening closing : List Char) → Prop where
  | bracket : Opens ['['] [']']
  | line : Opens ['-', '-'] ['\n']
  | block : Opens ['/', '*'] ['*', '/']
  | dollar {tag} : (∀ c ∈ tag, isWordChar c = true) →
      Opens ('$' :: (tag ++ ['$'])) ('$' :: (tag ++ ['$']))

/-- A mark stands at the end of a text and nowhere before. -/
structure ClosesWith (mark body : List Char) : Prop where
  ends : mark <:+ body
  first : ∀ before after, body = before ++ (mark ++ after) → after = []

/-- The element at the front of a text, and what follows it. A run that is not closed goes on to the
end; a character is an element of its own where it opens no run. -/
inductive Element : (element rest : List Char) → Prop where
  | quoted {mark body rest} : IsQuote mark → Paired mark body → rest.head? ≠ some mark →
      Element (mark :: (body ++ [mark])) rest
  | openQuoted {mark body} : IsQuote mark → Paired mark body → Element (mark :: body) []
  | run {opening closing body rest} : Opens opening closing → ClosesWith closing body →
      Element (opening ++ body) rest
  | openRun {opening closing body} : Opens opening closing → ¬ closing <:+: body →
      Element (opening ++ body) []
  | char {c rest} : ¬ IsQuote c →
      (∀ opening closing, Opens opening closing → ¬ opening <+: c :: rest) → Element [c] rest

theorem Opens.closing_ne_nil {opening closing : List Char} (h : Opens opening closing) :
    closing ≠ [] := by
  cases h <;> exact List.cons_ne_nil _ _

/-! ## Up to the first closing mark -/

theorem dropPrefix?_eq_some {mark s after : List Char} :
    dropPrefix? mark s = some after ↔ s = mark ++ after := by
  fun_induction dropPrefix? mark s with
  | case1 s => simp
  | case2 => simp
  | case3 mark c s ih => simp [ih]
  | case4 p mark c s hne =>
      simp only [List.cons_append, reduceCtorEq, List.cons.injEq, false_iff, not_and]
      exact fun heq => absurd heq.symm hne

theorem dropPrefix?_eq_none {mark s : List Char} : dropPrefix? mark s = none ↔ ¬ mark <+: s := by
  rw [Option.eq_none_iff_forall_ne_some]
  constructor
  · rintro h ⟨after, rfl⟩
    exact h after (dropPrefix?_eq_some.mpr rfl)
  · intro h after hsome
    exact h ⟨after, (dropPrefix?_eq_some.mp hsome).symm⟩

theorem skipPast_self {mark after : List Char} (hne : mark ≠ []) :
    skipPast mark (mark ++ after) = after := by
  obtain ⟨c, mark, rfl⟩ := List.exists_cons_of_ne_nil hne
  rw [List.cons_append, skipPast, ← List.cons_append, dropPrefix?_eq_some.mpr rfl]

theorem skipPast_cons {mark s : List Char} {c : Char} (h : ¬ mark <+: c :: s) :
    skipPast mark (c :: s) = skipPast mark s := by
  rw [skipPast, dropPrefix?_eq_none.mpr h]

theorem closesWith_self {mark : List Char} : ClosesWith mark mark := by
  refine ⟨List.suffix_refl mark, fun before after h => ?_⟩
  have hlength := congrArg List.length h
  simp only [List.length_append] at hlength
  exact List.length_eq_zero_iff.mp (by omega)

theorem ClosesWith.cons {mark body : List Char} {c : Char} (h : ClosesWith mark body)
    (hno : ¬ mark <+: c :: body) : ClosesWith mark (c :: body) := by
  refine ⟨h.ends.trans (List.suffix_cons c body), fun before after heq => ?_⟩
  cases before with
  | nil => exact absurd ⟨after, heq.symm⟩ hno
  | cons b before => exact h.first before after (List.cons.inj heq).2

theorem ClosesWith.of_cons {mark body : List Char} {c : Char} (h : ClosesWith mark (c :: body))
    (hne : mark ≠ c :: body) : ClosesWith mark body :=
  ⟨(List.suffix_cons_iff.mp h.ends).resolve_left hne, fun before after heq =>
    h.first (c :: before) after (congrArg (List.cons c) heq)⟩

/-- Either a mark closes a text somewhere or it does not stand in it. -/
theorem skipPast_split {mark : List Char} (hne : mark ≠ []) (s : List Char) :
    (∃ body, s = body ++ skipPast mark s ∧ ClosesWith mark body) ∨
      skipPast mark s = [] ∧ ¬ mark <:+: s := by
  induction s with
  | nil => exact .inr ⟨rfl, fun h => hne (List.infix_nil.mp h)⟩
  | cons c s ih =>
      by_cases hmark : mark <+: c :: s
      · obtain ⟨after, hafter⟩ := hmark
        rw [← hafter, skipPast_self hne]
        exact .inl ⟨mark, rfl, closesWith_self⟩
      · rw [skipPast_cons hmark]
        rcases ih with ⟨body, hbody, hcloses⟩ | ⟨hnil, hno⟩
        · refine .inl ⟨c :: body, congrArg (List.cons c) hbody, hcloses.cons fun h => ?_⟩
          have hstarts : c :: body <+: c :: s := ⟨skipPast mark s, congrArg (List.cons c) hbody.symm⟩
          exact hmark (h.trans hstarts)
        · refine .inr ⟨hnil, fun h => ?_⟩
          rcases List.infix_cons_iff.mp h with hstarts | hinfix
          · exact hmark hstarts
          · exact hno hinfix

theorem skipPast_closed {mark body : List Char} (h : ClosesWith mark body) (hne : mark ≠ [])
    (rest : List Char) : skipPast mark (body ++ rest) = rest := by
  induction body with
  | nil => exact absurd (List.suffix_nil.mp h.ends) hne
  | cons c body ih =>
      by_cases hmark : mark <+: c :: body
      · obtain ⟨after, hafter⟩ := hmark
        obtain rfl := h.first [] after hafter.symm
        rw [List.append_nil] at hafter
        rw [← hafter, skipPast_self hne]
      · have hrest : ¬ mark <+: c :: (body ++ rest) := fun hlong =>
          hmark (List.prefix_of_prefix_length_le hlong (List.prefix_append (c :: body) rest)
            h.ends.length_le)
        rw [List.cons_append, skipPast_cons hrest]
        exact ih (h.of_cons fun heq => hmark (heq ▸ List.prefix_refl _))

theorem skipPast_open {mark s : List Char} (h : ¬ mark <:+: s) : skipPast mark s = [] := by
  induction s with
  | nil => rfl
  | cons c s ih =>
      rw [skipPast_cons fun hstarts => h hstarts.isInfix]
      exact ih fun hinfix => h (List.infix_cons hinfix)

theorem skipLine_eq_skipPast (s : List Char) : skipLine s = skipPast ['\n'] s := by
  induction s with
  | nil => rfl
  | cons c s ih =>
      rw [skipLine, skipPast, dropPrefix?]
      by_cases hc : c = '\n'
      · rw [if_pos hc, if_pos hc.symm]
        rfl
      · rw [if_neg hc, if_neg fun heq => hc heq.symm]
        exact ih

theorem skipQuoted_eq_skipPast (close : Char) (s : List Char) :
    skipQuoted close s = skipPast [close] s := by
  induction s with
  | nil => rfl
  | cons c s ih =>
      rw [skipQuoted, skipPast, dropPrefix?]
      by_cases hc : c = close
      · rw [if_pos hc, if_pos hc.symm]
        rfl
      · rw [if_neg hc, if_neg fun heq => hc heq.symm]
        exact ih

theorem skipBlock_eq_skipPast (s : List Char) : skipBlock s = skipPast ['*', '/'] s := by
  fun_induction skipBlock s with
  | case1 => rfl
  | case2 after => exact (skipPast_self (List.cons_ne_nil _ _)).symm
  | case3 c s hclose ih =>
      rw [skipPast_cons, ih]
      rintro ⟨after, heq⟩
      obtain ⟨rfl, rfl⟩ := List.cons.inj heq
      exact hclose after rfl rfl

/-! ## Elements as the scanner finds them -/

/-- What follows a quoted run, given the text behind its first mark. -/
def skipPaired (mark : Char) : List Char → List Char
  | [] => []
  | [_] => []
  | c :: d :: rest =>
    if c = mark then if d = mark then skipPaired mark rest else d :: rest
    else skipPaired mark (d :: rest)

instance : DecidablePred IsQuote := fun c =>
  decidable_of_iff (c = '\'' ∨ c = '"' ∨ c = '\x60') <| by
    constructor
    · rintro (rfl | rfl | rfl) <;> constructor
    · rintro (_ | _ | _) <;> simp

/-- What follows the element that starts with `c`. -/
def skipElement (c : Char) (rest : List Char) : List Char :=
  if IsQuote c then skipPaired c rest else skipRun c rest

section

variable {mark c : Char} {s : List Char}

theorem skipPaired_other (h : c ≠ mark) (s : List Char) :
    skipPaired mark (c :: s) = skipPaired mark s := by
  cases s with
  | nil => rfl
  | cons d s => rw [skipPaired, if_neg h]

theorem skipPaired_pair (mark : Char) (s : List Char) :
    skipPaired mark (mark :: mark :: s) = skipPaired mark s := by
  rw [skipPaired, if_pos rfl, if_pos rfl]

theorem skipPaired_close (h : s.head? ≠ some mark) : skipPaired mark (mark :: s) = s := by
  cases s with
  | nil => rfl
  | cons d s =>
      rw [skipPaired, if_pos rfl, if_neg]
      rintro rfl
      exact h rfl

theorem Paired.skipPaired_close (h : Paired mark s) {rest : List Char}
    (hrest : rest.head? ≠ some mark) : skipPaired mark (s ++ mark :: rest) = rest := by
  induction h with
  | nil => exact Scan.skipPaired_close hrest
  | other hc _ ih => exact (skipPaired_other hc _).trans ih
  | pair _ ih => exact (skipPaired_pair mark _).trans ih

theorem Paired.skipPaired_open (h : Paired mark s) : skipPaired mark s = [] := by
  induction h with
  | nil => rfl
  | other hc _ ih => exact (skipPaired_other hc _).trans ih
  | pair _ ih => exact (skipPaired_pair mark _).trans ih

/-- Either the first mark that is not one of a pair closes the run, or all marks are paired. -/
theorem skipPaired_split (mark : Char) (s : List Char) :
    (∃ body, s = body ++ mark :: skipPaired mark s ∧ Paired mark body ∧
        (skipPaired mark s).head? ≠ some mark) ∨
      skipPaired mark s = [] ∧ Paired mark s := by
  fun_induction skipPaired mark s with
  | case1 => exact .inr ⟨rfl, .nil⟩
  | case2 c =>
      by_cases hc : c = mark
      · rw [hc]
        exact .inl ⟨[], rfl, .nil, by simp⟩
      · exact .inr ⟨rfl, .other hc .nil⟩
  | case3 rest ih =>
      rcases ih with ⟨body, hbody, hpaired, hhead⟩ | ⟨hnil, hpaired⟩
      · refine .inl ⟨mark :: mark :: body, ?_, .pair hpaired, hhead⟩
        exact congrArg (fun t => mark :: mark :: t) hbody
      · exact .inr ⟨hnil, .pair hpaired⟩
  | case4 d rest hd =>
      exact .inl ⟨[], rfl, .nil, fun h => hd (Option.some.inj h)⟩
  | case5 c d rest hc ih =>
      rcases ih with ⟨body, hbody, hpaired, hhead⟩ | ⟨hnil, hpaired⟩
      · exact .inl ⟨c :: body, congrArg (List.cons c) hbody, .other hc hpaired, hhead⟩
      · exact .inr ⟨hnil, .other hc hpaired⟩

end

/-- The scanner looks for the closing mark of every run but the quoted ones. -/
theorem Opens.skipRun_eq {opening closing : List Char} (h : Opens opening closing)
    (s : List Char) :
    ∃ c rest, opening ++ s = c :: rest ∧ ¬ IsQuote c ∧ skipRun c rest = skipPast closing s := by
  cases h with
  | bracket => exact ⟨'[', s, rfl, by decide, skipQuoted_eq_skipPast ']' s⟩
  | line => exact ⟨'-', '-' :: s, rfl, by decide, skipLine_eq_skipPast s⟩
  | block => exact ⟨'/', '*' :: s, rfl, by decide, skipBlock_eq_skipPast s⟩
  | @dollar tag htag =>
      refine ⟨'$', tag ++ '$' :: s, ?_, by decide, ?_⟩
      · rw [List.cons_append, List.append_assoc]
        rfl
      · have htake : (tag ++ '$' :: s).takeWhile isWordChar = tag := by
          rw [List.takeWhile_append_of_pos htag, List.takeWhile_cons_of_neg (by decide),
            List.append_nil]
        change skipDollar (tag ++ '$' :: s) = _
        simp only [skipDollar, htake, List.drop_left, List.cons_append]

theorem skipDollar_of_no_tag {s : List Char}
    (h : ∀ opening closing, Opens opening closing → ¬ opening <+: '$' :: s) : skipDollar s = s := by
  simp only [skipDollar, drop_length_takeWhile]
  split
  · rename_i body hbody
    have htag : ∀ c ∈ s.takeWhile isWordChar, isWordChar c = true :=
      fun _ => List.mem_takeWhile_imp
    refine absurd ⟨body, ?_⟩ (h _ _ (.dollar htag))
    rw [List.cons_append, List.append_assoc, List.singleton_append, ← hbody,
      List.takeWhile_append_dropWhile]
  · rfl

/-- A character that opens nothing is passed over alone. -/
theorem skipRun_of_not_opens {c : Char} {s : List Char} (hc : ¬ IsQuote c)
    (h : ∀ opening closing, Opens opening closing → ¬ opening <+: c :: s) : skipRun c s = s := by
  unfold skipRun
  split
  · exact absurd .single hc
  · exact absurd .double hc
  · exact absurd .backtick hc
  · exact absurd ⟨s, rfl⟩ (h _ _ .bracket)
  · rename_i after
    exact absurd ⟨after, rfl⟩ (h _ _ .line)
  · rename_i after
    exact absurd ⟨after, rfl⟩ (h _ _ .block)
  · exact skipDollar_of_no_tag h
  · rfl

/-- An element ends where the scanner goes on. -/
theorem Element.skipElement_eq {element rest : List Char} (h : Element element rest) :
    ∃ c s, element ++ rest = c :: s ∧ skipElement c s = rest := by
  cases h with
  | @quoted mark body _ hmark hbody hrest =>
      refine ⟨mark, body ++ mark :: rest, by simp, ?_⟩
      rw [skipElement, if_pos hmark]
      exact hbody.skipPaired_close hrest
  | @openQuoted mark body hmark hbody =>
      refine ⟨mark, body, List.append_nil _, ?_⟩
      rw [skipElement, if_pos hmark]
      exact hbody.skipPaired_open
  | @run opening closing body _ hopens hcloses =>
      obtain ⟨c, s, hs, hc, hskip⟩ := hopens.skipRun_eq (body ++ rest)
      refine ⟨c, s, (List.append_assoc _ _ _).trans hs, ?_⟩
      rw [skipElement, if_neg hc, hskip]
      exact skipPast_closed hcloses hopens.closing_ne_nil rest
  | @openRun opening closing body hopens hno =>
      obtain ⟨c, s, hs, hc, hskip⟩ := hopens.skipRun_eq body
      refine ⟨c, s, (List.append_nil _).trans hs, ?_⟩
      rw [skipElement, if_neg hc, hskip]
      exact skipPast_open hno
  | @char c _ hc hno =>
      refine ⟨c, rest, rfl, ?_⟩
      rw [skipElement, if_neg hc]
      exact skipRun_of_not_opens hc hno

/-- There is an element at the front of every text. -/
theorem exists_element (c : Char) (s : List Char) :
    ∃ element, element ++ skipElement c s = c :: s ∧ Element element (skipElement c s) := by
  by_cases hquote : IsQuote c
  · rw [skipElement, if_pos hquote]
    rcases skipPaired_split c s with ⟨body, hbody, hpaired, hhead⟩ | ⟨hnil, hpaired⟩
    · refine ⟨c :: (body ++ [c]), ?_, .quoted hquote hpaired hhead⟩
      conv => rhs; rw [hbody]
      simp
    · rw [hnil]
      exact ⟨c :: s, List.append_nil _, .openQuoted hquote hpaired⟩
  · rw [skipElement, if_neg hquote]
    by_cases hopen : ∃ opening closing, Opens opening closing ∧ opening <+: c :: s
    · obtain ⟨opening, closing, hopens, body, hbody⟩ := hopen
      obtain ⟨c', s', heq, -, hskip⟩ := hopens.skipRun_eq body
      obtain ⟨rfl, rfl⟩ := List.cons.inj (heq.symm.trans hbody)
      rw [hskip]
      rcases skipPast_split hopens.closing_ne_nil body with ⟨run, hrun, hcloses⟩ | ⟨hnil, hno⟩
      · refine ⟨opening ++ run, ?_, .run hopens hcloses⟩
        rw [List.append_assoc, ← hrun, hbody]
      · rw [hnil]
        exact ⟨opening ++ body, (List.append_nil _).trans hbody, .openRun hopens hno⟩
    · have hno : ∀ opening closing, Opens opening closing → ¬ opening <+: c :: s :=
        fun opening closing hopens hstarts => hopen ⟨opening, closing, hopens, hstarts⟩
      rw [skipRun_of_not_opens hquote hno]
      exact ⟨[c], rfl, .char hquote hno⟩

/-- The element at the front of a text is determined. -/
theorem Element.unique {element rest element' rest' : List Char} (h : Element element rest)
    (h' : Element element' rest') (heq : element ++ rest = element' ++ rest') :
    element = element' ∧ rest = rest' := by
  obtain ⟨c, s, hs, hskip⟩ := h.skipElement_eq
  obtain ⟨c', s', hs', hskip'⟩ := h'.skipElement_eq
  obtain ⟨rfl, rfl⟩ := List.cons.inj (hs.symm.trans (heq.trans hs'))
  obtain rfl := hskip.symm.trans hskip'
  exact ⟨List.append_cancel_right heq, rfl⟩

theorem Element.length_lt {element rest : List Char} (h : Element element rest) :
    rest.length < (element ++ rest).length := by
  have hne : element ≠ [] := by
    cases h with
    | run hopens => cases hopens <;> simp
    | openRun hopens => cases hopens <;> simp
    | quoted | openQuoted | char => exact List.cons_ne_nil _ _
  rw [List.length_append]
  exact Nat.lt_add_of_pos_left (List.length_pos_iff.mpr hne)

/-- An element stays what it is if the text behind it is cut short, but not away. -/
theorem Element.shorten {element rest rest' : List Char} (h : Element element rest)
    (hstarts : rest' <+: rest) (hne : rest' ≠ []) : Element element rest' := by
  cases h with
  | quoted hmark hbody hrest =>
      obtain ⟨more, rfl⟩ := hstarts
      obtain ⟨next, rest', rfl⟩ := List.exists_cons_of_ne_nil hne
      exact .quoted hmark hbody hrest
  | openQuoted => exact absurd (List.prefix_nil.mp hstarts) hne
  | run hopens hcloses => exact .run hopens hcloses
  | openRun => exact absurd (List.prefix_nil.mp hstarts) hne
  | @char c _ hc hno =>
      exact .char hc fun opening closing hopens hopening =>
        hno opening closing hopens (hopening.trans (List.cons_prefix_cons.mpr ⟨rfl, hstarts⟩))

theorem element_semicolon (rest : List Char) : Element [';'] rest := by
  refine .char (by decide) fun opening closing hopens => ?_
  cases hopens <;> simp

/-! ## Readings -/

/-- A text as the sequence of its elements. -/
inductive Reading : (text : List Char) → (elements : List (List Char)) → Prop where
  | nil : Reading [] []
  | cons {element rest elements} : Element element rest → Reading rest elements →
      Reading (element ++ rest) (element :: elements)

namespace Reading

variable {text : List Char} {elements elements' before after : List (List Char)}

theorem flatten_eq (h : Reading text elements) : elements.flatten = text := by
  induction h with
  | nil => rfl
  | cons _ _ ih => rw [List.flatten_cons, ih]

theorem unique (h : Reading text elements) (h' : Reading text elements') :
    elements = elements' := by
  induction h generalizing elements' with
  | nil =>
      generalize htext : ([] : List Char) = text at h'
      cases h' with
      | nil => rfl
      | cons helement _ =>
          have hshorter := helement.length_lt
          rw [← htext] at hshorter
          exact absurd hshorter (Nat.not_lt_zero _)
  | @cons element rest elements helement _ ih =>
      generalize htext : element ++ rest = text at h'
      cases h' with
      | nil =>
          have hshorter := helement.length_lt
          rw [htext] at hshorter
          exact absurd hshorter (Nat.not_lt_zero _)
      | cons helement' hlater' =>
          obtain ⟨rfl, rfl⟩ := helement.unique helement' htext
          rw [ih hlater']

end Reading

/-- Every text has a reading. -/
theorem exists_reading (text : List Char) : ∃ elements, Reading text elements := by
  induction hlength : text.length using Nat.strong_induction_on generalizing text with
  | _ n ih =>
      cases text with
      | nil => exact ⟨[], .nil⟩
      | cons c s =>
          obtain ⟨element, htext, helement⟩ := exists_element c s
          have hshorter := helement.length_lt
          rw [htext, hlength] at hshorter
          obtain ⟨elements, hlater⟩ := ih _ hshorter _ rfl
          exact ⟨element :: elements, htext ▸ .cons helement hlater⟩

/-! ## Ends of statements -/

theorem IsQuote.ne_semicolon {mark : Char} (h : IsQuote mark) : mark ≠ ';' := by
  cases h <;> decide

theorem IsQuote.skipRun_eq {mark : Char} (h : IsQuote mark) (s : List Char) :
    skipRun mark s = skipQuoted mark s := by
  cases h <;> rfl

/-- The scanner closes a run at the first mark of a pair and opens the next run at the second. -/
theorem IsQuote.afterStatement_eq {mark : Char} (h : IsQuote mark) (s : List Char) :
    afterStatement (skipQuoted mark s) = afterStatement (skipPaired mark s) := by
  fun_induction skipPaired mark s with
  | case1 => rfl
  | case2 c =>
      rw [skipQuoted, skipQuoted]
      split <;> rfl
  | case3 rest ih =>
      rw [skipQuoted, if_pos rfl, afterStatement_cons h.ne_semicolon, h.skipRun_eq, ih]
  | case4 d rest _ => rw [skipQuoted, if_pos rfl]
  | case5 c d rest hc ih => rw [skipQuoted, if_neg hc, ih]

theorem afterStatement_skipElement {c : Char} (hc : c ≠ ';') (s : List Char) :
    afterStatement (c :: s) = afterStatement (skipElement c s) := by
  rw [afterStatement_cons hc, skipElement]
  split
  · rename_i hquote
    rw [hquote.skipRun_eq, hquote.afterStatement_eq]
  · rfl

/-- The scanner passes over every element but a semicolon. -/
theorem Element.afterStatement_eq {element rest : List Char} (h : Element element rest)
    (hne : element ≠ [';']) : afterStatement (element ++ rest) = afterStatement rest := by
  obtain ⟨c, s, hs, hskip⟩ := h.skipElement_eq
  have hc : c ≠ ';' := by
    rintro rfl
    exact hne (h.unique (element_semicolon s) hs).1
  rw [hs, afterStatement_skipElement hc, hskip]

namespace Reading

variable {text : List Char} {elements before after : List (List Char)}

theorem afterStatement_eq_nil (h : Reading text elements) (hno : [';'] ∉ elements) :
    afterStatement text = [] := by
  induction h with
  | nil => rw [afterStatement]
  | cons helement _ ih =>
      rw [helement.afterStatement_eq (List.ne_of_not_mem_cons hno).symm,
        ih (List.not_mem_of_not_mem_cons hno)]

theorem afterStatement_eq (h : Reading text (before ++ [';'] :: after)) (hno : [';'] ∉ before) :
    afterStatement text = after.flatten := by
  induction before generalizing text with
  | nil =>
      cases h with
      | cons _ hlater =>
          rw [List.singleton_append, afterStatement, if_pos rfl, hlater.flatten_eq]
  | cons element before ih =>
      cases h with
      | cons helement hlater =>
          rw [helement.afterStatement_eq (List.ne_of_not_mem_cons hno).symm,
            ih hlater (List.not_mem_of_not_mem_cons hno)]

/-- The first semicolon that is an element ends the statement. -/
theorem statementEnd_eq (h : Reading text (before ++ [';'] :: after)) (hno : [';'] ∉ before) :
    statementEnd text = byteLength before.flatten + 1 := by
  have hcut := byteLength_of_sliceFrom? (sliceFrom?_statementEnd text)
  have hlength := congrArg byteLength h.flatten_eq
  rw [h.afterStatement_eq hno] at hcut
  simp only [List.flatten_append, List.flatten_cons, byteLength_append] at hlength
  have hone : byteLength [';'] = 1 := rfl
  omega

theorem statementEnd_eq_byteLength (h : Reading text elements) (hno : [';'] ∉ elements) :
    statementEnd text = byteLength text := by
  have hcut := byteLength_of_sliceFrom? (sliceFrom?_statementEnd text)
  rw [h.afterStatement_eq_nil hno] at hcut
  exact hcut.symm

end Reading

/-- A text is read as these elements and no others, and `n` is the offset behind the first of them
that is a semicolon, or the length of the text if there is none. The text can be cut there. -/
structure EndsStatement (text : List Char) (elements : List (List Char)) (n : Nat) : Prop where
  reading : Reading text elements
  unique : ∀ others, Reading text others → others = elements
  semicolon : ∀ before after, elements = before ++ [';'] :: after → [';'] ∉ before →
    n = byteLength before.flatten + 1
  unended : [';'] ∉ elements → n = byteLength text
  pos : text ≠ [] → 0 < n
  inside : n ≤ byteLength text
  boundary : ∃ before after, text = before ++ after ∧ byteLength before = n

/-- A statement ends behind the first semicolon outside all runs. -/
theorem statementEnd_endsStatement (text : List Char) :
    ∃ elements, EndsStatement text elements (statementEnd text) := by
  obtain ⟨elements, hreading⟩ := exists_reading text
  obtain ⟨after, hafter, hlength⟩ := sliceTo?_eq_some.mp (sliceTo?_statementEnd text)
  refine ⟨elements, hreading, fun _ h => h.unique hreading, ?_,
    hreading.statementEnd_eq_byteLength, statementEnd_pos, ?_, ⟨_, after, hafter, hlength⟩⟩
  · rintro before after rfl hno
    exact hreading.statementEnd_eq hno
  · have hcut := byteLength_of_sliceFrom? (sliceFrom?_statementEnd text)
    omega

example : statementEnd "SELECT 'it''s;' || $f$;$$;$f$ -- ;\n, [a;], 1; SELECT 2".toList = 45 := by
  decide +kernel

end Sluice.Scan
