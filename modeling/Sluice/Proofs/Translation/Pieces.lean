import Mathlib.Data.List.Chain
import Sluice.Proofs.Translation.Admissible

/-!
# Pieces of a text

The text of an expression is put together from words, numbers, quoted names and placeholders, with
joints between them. The first character of a piece tells what kind of piece it is, and a piece that
is no joint ends at the next joint. So a text in which no two such pieces stand side by side can be
taken apart in one way only.
-/

namespace Sluice

open Text

/-! ## Runs of characters -/

/-- A run of characters ends where the first other character stands. -/
theorem run_append_inj {p : Char → Bool} {run run' s s' : List Char}
    (hrun : ∀ c ∈ run, p c = true) (hrun' : ∀ c ∈ run', p c = true)
    (hs : ∀ c ∈ s.head?, p c = false) (hs' : ∀ c ∈ s'.head?, p c = false)
    (h : run ++ s = run' ++ s') : run = run' ∧ s = s' := by
  have hnone : ∀ {t : List Char}, (∀ c ∈ t.head?, p c = false) → t.takeWhile p = [] := by
    intro t ht
    cases t with
    | nil => rfl
    | cons c t => exact List.takeWhile_cons_of_neg (Bool.eq_false_iff.mp (ht c rfl))
  have htake := congrArg (List.takeWhile p) h
  rw [List.takeWhile_append_of_pos hrun, List.takeWhile_append_of_pos hrun', hnone hs, hnone hs',
    List.append_nil, List.append_nil] at htake
  subst htake
  exact ⟨rfl, List.append_cancel_left h⟩

/-- A name in which every mark is doubled ends at the first mark that is not. -/
theorem doubled_append_inj {mark : Char} {name name' s s' : List Char}
    (hs : mark ∉ s.head?) (hs' : mark ∉ s'.head?)
    (h : name.flatMap (fun c => if c = mark then [mark, mark] else [c]) ++ mark :: s =
      name'.flatMap (fun c => if c = mark then [mark, mark] else [c]) ++ mark :: s') :
    name = name' ∧ s = s' := by
  induction name generalizing name' with
  | nil =>
      cases name' with
      | nil => exact ⟨rfl, (List.cons.inj h).2⟩
      | cons d name' =>
          by_cases hd : d = mark
          · rw [List.flatMap_cons, if_pos hd] at h
            rw [(List.cons.inj h).2] at hs
            exact absurd rfl hs
          · rw [List.flatMap_cons, if_neg hd] at h
            exact absurd (List.cons.inj h).1.symm hd
  | cons c name ih =>
      cases name' with
      | nil =>
          by_cases hc : c = mark
          · rw [List.flatMap_cons, if_pos hc] at h
            rw [← (List.cons.inj h).2] at hs'
            exact absurd rfl hs'
          · rw [List.flatMap_cons, if_neg hc] at h
            exact absurd (List.cons.inj h).1 hc
      | cons d name' =>
          rw [List.flatMap_cons, List.flatMap_cons] at h
          by_cases hc : c = mark <;> by_cases hd : d = mark
          · rw [if_pos hc, if_pos hd] at h
            obtain ⟨rfl, rfl⟩ := ih (List.cons.inj (List.cons.inj h).2).2
            exact ⟨by rw [hc, hd], rfl⟩
          · rw [if_pos hc, if_neg hd] at h
            exact absurd (List.cons.inj h).1.symm hd
          · rw [if_neg hc, if_pos hd] at h
            exact absurd (List.cons.inj h).1 hc
          · rw [if_neg hc, if_neg hd] at h
            obtain ⟨hcd, hrest⟩ := List.cons.inj h
            obtain ⟨rfl, rfl⟩ := ih hrest
            exact ⟨by rw [hcd], rfl⟩

theorem quoteName_append_inj {name name' : String} {s s' : List Char}
    (hs : '"' ∉ s.head?) (hs' : '"' ∉ s'.head?)
    (h : (quoteName name).toList ++ s = (quoteName name').toList ++ s') :
    name = name' ∧ s = s' := by
  simp only [quoteName, quoteWith, String.toList_ofList, List.cons_append, List.append_assoc,
    List.nil_append] at h
  obtain ⟨hname, hrest⟩ := doubled_append_inj hs hs' (List.cons.inj h).2
  exact ⟨String.toList_inj.mp hname, hrest⟩

/-! ## Integers -/

theorem natText_inj {n m : Nat} (h : toString n = toString m) : n = m := by
  have hvalue : ∀ k : Nat, Nat.ofDigitChars 10 (toString k).toList 0 = k := by
    intro k
    rw [Nat.toString_eq_repr, Nat.toList_repr]
    exact Nat.ofDigitChars_toDigits (by decide) (by decide)
  rw [← hvalue n, h, hvalue]

theorem intText_negSucc (k : Nat) : toString (Int.negSucc k) = "-" ++ toString (k + 1) := rfl

/-- An integer is written in digits and a minus. -/
theorem isNumeral_of_mem_intText {n : Int} {c : Char} (h : c ∈ (toString n).toList) :
    (c.isDigit || c = '-') = true := by
  cases n with
  | ofNat k => rw [isDigit_of_mem_natText h, Bool.true_or]
  | negSucc k =>
      rw [intText_negSucc, String.toList_append] at h
      rcases List.mem_append.mp h with h | h
      · rw [List.mem_singleton.mp h]
        decide
      · rw [isDigit_of_mem_natText h, Bool.true_or]

theorem intText_ne_nil (n : Int) : (toString n).toList ≠ [] := by
  cases n with
  | ofNat k => exact natText_ne_nil k
  | negSucc k =>
      rw [intText_negSucc, String.toList_append]
      exact List.append_ne_nil_of_left_ne_nil (by decide) _

theorem intText_inj {n m : Int} (h : toString n = toString m) : n = m := by
  have hunsigned : ∀ k l : Nat, toString k ≠ "-" ++ toString l := by
    intro k l heq
    have hminus : '-' ∈ (toString k).toList := by
      rw [heq, String.toList_append]
      exact List.mem_append_left _ (by decide)
    exact absurd (isDigit_of_mem_natText hminus) (by decide)
  cases n with
  | ofNat k =>
      cases m with
      | ofNat l => exact congrArg Int.ofNat (natText_inj h)
      | negSucc l => exact absurd h (hunsigned k (l + 1))
  | negSucc k =>
      cases m with
      | ofNat l => exact absurd h.symm (hunsigned l (k + 1))
      | negSucc l =>
          have hnext := natText_inj (String.append_right_inj "-" |>.mp h)
          rw [Nat.succ.inj hnext]

/-! ## Pieces -/

/-- A piece of the text of an expression. A value stands as its placeholder. -/
inductive Piece where
  | word (s : String)
  | number (n : Int)
  | name (s : String)
  | value (v : Value)
  | operator (token : String)
  | point
  | opening
  | closing
deriving DecidableEq

namespace Piece

/-- The text of a piece, `next` being the placeholder of the next value. -/
def text (next : String) : Piece → String
  | word s => s
  | number n => toString n
  | name s => quoteName s
  | value _ => next
  | operator token => " " ++ token ++ " "
  | point => "."
  | opening => "("
  | closing => ")"

/-- What a piece binds. -/
def bound : Piece → List Value
  | value v => [v]
  | word _ | number _ | name _ | operator _ | point | opening | closing => []

/-- Pieces that go between others. -/
def isJoint : Piece → Bool
  | operator _ | point | opening | closing => true
  | word _ | number _ | name _ | value _ => false

/-- Words are identifiers, and operators have no blanks. -/
def Plain : Piece → Prop
  | word s => IsPlain s
  | operator token => ' ' ∉ token.toList
  | number _ | name _ | value _ | point | opening | closing => True

/-! ### First characters -/

/-- Words, numbers, names and so on, whatever they hold. -/
inductive Kind where
  | word | number | name | value | operator | point | opening | closing
deriving DecidableEq

def kind : Piece → Kind
  | word _ => .word
  | number _ => .number
  | name _ => .name
  | value _ => .value
  | operator _ => .operator
  | point => .point
  | opening => .opening
  | closing => .closing

/-- The kind of piece that a character starts. -/
def kindOf (c : Char) : Kind :=
  if c.isDigit || c = '-' then .number
  else if isWordChar c then .word
  else if c = '"' then .name
  else if c = '?' || c = '$' then .value
  else if c = ' ' then .operator
  else if c = '.' then .point
  else if c = '(' then .opening
  else .closing

theorem isDigit_eq_false_of_isAlpha {c : Char} (h : c.isAlpha = true) : c.isDigit = false := by
  by_contra hdigit
  obtain ⟨-, hnine⟩ := Bool.and_eq_true_iff.mp (Bool.eq_true_of_not_eq_false hdigit)
  have hnine : c.val ≤ '9'.val := of_decide_eq_true hnine
  rcases Bool.or_eq_true_iff.mp h with h | h
  · have hupper : 'A'.val ≤ c.val ∧ c.val ≤ 'Z'.val := of_decide_eq_true h
    exact absurd (UInt32.le_trans hupper.1 hnine) (by decide)
  · have hlower : 'a'.val ≤ c.val := of_decide_eq_true (Bool.and_eq_true_iff.mp h).1
    exact absurd (UInt32.le_trans hlower hnine) (by decide)

theorem kindOf_letter {c : Char} (h : c.isAlpha = true ∨ c = '_') : kindOf c = .word := by
  rcases h with h | rfl
  · have hnumeral : (c.isDigit || c = '-') = false := by
      rw [isDigit_eq_false_of_isAlpha h, Bool.false_or, decide_eq_false_iff_not]
      rintro rfl
      exact absurd h (by decide)
    have hword : isWordChar c = true := by rw [isWordChar, Char.isAlphanum, h]; rfl
    rw [kindOf, hnumeral, hword]
    rfl
  · rfl

theorem isWordChar_of_isPlain {s : String} (h : IsPlain s) :
    ∀ c ∈ s.toList, isWordChar c = true := by
  obtain ⟨first, rest, hs, hfirst, hrest⟩ := h
  have hword : ∀ c : Char, c.isAlphanum = true ∨ c = '_' → isWordChar c = true := by
    rintro c (hc | rfl)
    · rw [isWordChar, hc, Bool.true_or]
    · decide
  intro c hc
  rw [hs] at hc
  rcases List.mem_cons.mp hc with rfl | hc
  · exact hword c (hfirst.imp_left fun halpha => by rw [Char.isAlphanum, halpha, Bool.true_or])
  · exact hword c (hrest c hc)

/-- Every piece has a text, and its first character shows its kind. -/
theorem exists_text_eq_cons {piece : Piece} (h : piece.Plain) {next : String}
    (hnext : IsMark next) :
    ∃ c s, (piece.text next).toList = c :: s ∧ kindOf c = piece.kind := by
  cases piece with
  | word s =>
      obtain ⟨c, rest, hs, hc, -⟩ := h
      exact ⟨c, rest, hs, kindOf_letter hc⟩
  | number n =>
      obtain ⟨c, rest, hn⟩ := List.exists_cons_of_ne_nil (intText_ne_nil n)
      have hc : c ∈ (toString n).toList := hn ▸ List.mem_cons_self
      exact ⟨c, rest, hn, if_pos (isNumeral_of_mem_intText hc)⟩
  | name s => exact ⟨'"', _, String.toList_ofList, rfl⟩
  | value v =>
      rcases hnext with rfl | ⟨n, rfl⟩
      · exact ⟨'?', [], by simp [text], rfl⟩
      · exact ⟨'$', _, String.toList_append, rfl⟩
  | operator token => exact ⟨' ', token.toList ++ [' '], by simp [text], rfl⟩
  | point => exact ⟨'.', [], by simp [text], rfl⟩
  | opening => exact ⟨'(', [], by simp [text], rfl⟩
  | closing => exact ⟨')', [], by simp [text], rfl⟩

/-- A text that is empty or goes on with a joint. -/
def JointNext (s : List Char) : Prop := ∀ c ∈ s.head?, c ∈ [' ', '.', '(', ')']

theorem JointNext.not {s : List Char} (h : JointNext s) {p : Char → Bool}
    (hp : [' ', '.', '(', ')'].all (fun c => !p c) = true) : ∀ c ∈ s.head?, p c = false := by
  intro c hc
  have hnot := List.all_eq_true.mp hp c (h c hc)
  rw [Bool.not_eq_true'] at hnot
  exact hnot

theorem token_append_inj {token token' : String} (h : ' ' ∉ token.toList)
    (h' : ' ' ∉ token'.toList) {s s' : List Char}
    (heq : token.toList ++ (" ".toList ++ s) = token'.toList ++ (" ".toList ++ s')) :
    token = token' ∧ s = s' := by
  have hrun : ∀ {t : String}, ' ' ∉ t.toList → ∀ c ∈ t.toList, decide (c ≠ ' ') = true :=
    fun ht c hc => decide_eq_true fun hblank => ht (hblank ▸ hc)
  have hends : ∀ {t : List Char}, ∀ c ∈ (" ".toList ++ t).head?, decide (c ≠ ' ') = false := by
    intro t c hc
    rw [← Option.some.inj hc]
    decide
  obtain ⟨htoken, hrest⟩ := run_append_inj (hrun h) (hrun h') hends hends heq
  exact ⟨String.toList_inj.mp htoken, List.append_cancel_left hrest⟩

/-- Two texts that start with pieces, each up to a joint if its piece is none, are equal only if the
pieces are. -/
theorem text_append_inj {piece piece' : Piece} (hplain : piece.Plain) (hplain' : piece'.Plain)
    {next : String} (hnext : IsMark next) {s s' : List Char}
    (hs : piece.isJoint = false → JointNext s) (hs' : piece'.isJoint = false → JointNext s')
    {values values' : List Value} (hvalues : piece.bound ++ values = piece'.bound ++ values')
    (h : (piece.text next).toList ++ s = (piece'.text next).toList ++ s') :
    piece = piece' ∧ s = s' ∧ values = values' := by
  have hkind : piece.kind = piece'.kind := by
    obtain ⟨c, rest, htext, hc⟩ := exists_text_eq_cons hplain hnext
    obtain ⟨c', rest', htext', hc'⟩ := exists_text_eq_cons hplain' hnext
    rw [htext, htext'] at h
    rw [← hc, ← hc', (List.cons.inj h).1]
  cases piece with
  | word w =>
      cases piece' with
      | word w' =>
          obtain ⟨hword, hrest⟩ := run_append_inj (isWordChar_of_isPlain hplain)
            (isWordChar_of_isPlain hplain') ((hs rfl).not (by decide)) ((hs' rfl).not (by decide)) h
          exact ⟨congrArg word (String.toList_inj.mp hword), hrest, hvalues⟩
      | _ => exact nomatch hkind
  | number n =>
      cases piece' with
      | number n' =>
          obtain ⟨hnumber, hrest⟩ := run_append_inj (fun _ => isNumeral_of_mem_intText)
            (fun _ => isNumeral_of_mem_intText) ((hs rfl).not (by decide))
            ((hs' rfl).not (by decide)) h
          exact ⟨congrArg number (intText_inj (String.toList_inj.mp hnumber)), hrest, hvalues⟩
      | _ => exact nomatch hkind
  | name w =>
      cases piece' with
      | name w' =>
          have hquote : ∀ {t : List Char}, JointNext t → '"' ∉ t.head? :=
            fun ht hmem => absurd (ht '"' hmem) (by decide)
          obtain ⟨rfl, hrest⟩ := quoteName_append_inj (hquote (hs rfl)) (hquote (hs' rfl)) h
          exact ⟨rfl, hrest, hvalues⟩
      | _ => exact nomatch hkind
  | value v =>
      cases piece' with
      | value v' =>
          obtain ⟨rfl, hrest⟩ := List.cons.inj hvalues
          exact ⟨rfl, List.append_cancel_left h, hrest⟩
      | _ => exact nomatch hkind
  | operator token =>
      cases piece' with
      | operator token' =>
          simp only [text, String.toList_append, List.append_assoc] at h
          obtain ⟨htoken, hrest⟩ := token_append_inj hplain hplain' (List.append_cancel_left h)
          exact ⟨congrArg operator htoken, hrest, hvalues⟩
      | _ => exact nomatch hkind
  | point =>
      cases piece' with
      | point => exact ⟨rfl, List.append_cancel_left h, hvalues⟩
      | _ => exact nomatch hkind
  | opening =>
      cases piece' with
      | opening => exact ⟨rfl, List.append_cancel_left h, hvalues⟩
      | _ => exact nomatch hkind
  | closing =>
      cases piece' with
      | closing => exact ⟨rfl, List.append_cancel_left h, hvalues⟩
      | _ => exact nomatch hkind

/-! ### Rows of pieces -/

/-- The text of pieces behind `n` parameters. -/
def spell (mark : Nat → String) : (n : Nat) → List Piece → List Char
  | _, [] => []
  | n, piece :: pieces =>
    (piece.text (mark (n + 1))).toList ++ spell mark (n + piece.bound.length) pieces

/-- What pieces bind, in order. -/
def values (pieces : List Piece) : List Value := pieces.flatMap bound

/-- Pieces with a joint between any two that are none. -/
structure WellSet (pieces : List Piece) : Prop where
  plain : ∀ piece ∈ pieces, piece.Plain
  jointed : pieces.IsChain fun piece next => piece.isJoint = false → next.isJoint = true

variable {mark : Nat → String} {pieces pieces' : List Piece} {joint : Piece} {n : Nat}

theorem spell_append (mark : Nat → String) (n : Nat) (pieces pieces' : List Piece) :
    spell mark n (pieces ++ pieces') =
      spell mark n pieces ++ spell mark (n + (values pieces).length) pieces' := by
  induction pieces generalizing n with
  | nil => rfl
  | cons piece pieces ih =>
      rw [List.cons_append, spell, spell, ih, List.append_assoc, values, values, List.flatMap_cons,
        List.length_append, Nat.add_assoc]

theorem wellSet_nil : WellSet [] := ⟨List.forall_mem_nil _, List.isChain_nil⟩

theorem wellSet_singleton {piece : Piece} (h : piece.Plain) : WellSet [piece] :=
  ⟨List.forall_mem_singleton.mpr h, List.isChain_singleton piece⟩

theorem WellSet.join (h : WellSet pieces) (h' : WellSet pieces') (hplain : joint.Plain)
    (hjoint : joint.isJoint = true) : WellSet (pieces ++ joint :: pieces') := by
  refine ⟨?_, List.isChain_append.mpr ⟨h.jointed, List.isChain_cons.mpr ⟨?_, h'.jointed⟩, ?_⟩⟩
  · exact List.forall_mem_append.mpr ⟨h.plain, List.forall_mem_cons.mpr ⟨hplain, h'.plain⟩⟩
  · intro next _ hnone
    exact Bool.noConfusion (hjoint.symm.trans hnone)
  · intro piece _ next hnext _
    rw [← Option.some.inj hnext]
    exact hjoint

theorem jointNext_spell (h : ∀ next ∈ pieces.head?, next.isJoint = true) :
    JointNext (spell mark n pieces) := by
  cases pieces with
  | nil => exact nofun
  | cons next pieces =>
      have hstart : ∃ c ∈ [' ', '.', '(', ')'], (next.text (mark (n + 1))).toList.head? = some c := by
        have hjoint := h next rfl
        cases next with
        | operator token => exact ⟨' ', by decide, by simp [text]⟩
        | point => exact ⟨'.', by decide, by simp [text]⟩
        | opening => exact ⟨'(', by decide, by simp [text]⟩
        | closing => exact ⟨')', by decide, by simp [text]⟩
        | word | number | name | value => exact Bool.noConfusion hjoint
      obtain ⟨c, hmem, hhead⟩ := hstart
      intro d hd
      rw [spell, List.head?_append, hhead, Option.some_or] at hd
      rw [← Option.some.inj hd]
      exact hmem

theorem WellSet.tail {piece : Piece} (h : WellSet (piece :: pieces)) : WellSet pieces :=
  ⟨(List.forall_mem_cons.mp h.plain).2, h.jointed.tail⟩

theorem WellSet.jointNext {piece : Piece} (h : WellSet (piece :: pieces))
    (hnone : piece.isJoint = false) : JointNext (spell mark n pieces) :=
  jointNext_spell fun next hnext => (List.isChain_cons.mp h.jointed).1 next hnext hnone

theorem spell_cons_ne_nil (hmark : ∀ i, IsMark (mark i)) {piece : Piece} (h : piece.Plain) :
    spell mark n (piece :: pieces) ≠ [] := by
  obtain ⟨c, s, hcons, -⟩ := exists_text_eq_cons h (hmark (n + 1))
  rw [spell, hcons, List.cons_append]
  exact List.cons_ne_nil _ _

/-- Pieces are read off their text, as long as what the placeholders stand for is known. -/
theorem spell_injective (hmark : ∀ i, IsMark (mark i)) (h : WellSet pieces)
    (h' : WellSet pieces') (hvalues : values pieces = values pieces')
    (htext : spell mark n pieces = spell mark n pieces') : pieces = pieces' := by
  -- Equal first pieces bind equally many values, so the placeholders behind them have the same
  -- numbers.
  induction pieces generalizing pieces' n with
  | nil =>
      cases pieces' with
      | nil => rfl
      | cons piece' pieces' =>
          have hplain := h'.plain piece' List.mem_cons_self
          exact absurd htext.symm (spell_cons_ne_nil hmark hplain)
  | cons piece pieces ih =>
      have hplain := h.plain piece List.mem_cons_self
      cases pieces' with
      | nil => exact absurd htext (spell_cons_ne_nil hmark hplain)
      | cons piece' pieces' =>
          have hplain' := h'.plain piece' List.mem_cons_self
          rw [values, values, List.flatMap_cons, List.flatMap_cons] at hvalues
          rw [spell, spell] at htext
          obtain ⟨rfl, htext, hvalues⟩ :=
            text_append_inj hplain hplain' (hmark (n + 1)) h.jointNext h'.jointNext hvalues htext
          rw [ih h.tail h'.tail hvalues htext]

end Piece

end Sluice
