import Sluice.Proofs.Scan.Octets

/-!
# Offsets of the scanner

An offset that the scanner computes from the bytes of a text is the length of a piece of the text,
so the text can be cut there. Trivia and statements are measured by what they leave.
-/

namespace Sluice.Scan

open Text

/-! ## Cutting a text -/

@[simp] theorem byteLength_append (s t : List Char) :
    byteLength (s ++ t) = byteLength s + byteLength t := by
  rw [← length_octets, octets_append, List.length_append, length_octets, length_octets]

theorem byteLength_eq_zero {s : List Char} : byteLength s = 0 ↔ s = [] := by
  rw [← length_octets, List.length_eq_zero_iff, octets_eq_nil]

theorem splitAtByte_append (before after : List Char) :
    splitAtByte (byteLength before) (before ++ after) = some (before, after) := by
  induction before with
  | nil => rw [byteLength, List.nil_append, splitAtByte]
  | cons c before ih =>
      have hpos := Char.utf8Size_pos c
      obtain ⟨n, hn⟩ : ∃ n, byteLength (c :: before) = n + 1 :=
        Nat.exists_eq_add_one.mpr (by rw [byteLength]; omega)
      have hrest : n + 1 - c.utf8Size = byteLength before := by
        rw [← hn, byteLength, Nat.add_sub_cancel_left]
      have hfits : ¬ n + 1 < c.utf8Size := by
        rw [← hn, byteLength]
        omega
      rw [hn, List.cons_append, splitAtByte, if_neg hfits, hrest, ih]
      rfl

theorem of_splitAtByte {n : Nat} {s before after : List Char}
    (h : splitAtByte n s = some (before, after)) : s = before ++ after ∧ byteLength before = n := by
  fun_induction splitAtByte n s generalizing before with
  | case1 s =>
      obtain ⟨rfl, rfl⟩ := Prod.mk.inj (Option.some.inj h)
      exact ⟨rfl, rfl⟩
  | case2 => cases h
  | case3 => cases h
  | case4 n c s hn ih =>
      obtain ⟨⟨before', after'⟩, hsplit, hcons⟩ := Option.map_eq_some_iff.mp h
      obtain ⟨rfl, rfl⟩ := Prod.mk.inj hcons
      obtain ⟨rfl, hlen⟩ := ih hsplit
      refine ⟨rfl, ?_⟩
      rw [byteLength, hlen]
      omega

/-- A text can be cut after the bytes of a piece, and nowhere else. -/
theorem splitAtByte_eq_some {n : Nat} {s before after : List Char} :
    splitAtByte n s = some (before, after) ↔ s = before ++ after ∧ byteLength before = n := by
  refine ⟨of_splitAtByte, ?_⟩
  rintro ⟨rfl, rfl⟩
  exact splitAtByte_append before after

theorem sliceFrom?_eq_some {n : Nat} {s after : List Char} :
    sliceFrom? n s = some after ↔ ∃ before, s = before ++ after ∧ byteLength before = n := by
  simp only [sliceFrom?, Option.map_eq_some_iff, Prod.exists, splitAtByte_eq_some]
  constructor
  · rintro ⟨before, _, h, rfl⟩
    exact ⟨before, h⟩
  · rintro ⟨before, h⟩
    exact ⟨before, after, h, rfl⟩

theorem sliceTo?_eq_some {n : Nat} {s before : List Char} :
    sliceTo? n s = some before ↔ ∃ after, s = before ++ after ∧ byteLength before = n := by
  simp only [sliceTo?, Option.map_eq_some_iff, Prod.exists, splitAtByte_eq_some]
  constructor
  · rintro ⟨_, after, h, rfl⟩
    exact ⟨after, h⟩
  · rintro ⟨after, h⟩
    exact ⟨before, after, h, rfl⟩

@[simp] theorem sliceFrom?_zero (s : List Char) : sliceFrom? 0 s = some s := by
  simp [sliceFrom?, splitAtByte]

theorem sliceFrom?_append (s t : List Char) : sliceFrom? (byteLength s) (s ++ t) = some t :=
  sliceFrom?_eq_some.mpr ⟨s, rfl, rfl⟩

/-- Cutting twice is cutting once, further on. -/
theorem sliceFrom?_trans {m n : Nat} {s t u : List Char} (hs : sliceFrom? m s = some t)
    (ht : sliceFrom? n t = some u) : sliceFrom? (m + n) s = some u := by
  obtain ⟨before, rfl, rfl⟩ := sliceFrom?_eq_some.mp hs
  obtain ⟨before', rfl, rfl⟩ := sliceFrom?_eq_some.mp ht
  exact sliceFrom?_eq_some.mpr ⟨before ++ before', by simp, by simp⟩

theorem byteLength_of_sliceFrom? {n : Nat} {s t : List Char} (h : sliceFrom? n s = some t) :
    byteLength s = n + byteLength t := by
  obtain ⟨before, rfl, rfl⟩ := sliceFrom?_eq_some.mp h
  exact byteLength_append _ _

/-! ## What the scanner leaves is a suffix -/

theorem skipLine_suffix (s : List Char) : skipLine s <:+ s := by
  induction s with
  | nil => exact List.suffix_refl _
  | cons c s ih =>
      rw [skipLine]
      split
      · exact List.suffix_cons c s
      · exact ih.trans (List.suffix_cons c s)

theorem skipBlock_suffix (s : List Char) : skipBlock s <:+ s := by
  fun_induction skipBlock s with
  | case1 => exact List.suffix_refl _
  | case2 after => exact (List.suffix_cons _ _).trans (List.suffix_cons _ _)
  | case3 c s _ ih => exact ih.trans (List.suffix_cons c s)

theorem skipQuoted_suffix (close : Char) (s : List Char) : skipQuoted close s <:+ s := by
  induction s with
  | nil => exact List.suffix_refl _
  | cons c s ih =>
      rw [skipQuoted]
      split
      · exact List.suffix_cons c s
      · exact ih.trans (List.suffix_cons c s)

theorem dropPrefix?_suffix {mark s rest : List Char} (h : dropPrefix? mark s = some rest) :
    rest <:+ s := by
  fun_induction dropPrefix? mark s with
  | case1 s =>
      obtain rfl := Option.some.inj h
      exact List.suffix_refl _
  | case2 => cases h
  | case3 mark c s ih => exact (ih h).trans (List.suffix_cons c s)
  | case4 => cases h

theorem skipPast_suffix (mark s : List Char) : skipPast mark s <:+ s := by
  induction s with
  | nil => exact List.suffix_refl _
  | cons c s ih =>
      rw [skipPast]
      split
      · rename_i after h
        exact dropPrefix?_suffix h
      · exact ih.trans (List.suffix_cons c s)

theorem skipDollar_suffix (s : List Char) : skipDollar s <:+ s := by
  simp only [skipDollar]
  split
  · rename_i body h
    have hbody : '$' :: body <:+ s := by
      rw [← h]
      exact List.drop_suffix _ _
    exact (skipPast_suffix _ body).trans ((List.suffix_cons '$' body).trans hbody)
  · exact List.suffix_refl _

theorem skipRun_suffix (c : Char) (s : List Char) : skipRun c s <:+ s := by
  unfold skipRun
  split
  · exact skipQuoted_suffix _ _
  · exact skipQuoted_suffix _ _
  · exact skipQuoted_suffix _ _
  · exact skipQuoted_suffix _ _
  · exact (skipLine_suffix _).trans (List.suffix_cons _ _)
  · exact (skipBlock_suffix _).trans (List.suffix_cons _ _)
  · exact skipDollar_suffix _
  · exact List.suffix_refl _

theorem afterStatement_suffix (s : List Char) : afterStatement s <:+ s := by
  fun_induction afterStatement s with
  | case1 => exact List.suffix_refl _
  | case2 s => exact List.suffix_cons _ _
  | case3 c s _ ih => exact (ih.trans (skipRun_suffix c s)).trans (List.suffix_cons c s)

theorem skipTrivia_suffix (s : List Char) : skipTrivia s <:+ s := by
  fun_induction skipTrivia s with
  | case1 => exact List.suffix_refl _
  | case2 c s _ ih => exact ih.trans (List.suffix_cons c s)
  | case3 s _ ih =>
      exact (ih.trans (skipLine_suffix s)).trans
        ((List.suffix_cons _ _).trans (List.suffix_cons _ _))
  | case4 s _ ih =>
      exact (ih.trans (skipBlock_suffix s)).trans
        ((List.suffix_cons _ _).trans (List.suffix_cons _ _))
  | case5 => exact List.suffix_refl _

/-! ## Trivia and statements, measured -/

/-- What the scanner leaves of the bytes tells where to cut the text. -/
theorem sliceFrom?_of_suffix {s t : List Char} (h : t <:+ s) :
    sliceFrom? ((octets s).length - (octets t).length) s = some t := by
  obtain ⟨before, rfl⟩ := h
  refine sliceFrom?_eq_some.mpr ⟨before, rfl, ?_⟩
  simp

theorem sliceFrom?_triviaLength (s : List Char) :
    sliceFrom? (triviaLength s) s = some (skipTrivia s) := by
  rw [triviaLength, skipTrivia_octets]
  exact sliceFrom?_of_suffix (skipTrivia_suffix s)

theorem sliceFrom?_statementEnd (s : List Char) :
    sliceFrom? (statementEnd s) s = some (afterStatement s) := by
  rw [statementEnd, afterStatement_octets]
  exact sliceFrom?_of_suffix (afterStatement_suffix s)

@[simp] theorem triviaLength_nil : triviaLength [] = 0 := Nat.zero_sub _

theorem triviaLength_skipTrivia (s : List Char) : triviaLength (skipTrivia s) = 0 := by
  rw [triviaLength, skipTrivia_octets, skipTrivia_idem, Nat.sub_self]

/-- The text of the first statement, with its semicolon. -/
def statement (s : List Char) : List Char := s.take (s.length - (afterStatement s).length)

theorem statement_append (s : List Char) : statement s ++ afterStatement s = s := by
  obtain ⟨before, h⟩ := afterStatement_suffix s
  have hlen := congrArg List.length h
  rw [List.length_append] at hlen
  have htake : statement s = before := by
    rw [statement, ← hlen, Nat.add_sub_cancel]
    conv => lhs; rw [← h]
    exact List.take_left
  rw [htake, h]

theorem sliceTo?_statementEnd (s : List Char) :
    sliceTo? (statementEnd s) s = some (statement s) := by
  have hcut := byteLength_of_sliceFrom? (sliceFrom?_statementEnd s)
  have hlen := congrArg byteLength (statement_append s)
  rw [byteLength_append] at hlen
  refine sliceTo?_eq_some.mpr ⟨afterStatement s, (statement_append s).symm, ?_⟩
  omega

theorem length_afterStatement_lt {s : List Char} (h : s ≠ []) :
    (afterStatement s).length < s.length := by
  cases s with
  | nil => exact absurd rfl h
  | cons c s =>
      rw [afterStatement, List.length_cons, Nat.lt_succ_iff]
      split
      · exact Nat.le_refl _
      · exact Nat.le_trans (length_afterStatement_le _) (length_skipRun_le c s)

/-- A text that is not empty has a statement of at least one byte. -/
theorem statementEnd_pos {s : List Char} (h : s ≠ []) : 0 < statementEnd s := by
  rw [Nat.pos_iff_ne_zero]
  intro hzero
  have hcut := sliceFrom?_statementEnd s
  rw [hzero, sliceFrom?_zero] at hcut
  have hshorter := length_afterStatement_lt h
  rw [← Option.some.inj hcut] at hshorter
  exact Nat.lt_irrefl _ hshorter

end Sluice.Scan
