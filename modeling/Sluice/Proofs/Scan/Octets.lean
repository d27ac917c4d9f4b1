import Mathlib.Data.List.TakeWhile
import Sluice.Scan

/-!
# Scanning bytes and scanning characters

Every byte of a character beyond ASCII is at least 128, so the scanner passes over it. Scanning the
bytes of a text therefore leaves the bytes of what scanning its characters leaves: the scanner stops
on character boundaries only.
-/

namespace Sluice.Scan

open Text

/-! ## The bytes of a character -/

theorem toNat_ofNat_of_lt {n : Nat} (h : n < 256) : (Char.ofNat n).toNat = n := by
  have hvalid : n.isValidChar := Or.inl (by omega)
  rw [Char.ofNat, dif_pos hvalid]
  rfl

theorem octetsOf_ascii {c : Char} (h : c.toNat < 128) : octetsOf c = [c] := by
  have hv : c.val.toNat ≤ 127 := by
    change c.toNat ≤ 127
    omega
  simp only [octetsOf, String.utf8EncodeChar, hv, ↓reduceIte, List.map_cons, List.map_nil,
    List.cons.injEq, and_true]
  rw [UInt8.toNat_ofNat', Nat.mod_eq_of_lt (by omega)]
  exact Char.ofNat_toNat c

theorem le_of_mem_utf8EncodeChar {c : Char} (h : 128 ≤ c.toNat) :
    ∀ b ∈ String.utf8EncodeChar c, 128 ≤ b.toNat := by
  have hv : ¬ c.val.toNat ≤ 127 := by
    change ¬ c.toNat ≤ 127
    omega
  intro b hb
  simp only [String.utf8EncodeChar, hv, ↓reduceIte] at hb
  split at hb
  · simp only [List.mem_cons, List.not_mem_nil, or_false] at hb
    rcases hb with rfl | rfl <;> simp <;> omega
  · split at hb
    · simp only [List.mem_cons, List.not_mem_nil, or_false] at hb
      rcases hb with rfl | rfl | rfl <;> simp <;> omega
    · simp only [List.mem_cons, List.not_mem_nil, or_false] at hb
      rcases hb with rfl | rfl | rfl | rfl <;> simp <;> omega

/-- Bytes that mean nothing to the scanner. -/
def Foreign (bs : List Char) : Prop := ∀ b ∈ bs, 128 ≤ b.toNat

theorem octetsOf_foreign {c : Char} (h : 128 ≤ c.toNat) : Foreign (octetsOf c) := by
  intro o ho
  obtain ⟨b, hb, rfl⟩ := List.mem_map.mp ho
  rw [toNat_ofNat_of_lt b.toNat_lt]
  exact le_of_mem_utf8EncodeChar h b hb

theorem octetsOf_ne_nil (c : Char) : octetsOf c ≠ [] := by
  simp [octetsOf, String.utf8EncodeChar_ne_nil]

@[simp] theorem length_octetsOf (c : Char) : (octetsOf c).length = c.utf8Size := by
  simp [octetsOf]

theorem Foreign.tail {b : Char} {bs : List Char} (h : Foreign (b :: bs)) : Foreign bs :=
  fun o ho => h o (List.mem_cons_of_mem b ho)

/-- A byte beyond ASCII is none of the scanner's characters. -/
theorem Foreign.ne {b c : Char} {bs : List Char} (h : Foreign (b :: bs)) (hc : c.toNat < 128) :
    b ≠ c := by
  rintro rfl
  have hb := h b List.mem_cons_self
  omega

/-! ## The bytes of a text -/

@[simp] theorem octets_nil : octets [] = [] := rfl

@[simp] theorem octets_append (s t : List Char) : octets (s ++ t) = octets s ++ octets t := by
  simp [octets]

theorem octets_cons (c : Char) (s : List Char) : octets (c :: s) = octetsOf c ++ octets s := rfl

theorem octets_cons_ascii {c : Char} (h : c.toNat < 128) (s : List Char) :
    octets (c :: s) = c :: octets s := by
  rw [octets_cons, octetsOf_ascii h]
  rfl

theorem octets_ascii {s : List Char} (h : ∀ c ∈ s, c.toNat < 128) : octets s = s := by
  induction s with
  | nil => rfl
  | cons c s ih =>
      rw [octets_cons_ascii (h c List.mem_cons_self), ih fun d hd => h d (List.mem_cons_of_mem c hd)]

@[simp] theorem length_octets (s : List Char) : (octets s).length = byteLength s := by
  induction s with
  | nil => rfl
  | cons c s ih => simp [octets_cons, byteLength, ih]

theorem octets_eq_nil {s : List Char} : octets s = [] ↔ s = [] := by
  cases s with
  | nil => simp
  | cons c s => simp [octets_cons, octetsOf_ne_nil]

theorem mem_of_mem_octets {a : Char} {s : List Char} (ha : a.toNat < 128) (h : a ∈ octets s) :
    a ∈ s := by
  obtain ⟨c, hc, hmem⟩ := List.mem_flatMap.mp h
  by_cases hascii : c.toNat < 128
  · rw [octetsOf_ascii hascii, List.mem_singleton] at hmem
    rw [hmem]
    exact hc
  · have hle := octetsOf_foreign (Nat.not_lt.mp hascii) a hmem
    omega

/-- An ASCII byte at the start of a text is its first character. -/
theorem eq_cons_of_octets {a : Char} {s t : List Char} (ha : a.toNat < 128)
    (h : octets s = a :: t) : ∃ s', s = a :: s' ∧ octets s' = t := by
  cases s with
  | nil => cases h
  | cons c s =>
      by_cases hc : c.toNat < 128
      · rw [octets_cons_ascii hc] at h
        obtain ⟨rfl, rfl⟩ := List.cons.inj h
        exact ⟨s, rfl, rfl⟩
      · have hforeign := octetsOf_foreign (Nat.not_lt.mp hc)
        rw [octets_cons] at h
        cases hbytes : octetsOf c with
        | nil => exact absurd hbytes (octetsOf_ne_nil c)
        | cons b bs =>
            rw [hbytes] at h hforeign
            exact absurd (List.cons.inj h).1 (hforeign.ne ha)

/-! ## Runs -/

theorem skipLine_foreign {bs : List Char} (h : Foreign bs) (s : List Char) :
    skipLine (bs ++ s) = skipLine s := by
  induction bs with
  | nil => rfl
  | cons b bs ih =>
      rw [List.cons_append, skipLine, if_neg (h.ne (by decide)), ih h.tail]

theorem skipLine_octets (s : List Char) : skipLine (octets s) = octets (skipLine s) := by
  induction s with
  | nil => rfl
  | cons c s ih =>
      by_cases hc : c.toNat < 128
      · rw [octets_cons_ascii hc, skipLine, skipLine]
        split
        · rfl
        · exact ih
      · rw [octets_cons, skipLine_foreign (octetsOf_foreign (Nat.not_lt.mp hc)), ih, skipLine,
          if_neg]
        rintro rfl
        exact hc (by decide)

theorem skipQuoted_foreign {close : Char} (hclose : close.toNat < 128) {bs : List Char}
    (h : Foreign bs) (s : List Char) : skipQuoted close (bs ++ s) = skipQuoted close s := by
  induction bs with
  | nil => rfl
  | cons b bs ih => rw [List.cons_append, skipQuoted, if_neg (h.ne hclose), ih h.tail]

theorem skipQuoted_octets {close : Char} (hclose : close.toNat < 128) (s : List Char) :
    skipQuoted close (octets s) = octets (skipQuoted close s) := by
  induction s with
  | nil => rfl
  | cons c s ih =>
      by_cases hc : c.toNat < 128
      · rw [octets_cons_ascii hc, skipQuoted, skipQuoted]
        split
        · rfl
        · exact ih
      · rw [octets_cons, skipQuoted_foreign hclose (octetsOf_foreign (Nat.not_lt.mp hc)), ih,
          skipQuoted, if_neg]
        rintro rfl
        exact hc hclose

/-- Unless a text starts with `*/`, the search goes on after its first character. -/
theorem skipBlock_cons {c : Char} {s : List Char} (h : ∀ t, c :: s ≠ '*' :: '/' :: t) :
    skipBlock (c :: s) = skipBlock s := by
  rw [skipBlock]
  rintro t rfl rfl
  exact h t rfl

theorem skipBlock_foreign {bs : List Char} (h : Foreign bs) (s : List Char) :
    skipBlock (bs ++ s) = skipBlock s := by
  induction bs with
  | nil => rfl
  | cons b bs ih =>
      rw [List.cons_append, skipBlock_cons, ih h.tail]
      intro t ht
      exact h.ne (by decide) (List.cons.inj ht).1

theorem skipBlock_octets (s : List Char) : skipBlock (octets s) = octets (skipBlock s) := by
  induction s with
  | nil => rfl
  | cons c s ih =>
      by_cases hc : c.toNat < 128
      · by_cases hclose : ∃ t, c :: s = '*' :: '/' :: t
        · obtain ⟨t, ht⟩ := hclose
          rw [ht, octets_cons_ascii (by decide), octets_cons_ascii (by decide), skipBlock, skipBlock]
        · rw [skipBlock_cons fun t ht => hclose ⟨t, ht⟩, octets_cons_ascii hc, skipBlock_cons, ih]
          intro t ht
          obtain ⟨rfl, hs⟩ := List.cons.inj ht
          obtain ⟨s', rfl, -⟩ := eq_cons_of_octets (by decide) hs
          exact hclose ⟨s', rfl⟩
      · have hforeign := octetsOf_foreign (Nat.not_lt.mp hc)
        rw [octets_cons, skipBlock_foreign hforeign, ih, skipBlock_cons]
        intro t ht
        rw [(List.cons.inj ht).1] at hc
        exact hc (by decide)

theorem dropPrefix?_octets {mark : List Char} (hmark : ∀ c ∈ mark, c.toNat < 128) (s : List Char) :
    dropPrefix? mark (octets s) = (dropPrefix? mark s).map octets := by
  induction mark generalizing s with
  | nil => rfl
  | cons m mark ih =>
      have hm := hmark m List.mem_cons_self
      cases s with
      | nil => rfl
      | cons c s =>
          by_cases hc : c.toNat < 128
          · rw [octets_cons_ascii hc, dropPrefix?, dropPrefix?]
            split
            · exact ih (fun d hd => hmark d (List.mem_cons_of_mem m hd)) s
            · rfl
          · have hne : m ≠ c := by
              rintro rfl
              exact hc hm
            have hforeign := octetsOf_foreign (Nat.not_lt.mp hc)
            rw [octets_cons, dropPrefix?, if_neg hne]
            cases hbytes : octetsOf c with
            | nil => exact absurd hbytes (octetsOf_ne_nil c)
            | cons b bs =>
                rw [hbytes] at hforeign
                rw [List.cons_append, dropPrefix?, if_neg (hforeign.ne hm).symm]
                rfl

theorem skipPast_foreign {m : Char} {mark : List Char} (hm : m.toNat < 128) {bs : List Char}
    (h : Foreign bs) (s : List Char) : skipPast (m :: mark) (bs ++ s) = skipPast (m :: mark) s := by
  induction bs with
  | nil => rfl
  | cons b bs ih =>
      rw [List.cons_append, skipPast, dropPrefix?, if_neg (h.ne hm).symm]
      exact ih h.tail

theorem skipPast_octets {m : Char} {mark : List Char} (hmark : ∀ c ∈ m :: mark, c.toNat < 128)
    (s : List Char) : skipPast (m :: mark) (octets s) = octets (skipPast (m :: mark) s) := by
  have hm := hmark m List.mem_cons_self
  induction s with
  | nil => rfl
  | cons c s ih =>
      by_cases hc : c.toNat < 128
      · rw [octets_cons_ascii hc, skipPast, skipPast, ← octets_cons_ascii hc,
          dropPrefix?_octets hmark]
        cases dropPrefix? (m :: mark) (c :: s) with
        | none => exact ih
        | some after => rfl
      · have hne : m ≠ c := by
          rintro rfl
          exact hc hm
        rw [octets_cons, skipPast_foreign hm (octetsOf_foreign (Nat.not_lt.mp hc)), ih, skipPast,
          dropPrefix?, if_neg hne]

/-! ## Dollar quotes -/

theorem toNat_lt_of_isWordChar {c : Char} (h : isWordChar c = true) : c.toNat < 128 := by
  have hlt : ∀ last : Char, c.val ≤ last.val → last.toNat < 128 → c.toNat < 128 :=
    fun _ hc hlast => Nat.lt_of_le_of_lt (UInt32.le_iff_toNat_le.mp hc) hlast
  rcases Bool.or_eq_true_iff.mp h with h | h
  · rcases Bool.or_eq_true_iff.mp h with h | h
    · rcases Bool.or_eq_true_iff.mp h with h | h
      · exact hlt 'Z' (of_decide_eq_true h : 'A'.val ≤ c.val ∧ c.val ≤ 'Z'.val).2 (by decide)
      · exact hlt 'z' (of_decide_eq_true (Bool.and_eq_true_iff.mp h).2) (by decide)
    · exact Nat.lt_of_le_of_lt (Char.isDigit_iff_toNat.mp h).2 (by decide)
  · rw [beq_iff_eq.mp h]
    decide

theorem isWordChar_of_le {c : Char} (h : 128 ≤ c.toNat) : isWordChar c = false :=
  Bool.eq_false_iff.mpr fun hword => Nat.not_lt.mpr h (toNat_lt_of_isWordChar hword)

theorem takeWhile_isWordChar_octets (s : List Char) :
    (octets s).takeWhile isWordChar = s.takeWhile isWordChar := by
  induction s with
  | nil => rfl
  | cons c s ih =>
      by_cases hc : c.toNat < 128
      · rw [octets_cons_ascii hc, List.takeWhile_cons, List.takeWhile_cons, ih]
      · have hle := Nat.not_lt.mp hc
        have hforeign := octetsOf_foreign hle
        rw [octets_cons, List.takeWhile_cons_of_neg (by simp [isWordChar_of_le hle])]
        cases hbytes : octetsOf c with
        | nil => exact absurd hbytes (octetsOf_ne_nil c)
        | cons b bs =>
            rw [hbytes] at hforeign
            rw [List.cons_append, List.takeWhile_cons_of_neg]
            simp [isWordChar_of_le (hforeign b List.mem_cons_self)]

theorem drop_length_takeWhile (p : Char → Bool) (s : List Char) :
    s.drop (s.takeWhile p).length = s.dropWhile p := by
  induction s with
  | nil => rfl
  | cons c s ih => by_cases h : p c <;> simp [h, ih]

/-- A dollar quote opens in the bytes where it opens in the text. -/
theorem drop_tag_octets (s : List Char) :
    (octets s).drop (s.takeWhile isWordChar).length = octets (s.dropWhile isWordChar) := by
  have htag : ∀ c ∈ s.takeWhile isWordChar, c.toNat < 128 := fun c hc =>
    toNat_lt_of_isWordChar (List.mem_takeWhile_imp hc)
  calc
    (octets s).drop (s.takeWhile isWordChar).length =
        (octets (s.takeWhile isWordChar ++ s.dropWhile isWordChar)).drop
          (s.takeWhile isWordChar).length := by rw [List.takeWhile_append_dropWhile]
    _ = octets (s.dropWhile isWordChar) := by
        rw [octets_append, octets_ascii htag, List.drop_left]

theorem skipDollar_octets (s : List Char) : skipDollar (octets s) = octets (skipDollar s) := by
  have hmark : ∀ c ∈ '$' :: (s.takeWhile isWordChar ++ ['$']), c.toNat < 128 := by
    intro c hc
    rcases List.mem_cons.mp hc with rfl | hc
    · decide
    · rcases List.mem_append.mp hc with hc | hc
      · exact toNat_lt_of_isWordChar (List.mem_takeWhile_imp hc)
      · rw [List.mem_singleton.mp hc]
        decide
  simp only [skipDollar, takeWhile_isWordChar_octets, drop_tag_octets, drop_length_takeWhile]
  by_cases hopen : ∃ body, s.dropWhile isWordChar = '$' :: body
  · obtain ⟨body, hbody⟩ := hopen
    rw [hbody, octets_cons_ascii (by decide)]
    exact skipPast_octets hmark body
  · split
    · rename_i hopen'
      obtain ⟨body, hbody, -⟩ := eq_cons_of_octets (by decide) hopen'
      exact absurd ⟨body, hbody⟩ hopen
    · split
      · rename_i body hbody
        exact absurd ⟨body, hbody⟩ hopen
      · rfl

/-! ## Statements and trivia -/

/-- A byte beyond ASCII opens no run. -/
theorem skipRun_of_le {c : Char} (h : 128 ≤ c.toNat) (s : List Char) : skipRun c s = s := by
  have hne : ∀ d : Char, d.toNat < 128 → c ≠ d := by
    rintro d hd rfl
    omega
  unfold skipRun
  split
  · exact absurd rfl (hne _ (by decide))
  · exact absurd rfl (hne _ (by decide))
  · exact absurd rfl (hne _ (by decide))
  · exact absurd rfl (hne _ (by decide))
  · exact absurd rfl (hne _ (by decide))
  · exact absurd rfl (hne _ (by decide))
  · exact absurd rfl (hne _ (by decide))
  · rfl

theorem skipRun_octets (c : Char) (s : List Char) : skipRun c (octets s) = octets (skipRun c s) := by
  rw [skipRun.eq_def c (octets s)]
  split
  · exact skipQuoted_octets (by decide) s
  · exact skipQuoted_octets (by decide) s
  · exact skipQuoted_octets (by decide) s
  · exact skipQuoted_octets (by decide) s
  · rename_i heq
    obtain ⟨s, rfl, rfl⟩ := eq_cons_of_octets (by decide) heq
    exact skipLine_octets s
  · rename_i heq
    obtain ⟨s, rfl, rfl⟩ := eq_cons_of_octets (by decide) heq
    exact skipBlock_octets s
  · exact skipDollar_octets s
  · rename_i h₁ h₂ h₃ h₄ hdollar hline hblock
    rw [skipRun.eq_def]
    split
    · exact absurd rfl h₁
    · exact absurd rfl h₂
    · exact absurd rfl h₃
    · exact absurd rfl h₄
    · exact (hline _ rfl (octets_cons_ascii (by decide) _)).elim
    · exact (hblock _ rfl (octets_cons_ascii (by decide) _)).elim
    · exact absurd rfl hdollar
    · rfl

theorem afterStatement_cons {c : Char} (h : c ≠ ';') (s : List Char) :
    afterStatement (c :: s) = afterStatement (skipRun c s) := by
  rw [afterStatement, if_neg h]

theorem afterStatement_foreign {bs : List Char} (h : Foreign bs) (s : List Char) :
    afterStatement (bs ++ s) = afterStatement s := by
  induction bs with
  | nil => rfl
  | cons b bs ih =>
      rw [List.cons_append, afterStatement_cons (h.ne (by decide)),
        skipRun_of_le (h b List.mem_cons_self), ih h.tail]

/-- A statement ends at the same place in the bytes as in the text. -/
theorem afterStatement_octets (s : List Char) :
    afterStatement (octets s) = octets (afterStatement s) := by
  fun_induction afterStatement s with
  | case1 => rw [octets_nil, afterStatement]
  | case2 rest => rw [octets_cons_ascii (by decide), afterStatement, if_pos rfl]
  | case3 c rest hc ih =>
      by_cases hascii : c.toNat < 128
      · rw [octets_cons_ascii hascii, afterStatement_cons hc, skipRun_octets, ih]
      · have hle := Nat.not_lt.mp hascii
        rw [octets_cons, afterStatement_foreign (octetsOf_foreign hle), ← ih, skipRun_of_le hle]

/-- The scanner's blanks, and the semicolon of an empty statement. -/
def isPadding (c : Char) : Bool := isAsciiBlank c || c = ';'

theorem toNat_lt_of_isPadding {c : Char} (h : isPadding c = true) : c.toNat < 128 := by
  simp only [isPadding, isAsciiBlank, Bool.or_eq_true, decide_eq_true_eq] at h
  rcases h with ((((rfl | rfl) | rfl) | rfl) | rfl) | rfl <;> decide

theorem skipTrivia_padding {c : Char} (h : isPadding c = true) (s : List Char) :
    skipTrivia (c :: s) = skipTrivia s := by
  rw [skipTrivia.eq_def]
  exact if_pos h

theorem skipTrivia_line (s : List Char) :
    skipTrivia ('-' :: '-' :: s) = skipTrivia (skipLine s) := by
  rw [skipTrivia.eq_def]
  rfl

theorem skipTrivia_block (s : List Char) :
    skipTrivia ('/' :: '*' :: s) = skipTrivia (skipBlock s) := by
  rw [skipTrivia.eq_def]
  rfl

/-- Neither padding nor a comment stands at the start of a text. -/
structure Settled (s : List Char) : Prop where
  padding : ∀ c t, s = c :: t → isPadding c = false
  line : ∀ t, s ≠ '-' :: '-' :: t
  block : ∀ t, s ≠ '/' :: '*' :: t

theorem Settled.skipTrivia_eq {s : List Char} (h : Settled s) : skipTrivia s = s := by
  cases s with
  | nil => rw [skipTrivia]
  | cons c s =>
      rw [skipTrivia.eq_def]
      refine (if_neg (Bool.eq_false_iff.mp (h.padding c s rfl))).trans ?_
      split
      · rename_i t
        exact absurd rfl (h.line t)
      · rename_i t
        exact absurd rfl (h.block t)
      · rfl

theorem settled_cons {c : Char} {s : List Char} (hpadding : ¬ isPadding c = true)
    (hline : ∀ t, c = '-' → s = '-' :: t → False)
    (hblock : ∀ t, c = '/' → s = '*' :: t → False) : Settled (c :: s) := by
  refine ⟨?_, ?_, ?_⟩
  · intro d t h
    rw [← (List.cons.inj h).1]
    exact Bool.eq_false_iff.mpr hpadding
  · intro t h
    exact hline t (List.cons.inj h).1 (List.cons.inj h).2
  · intro t h
    exact hblock t (List.cons.inj h).1 (List.cons.inj h).2

theorem settled_nil : Settled [] :=
  ⟨fun _ _ h => (List.cons_ne_nil _ _ h.symm).elim, fun _ => (List.cons_ne_nil _ _).symm,
    fun _ => (List.cons_ne_nil _ _).symm⟩

/-- What is left once the trivia are gone starts with none. -/
theorem settled_skipTrivia (s : List Char) : Settled (skipTrivia s) := by
  fun_induction skipTrivia s with
  | case1 => exact settled_nil
  | case2 _ _ _ ih => exact ih
  | case3 _ _ ih => exact ih
  | case4 _ _ ih => exact ih
  | case5 c rest hpadding hline hblock => exact settled_cons hpadding hline hblock

theorem skipTrivia_idem (s : List Char) : skipTrivia (skipTrivia s) = skipTrivia s :=
  (settled_skipTrivia s).skipTrivia_eq

theorem Settled.octets {s : List Char} (h : Settled s) : Settled (octets s) := by
  refine ⟨?_, ?_, ?_⟩
  · intro c t hs
    refine Bool.eq_false_iff.mpr fun hpadding => ?_
    obtain ⟨s', rfl, -⟩ := eq_cons_of_octets (toNat_lt_of_isPadding hpadding) hs
    exact Bool.eq_false_iff.mp (h.padding c s' rfl) hpadding
  · intro t hs
    obtain ⟨s', rfl, hs'⟩ := eq_cons_of_octets (by decide) hs
    obtain ⟨s'', rfl, -⟩ := eq_cons_of_octets (by decide) hs'
    exact h.line s'' rfl
  · intro t hs
    obtain ⟨s', rfl, hs'⟩ := eq_cons_of_octets (by decide) hs
    obtain ⟨s'', rfl, -⟩ := eq_cons_of_octets (by decide) hs'
    exact h.block s'' rfl

/-- Trivia end at the same place in the bytes as in the text. -/
theorem skipTrivia_octets (s : List Char) : skipTrivia (octets s) = octets (skipTrivia s) := by
  induction s using skipTrivia.induct with
  | case1 => rw [octets_nil, skipTrivia, octets_nil]
  | case2 c rest hpadding ih =>
      rw [octets_cons_ascii (toNat_lt_of_isPadding hpadding), skipTrivia_padding hpadding,
        skipTrivia_padding hpadding, ih]
  | case3 after _ ih =>
      rw [octets_cons_ascii (by decide), octets_cons_ascii (by decide), skipTrivia_line,
        skipTrivia_line, skipLine_octets, ih]
  | case4 after _ ih =>
      rw [octets_cons_ascii (by decide), octets_cons_ascii (by decide), skipTrivia_block,
        skipTrivia_block, skipBlock_octets, ih]
  | case5 c rest hpadding hline hblock =>
      have hsettled := settled_cons hpadding hline hblock
      rw [hsettled.skipTrivia_eq, hsettled.octets.skipTrivia_eq]

end Sluice.Scan
