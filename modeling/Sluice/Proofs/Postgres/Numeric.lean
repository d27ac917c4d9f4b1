import Sluice.Postgres.Numeric
import Sluice.Proofs.Bytes
import Sluice.Proofs.Number

/-!
# Texts and payloads of NUMERIC

What is rendered is always a decimal. An integer of eight bytes is a header without groups, so where
it can be read at all it is read as zero or as no number; the bytes of a decimal are no payload.
-/

namespace Sluice.Postgres.Numeric

/-! ## Texts -/

theorem groupAt_le {groups : List Nat} (h : ∀ g ∈ groups, g ≤ 9999) (i : Int) :
    groupAt groups i ≤ 9999 := by
  rw [groupAt]
  split
  · decide
  · cases hget : groups[i.toNat]? with
    | none => simp
    | some g => exact h g (List.mem_of_getElem? hget)

theorem isDigit_fourDigits {group : Nat} (h : group ≤ 9999) :
    ∀ c ∈ fourDigits group, c.isDigit = true := by
  intro c hc
  simp only [fourDigits, List.map_cons, List.map_nil, List.mem_cons, List.not_mem_nil,
    or_false] at hc
  rcases hc with rfl | rfl | rfl | rfl <;> rw [Nat.isDigit_digitChar] <;> simp <;> omega

theorem isDigit_integerPart {groups : List Nat} (h : ∀ g ∈ groups, g ≤ 9999) (weight : Int) :
    ∀ c ∈ integerPart groups weight, c.isDigit = true := by
  intro c hc
  rw [integerPart] at hc
  split at hc
  · rw [List.mem_singleton.mp hc]
    rfl
  · rcases List.mem_append.mp hc with hc | hc
    · exact Nat.isDigit_of_mem_toDigits (by decide) (by decide) hc
    · obtain ⟨i, -, hc⟩ := List.mem_flatMap.mp hc
      exact isDigit_fourDigits (groupAt_le h _) c hc

theorem integerPart_ne_nil (groups : List Nat) (weight : Int) : integerPart groups weight ≠ [] := by
  rw [integerPart]
  split
  · exact List.cons_ne_nil _ _
  · exact List.append_ne_nil_of_left_ne_nil Nat.toDigits_ne_nil _

theorem isDigit_fractionPart {groups : List Nat} (h : ∀ g ∈ groups, g ≤ 9999) (weight : Int)
    (scale : Nat) : ∀ c ∈ fractionPart groups weight scale, c.isDigit = true := by
  intro c hc
  obtain ⟨i, -, hc⟩ := List.mem_flatMap.mp (List.mem_of_mem_take hc)
  exact isDigit_fourDigits (groupAt_le h _) c hc

/-- What is rendered is a decimal as it may stand in a statement. -/
theorem isDecimalLiteral_render {groups : List Nat} (h : ∀ g ∈ groups, g ≤ 9999) (weight : Int)
    (sign scale : Nat) : isDecimalLiteral (render groups weight sign scale) = true := by
  have hne := integerPart_ne_nil groups weight
  have hinteger := isDigit_integerPart h weight
  have hbody := isDecimalBody_append hne hinteger (isDigit_fractionPart h weight scale)
  simp only [render, List.append_assoc]
  split
  · exact (isDecimalLiteral_minus _).trans hbody
  · refine (isDecimalLiteral_unsigned ?_).trans hbody
    rw [List.nil_append, List.head?_append_of_ne_nil _ hne]
    intro hminus
    exact absurd (hinteger _ (List.mem_of_head? hminus)) (by decide)

@[simp] theorem groupAt_nil (i : Int) : groupAt [] i = 0 := by
  rw [groupAt]
  split
  · rfl
  · rfl

theorem eq_zero_of_mem_fourDigits {c : Char} (h : c ∈ fourDigits 0) : c = '0' := by
  have hzeros : fourDigits 0 = List.replicate 4 '0' := rfl
  rw [hzeros] at h
  exact List.eq_of_mem_replicate h

theorem integerPart_nil {weight : Int} : ∀ c ∈ integerPart [] weight, c = '0' := by
  intro c hc
  rw [integerPart] at hc
  split at hc
  · exact List.mem_singleton.mp hc
  · rcases List.mem_append.mp hc with hc | hc
    · simpa using hc
    · obtain ⟨i, -, hc⟩ := List.mem_flatMap.mp hc
      rw [groupAt_nil] at hc
      exact eq_zero_of_mem_fourDigits hc

theorem fractionPart_nil {weight : Int} {scale : Nat} :
    ∀ c ∈ fractionPart [] weight scale, c = '0' := by
  intro c hc
  obtain ⟨i, -, hc⟩ := List.mem_flatMap.mp (List.mem_of_mem_take hc)
  rw [groupAt_nil] at hc
  exact eq_zero_of_mem_fourDigits hc

/-- A payload without groups spells zero. -/
theorem decimalNumber?_render_nil (weight : Int) (sign scale : Nat) :
    decimalNumber? (render [] weight sign scale) = some 0 := by
  refine decimalNumber?_eq_zero (isDecimalLiteral_render (by simp) weight sign scale) ?_
  intro c hc hdigit
  simp only [render, String.toList_ofList, List.mem_append] at hc
  rcases hc with (hc | hc) | hc
  · split at hc
    · rw [List.mem_singleton.mp hc] at hdigit
      exact absurd hdigit (by decide)
    · cases hc
  · exact integerPart_nil c hc
  · split at hc
    · cases hc
    · rcases List.mem_cons.mp hc with rfl | hc
      · exact absurd hdigit (by decide)
      · exact fractionPart_nil c hc

/-! ## Words -/

/-- Word `i` of an integer in two's complement, counted from the lowest. -/
def wordOf (i : Nat) (n : Int) : Nat := (n / 65536 ^ i % 65536).toNat

theorem words_concat {bytes : List UInt8} (h : bytes.length % 2 = 0) (high low : UInt8) :
    words (bytes ++ [high, low]) =
      words bytes ++ [high.toNat * 256 + low.toNat] := by
  fun_induction words bytes with
  | case1 first second rest ih =>
      have hrest : rest.length % 2 = 0 := by
        simp only [List.length_cons] at h
        omega
      simp only [List.cons_append, words, ih hrest]
  | case2 bytes hshort =>
      match bytes, hshort, h with
      | [], _, _ => rfl
      | [_], _, h => cases h
      | first :: second :: rest, hshort, _ => exact (hshort first second rest rfl).elim

theorem words_ofNat (count n : Nat) :
    words (Bytes.ofNat (2 * (count + 1)) n) =
      words (Bytes.ofNat (2 * count) (n / 65536)) ++ [n % 65536] := by
  have hbytes : Bytes.ofNat (2 * (count + 1)) n = Bytes.ofNat (2 * count) (n / 65536) ++
      [UInt8.ofNat (n / 256 % 256), UInt8.ofNat (n % 256)] := by
    have hwidth : 2 * (count + 1) = 2 * count + 1 + 1 := by omega
    rw [hwidth, Bytes.ofNat, Bytes.ofNat, List.append_assoc, Nat.div_div_eq_div_mul]
    rfl
  have hword : (UInt8.ofNat (n / 256 % 256)).toNat * 256 + (UInt8.ofNat (n % 256)).toNat =
      n % 65536 := by
    simp
    omega
  rw [hbytes, words_concat (by simp), hword]

/-- The words of an integer of eight bytes. -/
theorem words_ofInt (n : Int) :
    words (Bytes.ofInt 8 n) = [wordOf 3 n, wordOf 2 n, wordOf 1 n, wordOf 0 n] := by
  obtain ⟨m, hm⟩ : ∃ m : Nat, (n % (Nat.pow 256 8 : Nat)).toNat = m := ⟨_, rfl⟩
  have hpower : Nat.pow 256 8 = 18446744073709551616 := by decide
  rw [hpower] at hm
  have h3 : wordOf 3 n = m / 65536 / 65536 / 65536 % 65536 := by rw [wordOf]; omega
  have h2 : wordOf 2 n = m / 65536 / 65536 % 65536 := by rw [wordOf]; omega
  have h1 : wordOf 1 n = m / 65536 % 65536 := by rw [wordOf]; omega
  have h0 : wordOf 0 n = m % 65536 := by rw [wordOf]; omega
  rw [Bytes.ofInt, hpower, hm, h3, h2, h1, h0]
  rw [words_ofNat 3, words_ofNat 2, words_ofNat 1, words_ofNat 0]
  rfl

/-- Eight bytes are a header without groups. -/
theorem decode?_ofInt (n : Int) :
    decode? (Bytes.ofInt 8 n) =
      if wordOf 1 n = nanSign then some "NaN"
      else if wordOf 3 n = 0 then
        some (render [] (Int.bmod (wordOf 2 n) 65536) (wordOf 1 n) (wordOf 0 n))
      else none := by
  rw [decode?, words_ofInt]
  simp only [List.take_nil, List.length_nil, List.all_nil, Bool.and_true, decide_eq_true_eq,
    eq_comm (a := 0)]

theorem wordOf_three_eq_zero {n : Int} (hlow : -2 ^ 63 ≤ n) (hhigh : n < 2 ^ 63) :
    wordOf 3 n = 0 ↔ 0 ≤ n ∧ n < 2 ^ 48 := by
  rw [wordOf]
  omega

theorem words_bounds {raw : List UInt8} (h : AreDecimal raw) :
    ∀ w ∈ words raw, 11520 ≤ w ∧ w < 14848 := by
  fun_induction words raw with
  | case1 high low rest ih =>
      intro w hw
      have hhigh := h high (by simp)
      have hlow := low.toNat_lt
      rcases List.mem_cons.mp hw with rfl | hw
      · omega
      · exact ih (fun b hb => h b (by simp [hb])) w hw
  | case2 => exact fun w hw => absurd hw List.not_mem_nil

/-- Bytes of a decimal are no payload: as words they are too great for groups. -/
theorem decode?_digits {raw : List UInt8} (h : AreDecimal raw) :
    decode? raw = none := by
  have hbounds := words_bounds h
  rw [decode?]
  split
  · rename_i count weight sign scale rest hwords
    rw [hwords] at hbounds
    have hcount := hbounds count (by simp)
    have hsign := hbounds sign (by simp)
    have hnumber : sign ≠ nanSign := by
      rw [nanSign]
      omega
    rw [if_neg hnumber]
    have hgroups : ¬ ((rest.take count).length = count &&
        (rest.take count).all (· ≤ 9999)) = true := by
      rw [Bool.and_eq_true, decide_eq_true_eq, List.all_eq_true]
      rintro ⟨hlength, hall⟩
      obtain ⟨g, hg⟩ := List.exists_mem_of_length_pos (l := rest.take count) (by omega)
      have hgroup := hbounds g (by simp [List.mem_of_mem_take hg])
      have hle := of_decide_eq_true (hall g hg)
      omega
    rw [if_neg hgroups]
  · rfl

end Sluice.Postgres.Numeric
