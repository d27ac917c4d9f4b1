import Mathlib.Algebra.Order.Field.Basic
import Mathlib.Algebra.Order.Field.Rat
import Mathlib.Data.List.Induction
import Mathlib.Tactic.Linarith
import Sluice.Text.Utf8
import Sluice.Translation

/-!
# The numbers of values

Integers are numbers, and decimals spell them. A decimal stays below the power of ten that its
length allows, and its characters are bytes of their own.
-/

namespace Sluice

open Text

/-- The number that a decimal spells. -/
def decimalNumber? (s : String) : Option ℚ :=
  if isDecimalLiteral s then
    let digits := s.toList.filter Char.isDigit
    let scale := (s.toList.dropWhile (· ≠ '.')).length - 1
    let magnitude : ℚ := Nat.ofDigitChars 10 digits 0 / 10 ^ scale
    some (if s.toList.head? = some '-' then -magnitude else magnitude)
  else none

/-- The number of an integer or of a decimal. -/
def Value.number? : Value → Option ℚ
  | .int n => some n.toInt
  | .decimal s => decimalNumber? s
  | _ => none

theorem isDecimalLiteral_of_number {s : String} {q : ℚ} (h : decimalNumber? s = some q) :
    isDecimalLiteral s = true := by
  rw [decimalNumber?] at h
  split at h
  · assumption
  · cases h

theorem ofDigitChars_lt {digits : List Char} (h : ∀ c ∈ digits, c.isDigit = true) :
    Nat.ofDigitChars 10 digits 0 < 10 ^ digits.length := by
  induction digits using List.reverseRecOn with
  | nil => decide
  | append_singleton digits c ih =>
      have hbelow := ih fun d hd => h d (List.mem_append_left _ hd)
      have hc : c.toNat - '0'.toNat < 10 := by
        have hdigit := h c (by simp)
        have hhigh : c.toNat ≤ 57 := by simpa using (Char.isDigit_iff_toNat.mp hdigit).2
        have hzero : '0'.toNat = 48 := rfl
        omega
      rw [Nat.ofDigitChars_append, List.length_append, List.length_singleton, Nat.pow_succ]
      simp only [Nat.ofDigitChars, List.foldl_cons, List.foldl_nil] at hbelow ⊢
      omega

/-- Digits cut off at the end divide by the power of ten of their number. -/
theorem ofDigitChars_append_div (digits : List Char) {cut : List Char}
    (h : ∀ c ∈ cut, c.isDigit = true) :
    Nat.ofDigitChars 10 (digits ++ cut) 0 / 10 ^ cut.length = Nat.ofDigitChars 10 digits 0 := by
  rw [Nat.ofDigitChars_append, Nat.ofDigitChars_eq_ofDigitChars_zero, Nat.mul_add_div (by positivity),
    Nat.div_eq_of_lt (ofDigitChars_lt h), Nat.add_zero]

/-- A decimal of so many characters stays below that power of ten. -/
theorem decimalNumber?_lt {s : String} {q : ℚ} (h : decimalNumber? s = some q) :
    q < 10 ^ s.toList.length := by
  rw [decimalNumber?, if_pos (isDecimalLiteral_of_number h)] at h
  set digits := s.toList.filter Char.isDigit
  set scale := (s.toList.dropWhile (· ≠ '.')).length - 1
  have hdigits : ∀ c ∈ digits, c.isDigit = true := fun c hc => (List.mem_filter.mp hc).2
  have hsize : digits.length ≤ s.toList.length := List.length_filter_le _ _
  have hspelled : (Nat.ofDigitChars 10 digits 0 : ℚ) < 10 ^ s.toList.length := by
    exact_mod_cast (ofDigitChars_lt hdigits).trans_le (Nat.pow_le_pow_right (by decide) hsize)
  have hscale : (1 : ℚ) ≤ 10 ^ scale := one_le_pow₀ (by norm_num)
  have hmagnitude := div_le_self (Nat.cast_nonneg (α := ℚ) (Nat.ofDigitChars 10 digits 0)) hscale
  have hpos : (0 : ℚ) ≤ Nat.ofDigitChars 10 digits 0 / 10 ^ scale := by positivity
  rw [← Option.some.inj h]
  split
  · linarith
  · linarith

/-- No number but zero is written with a zero in front. -/
theorem eq_zero_of_head?_toDigits {n : Nat} (h : (Nat.toDigits 10 n).head? = some '0') : n = 0 := by
  obtain ⟨rest, hrest⟩ := List.head?_eq_some_iff.mp h
  have hvalue : Nat.ofDigitChars 10 rest 0 = n := by
    rw [← Nat.ofDigitChars_ten_toDigits (n := n), hrest]
    rfl
  have hdigits : ∀ c ∈ rest, c.isDigit = true := fun c hc =>
    Nat.isDigit_of_mem_toDigits (by decide) (by decide) (hrest ▸ List.mem_cons_of_mem '0' hc)
  have hlt := ofDigitChars_lt hdigits
  by_contra hne
  cases rest with
  | nil => exact hne hvalue.symm
  | cons c rest =>
      rw [hvalue, ← Nat.length_toDigits_le_iff (by decide) (by simp), hrest] at hlt
      simp at hlt

theorem ofDigitChars_zeros {digits : List Char} (h : ∀ c ∈ digits, c = '0') :
    Nat.ofDigitChars 10 digits 0 = 0 := by
  induction digits with
  | nil => rfl
  | cons c digits ih =>
      rw [h c List.mem_cons_self, Nat.ofDigitChars_cons]
      exact ih fun d hd => h d (List.mem_cons_of_mem c hd)

theorem decimalNumber?_eq_zero {s : String} (hliteral : isDecimalLiteral s = true)
    (hzeros : ∀ c ∈ s.toList, c.isDigit = true → c = '0') : decimalNumber? s = some 0 := by
  have hfold : Nat.ofDigitChars 10 (s.toList.filter Char.isDigit) 0 = 0 := by
    refine ofDigitChars_zeros fun c hc => ?_
    obtain ⟨hmem, hdigit⟩ := List.mem_filter.mp hc
    exact hzeros c hmem hdigit
  rw [decimalNumber?, if_pos hliteral]
  simp [hfold]

theorem decimalNumber?_nan : decimalNumber? "NaN" = none := by
  have hno : ¬ isDecimalLiteral "NaN" = true := by decide
  rw [decimalNumber?, if_neg hno]

/-! ## Characters of decimals -/

/-- The digits of a decimal with a point among them, or without. -/
def isDecimalBody (digits : List Char) : Bool :=
  digits.countP (· = '.') ≤ 1 && digits.all (fun c => c.isDigit || c = '.') &&
    digits.any Char.isDigit

theorem isDecimalLiteral_minus (digits : List Char) :
    isDecimalLiteral (String.ofList ('-' :: digits)) = isDecimalBody digits := by
  rw [isDecimalLiteral, String.toList_ofList]
  rfl

theorem isDecimalLiteral_unsigned {digits : List Char} (h : digits.head? ≠ some '-') :
    isDecimalLiteral (String.ofList digits) = isDecimalBody digits := by
  rw [isDecimalLiteral, String.toList_ofList]
  split
  · exact absurd rfl h
  · rfl

theorem countP_point {digits : List Char} (h : ∀ c ∈ digits, c.isDigit = true) :
    digits.countP (· = '.') = 0 := by
  rw [List.countP_eq_zero]
  intro c hc heq
  rw [of_decide_eq_true heq] at hc
  exact absurd (h _ hc) (by decide)

/-- Digits, and other digits behind a point if there are any. -/
theorem isDecimalBody_append {integer fraction : List Char} (hne : integer ≠ [])
    (hinteger : ∀ c ∈ integer, c.isDigit = true) (hfraction : ∀ c ∈ fraction, c.isDigit = true) :
    isDecimalBody (integer ++ if fraction.isEmpty then [] else '.' :: fraction) = true := by
  set point := if fraction.isEmpty then [] else '.' :: fraction with hpoint
  have hcount : (integer ++ point).countP (· = '.') ≤ 1 := by
    rw [List.countP_append, countP_point hinteger, hpoint]
    split
    · simp
    · simp [countP_point hfraction]
  have hall : (integer ++ point).all (fun c => c.isDigit || c = '.') = true := by
    rw [List.all_append, Bool.and_eq_true, List.all_eq_true, List.all_eq_true]
    refine ⟨fun c hc => by rw [hinteger c hc, Bool.true_or], fun c hc => ?_⟩
    rw [hpoint] at hc
    split at hc
    · cases hc
    · rcases List.mem_cons.mp hc with rfl | hc
      · rfl
      · rw [hfraction c hc, Bool.true_or]
  have hany : (integer ++ point).any Char.isDigit = true := by
    obtain ⟨c, hc⟩ := List.exists_mem_of_ne_nil integer hne
    exact List.any_eq_true.mpr ⟨c, List.mem_append_left _ hc, hinteger c hc⟩
  rw [isDecimalBody, hall, hany, decide_eq_true hcount]
  rfl

/-- The number of a decimal whose parts are given, the point standing only before digits. -/
theorem decimalNumber?_ofParts {integer fraction : List Char} (negative : Bool)
    (hne : integer ≠ []) (hinteger : ∀ c ∈ integer, c.isDigit = true)
    (hfraction : ∀ c ∈ fraction, c.isDigit = true) :
    decimalNumber? (String.ofList ((if negative then ['-'] else []) ++ integer ++
        if fraction.isEmpty then [] else '.' :: fraction)) =
      some ((if negative then -1 else 1 : ℚ) *
        ((Nat.ofDigitChars 10 (integer ++ fraction) 0 : ℚ) / 10 ^ fraction.length)) := by
  set sign : List Char := if negative then ['-'] else [] with hsign
  set point := if fraction.isEmpty then [] else '.' :: fraction with hpoint
  have hbody := isDecimalBody_append hne hinteger hfraction
  have hhead : integer.head? ≠ some '-' := fun hminus =>
    absurd (hinteger _ (List.mem_of_head? hminus)) (by decide)
  have hliteral : isDecimalLiteral (String.ofList (sign ++ integer ++ point)) = true := by
    rw [hsign, List.append_assoc]
    cases negative with
    | true => exact (isDecimalLiteral_minus _).trans hbody
    | false =>
        refine (isDecimalLiteral_unsigned ?_).trans hbody
        simpa [hne] using hhead
  have hfilter : (sign ++ integer ++ point).filter Char.isDigit = integer ++ fraction := by
    have hminus : sign.filter Char.isDigit = [] := by
      rw [hsign]
      cases negative <;> rfl
    have hdigits : point.filter Char.isDigit = fraction := by
      rw [hpoint]
      cases fraction with
      | nil => rfl
      | cons c fraction =>
          rw [List.isEmpty_cons, if_neg Bool.false_ne_true, List.filter_cons_of_neg (by decide)]
          exact List.filter_eq_self.mpr hfraction
    rw [List.filter_append, List.filter_append, hminus, hdigits,
      List.filter_eq_self.mpr hinteger, List.nil_append]
  have hscale : ((sign ++ integer ++ point).dropWhile (· ≠ '.')).length - 1 = fraction.length := by
    have hbefore : ∀ c ∈ sign ++ integer, decide (c ≠ '.') = true := by
      intro c hc
      rcases List.mem_append.mp hc with hc | hc
      · rw [hsign] at hc
        cases negative <;> simp_all
      · refine decide_eq_true fun heq => ?_
        exact absurd (heq ▸ hinteger c hc) (by decide)
    rw [List.dropWhile_append_of_pos hbefore, hpoint]
    cases fraction <;> simp
  have hnegative : (sign ++ integer ++ point).head? = some '-' ↔ negative = true := by
    rw [hsign]
    cases negative with
    | true => simp
    | false => simpa [hne] using hhead
  rw [decimalNumber?, if_pos hliteral]
  simp only [String.toList_ofList, hfilter, hscale, hnegative]
  cases negative <;> simp

theorem toNat_of_mem_literal {s : String} (h : isDecimalLiteral s = true) :
    ∀ c ∈ s.toList, 45 ≤ c.toNat ∧ c.toNat < 58 := by
  have hbody (l : List Char) (hl : l.all (fun c => c.isDigit || c = '.') = true) :
      ∀ c ∈ l, 45 ≤ c.toNat ∧ c.toNat < 58 := by
    intro c hc
    rcases Bool.or_eq_true_iff.mp (List.all_eq_true.mp hl c hc) with hdigit | hpoint
    · have hrange := Char.isDigit_iff_toNat.mp hdigit
      have hzero : '0'.toNat = 48 := rfl
      have hnine : '9'.toNat = 57 := rfl
      omega
    · rw [of_decide_eq_true hpoint]
      decide
  simp only [isDecimalLiteral, Bool.and_eq_true] at h
  have hall := h.1.2
  intro c hc
  split at hall
  · rename_i rest hminus
    rw [hminus] at hc
    rcases List.mem_cons.mp hc with rfl | hc
    · decide
    · exact hbody rest hall c hc
  · exact hbody s.toList hall c hc

/-- Bytes of digits, the point and the minus. -/
def AreDecimal (raw : List UInt8) : Prop := ∀ b ∈ raw, 45 ≤ b.toNat ∧ b.toNat < 58

/-- A decimal has a byte for each character. -/
theorem areDecimal_utf8 {s : String} (h : isDecimalLiteral s = true) :
    (utf8 s).length = s.toList.length ∧ AreDecimal (utf8 s) := by
  have hchars := toNat_of_mem_literal h
  rw [utf8]
  generalize s.toList = l at hchars
  induction l with
  | nil => simp [AreDecimal]
  | cons c l ih =>
      have hc := hchars c List.mem_cons_self
      obtain ⟨hlength, hbytes⟩ := ih fun d hd => hchars d (List.mem_cons_of_mem c hd)
      have hv : c.val.toNat ≤ 127 := by
        change c.toNat ≤ 127
        omega
      have hencode : String.utf8EncodeChar c = [UInt8.ofNat c.toNat] := by
        simp only [String.utf8EncodeChar, hv, ↓reduceIte]
        rfl
      have hbyte : (UInt8.ofNat c.toNat).toNat = c.toNat := by
        rw [UInt8.toNat_ofNat']
        omega
      rw [List.flatMap_cons, hencode]
      refine ⟨by simp [hlength], fun b hb => ?_⟩
      rcases List.mem_cons.mp hb with rfl | hb
      · rw [hbyte]
        exact hc
      · exact hbytes b hb

end Sluice
