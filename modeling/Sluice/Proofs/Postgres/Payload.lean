import Mathlib.Algebra.BigOperators.Fin
import Mathlib.Algebra.Order.Field.Power
import Mathlib.Algebra.Order.Floor.Semifield
import Mathlib.Data.Rat.Floor
import Mathlib.Tactic.FieldSimp
import Sluice.Proofs.Postgres.Numeric

/-!
# The number that a payload denotes

A payload of NUMERIC announces groups, a weight, a sign and a scale. Its number is the sum of the
groups, each times its power of ten thousand, and the text that is read spells this number, cut off
after as many places as the scale says. Nothing is read only where something announced is missing.
-/

namespace Sluice.Postgres.Numeric

/-! ## Payloads -/

/-- Word `i` of a payload. -/
def word? (raw : List UInt8) (i : Nat) : Option Nat := do
  let high ← raw[2 * i]?
  let low ← raw[2 * i + 1]?
  return high.toNat * 256 + low.toNat

/-- A complete header, behind which all the groups stand that it announces. -/
structure Announces (raw : List UInt8) (groups : List Nat) (weight : Int) (sign scale : Nat) :
    Prop where
  count : word? raw 0 = some groups.length
  weight : (word? raw 1).map (fun w : Nat => Int.bmod w 65536) = some weight
  sign : word? raw 2 = some sign
  scale : word? raw 3 = some scale
  group : ∀ i g, groups[i]? = some g → word? raw (4 + i) = some g
  group_le : ∀ g ∈ groups, g ≤ 9999

/-- Something is missing that a payload should hold. -/
inductive Lacks (raw : List UInt8) : Prop where
  | header : raw.length < 8 → Lacks raw
  | group {count i : Nat} : word? raw 0 = some count → i < count →
      (∀ g, word? raw (4 + i) = some g → 9999 < g) → Lacks raw

theorem getElem?_words (raw : List UInt8) (i : Nat) : (words raw)[i]? = word? raw i := by
  fun_induction words raw generalizing i with
  | case1 high low rest ih =>
      cases i with
      | zero => rfl
      | succ i => exact ih i
  | case2 raw hshort =>
      cases raw with
      | nil => rfl
      | cons first raw =>
          cases raw with
          | nil => cases i <;> rfl
          | cons second rest => exact (hshort first second rest rfl).elim

theorem exists_word? {raw : List UInt8} {i : Nat} (h : 2 * i + 1 < raw.length) :
    ∃ w, word? raw i = some w := by
  rw [word?, List.getElem?_eq_getElem h, List.getElem?_eq_getElem (by omega)]
  exact ⟨_, rfl⟩

/-- Four words and the groups behind them. -/
theorem words_of_header {raw : List UInt8} {count weight sign scale : Nat}
    (hcount : word? raw 0 = some count) (hweight : word? raw 1 = some weight)
    (hsign : word? raw 2 = some sign) (hscale : word? raw 3 = some scale) :
    ∃ rest, words raw = count :: weight :: sign :: scale :: rest ∧
      ∀ i, rest[i]? = word? raw (4 + i) := by
  simp only [← getElem?_words] at hcount hweight hsign hscale ⊢
  match hwords : words raw with
  | [] => simp [hwords] at hcount
  | [_] => simp [hwords] at hweight
  | [_, _] => simp [hwords] at hsign
  | [_, _, _] => simp [hwords] at hscale
  | a :: b :: c :: d :: rest =>
      simp only [hwords, List.getElem?_cons_zero, List.getElem?_cons_succ, Option.some.injEq]
        at hcount hweight hsign hscale
      refine ⟨rest, by rw [hcount, hweight, hsign, hscale], fun i => ?_⟩
      rw [Nat.add_comm 4 i]
      rfl

theorem decode?_of_words {raw : List UInt8} {count weight sign scale : Nat} {rest : List Nat}
    (h : words raw = count :: weight :: sign :: scale :: rest) (hsign : sign ≠ nanSign) :
    decode? raw =
      if (rest.take count).length = count ∧ ∀ g ∈ rest.take count, g ≤ 9999 then
        some (render (rest.take count) (Int.bmod weight 65536) sign scale)
      else none := by
  simp only [decode?, h, if_neg hsign, Bool.and_eq_true, decide_eq_true_eq, List.all_eq_true]

theorem Announces.decode?_eq {raw : List UInt8} {groups : List Nat} {weight : Int}
    {sign scale : Nat} (h : Announces raw groups weight sign scale) (hsign : sign ≠ nanSign) :
    decode? raw = some (render groups weight sign scale) := by
  obtain ⟨w, hweight, rfl⟩ := Option.map_eq_some_iff.mp h.weight
  obtain ⟨rest, hwords, hrest⟩ := words_of_header h.count hweight h.sign h.scale
  have hgroups : rest.take groups.length = groups := by
    apply List.ext_getElem?
    intro i
    rw [List.getElem?_take]
    split
    · rename_i hi
      rw [hrest, h.group i _ (List.getElem?_eq_getElem hi), List.getElem?_eq_getElem hi]
    · rename_i hi
      rw [List.getElem?_eq_none (by omega)]
  rw [decode?_of_words hwords hsign, hgroups, if_pos ⟨rfl, h.group_le⟩]

/-- A payload announces all that it should hold, unless something is missing. -/
theorem exists_announces {raw : List UInt8} (h : ¬ Lacks raw) :
    ∃ groups weight sign scale, Announces raw groups weight sign scale := by
  have hlong : 8 ≤ raw.length := by
    by_contra hshort
    exact h (.header (by omega))
  have hword : ∀ i < 4, ∃ n, word? raw i = some n := fun i hi => exists_word? (by omega)
  obtain ⟨count, hcount⟩ := hword 0 (by decide)
  obtain ⟨weight, hweight⟩ := hword 1 (by decide)
  obtain ⟨sign, hsign⟩ := hword 2 (by decide)
  obtain ⟨scale, hscale⟩ := hword 3 (by decide)
  have hgroup : ∀ i, i < count → ∃ g, word? raw (4 + i) = some g ∧ g ≤ 9999 := by
    intro i hi
    by_contra hnone
    refine h (.group hcount hi fun g hg => ?_)
    by_contra hle
    exact hnone ⟨g, hg, by omega⟩
  obtain ⟨rest, -, hrest⟩ := words_of_header hcount hweight hsign hscale
  have hlength : (rest.take count).length = count := by
    rw [List.length_take, Nat.min_eq_left]
    by_contra hshort
    obtain ⟨g, hg, -⟩ := hgroup rest.length (by omega)
    rw [← hrest] at hg
    simp at hg
  have htake : ∀ i g, (rest.take count)[i]? = some g → i < count ∧ word? raw (4 + i) = some g := by
    intro i g hg
    rw [List.getElem?_take] at hg
    split at hg
    · rename_i hi
      exact ⟨hi, by rw [← hrest, hg]⟩
    · cases hg
  refine ⟨rest.take count, Int.bmod weight 65536, sign, scale, ?_⟩
  refine ⟨by rw [hlength, hcount], by rw [hweight]; rfl, hsign, hscale,
    fun i g hg => (htake i g hg).2, fun g hg => ?_⟩
  obtain ⟨i, hi⟩ := List.mem_iff_getElem?.mp hg
  obtain ⟨hbelow, hword⟩ := htake i g hi
  obtain ⟨g', hg', hle⟩ := hgroup i hbelow
  obtain rfl := Option.some.inj (hword.symm.trans hg')
  exact hle

theorem ne_nanSign {sign : Nat} (h : sign = 0 ∨ sign = negativeSign) : sign ≠ nanSign := by
  rcases h with rfl | rfl <;> decide

/-- What lacks something is not read as a number. -/
theorem decode?_of_lacks {raw : List UInt8} (h : Lacks raw)
    (hsign : ∀ sign, word? raw 2 = some sign → sign ≠ nanSign) : decode? raw = none := by
  rw [decode?]
  split
  · rename_i count weight sign scale rest hwords
    have hword : ∀ i, (count :: weight :: sign :: scale :: rest)[i]? = word? raw i := fun i => by
      rw [← hwords, getElem?_words]
    rw [if_neg (hsign sign (hword 2).symm)]
    refine if_neg fun hgroups => ?_
    rw [Bool.and_eq_true, decide_eq_true_eq, List.all_eq_true] at hgroups
    obtain ⟨hlength, hle⟩ := hgroups
    cases h with
    | header hshort =>
        have hscale := hword 3
        simp [word?, List.getElem?_eq_none (show raw.length ≤ 7 by omega)] at hscale
    | @group count' i hcount hi hlarge =>
        obtain rfl := Option.some.inj ((hword 0).trans hcount)
        rw [List.length_take] at hlength
        have hget : (rest.take count)[i]? = some rest[i] := by
          rw [List.getElem?_take_of_lt hi, List.getElem?_eq_getElem]
        have hsmall := of_decide_eq_true (hle _ (List.mem_of_getElem? hget))
        have hbig := hlarge rest[i] (by rw [← hword, Nat.add_comm 4 i]; simp)
        omega
  · rfl

/-! ## Values -/

/-- The number of the groups, the first of which counts the power `weight` of ten thousand. -/
def value (groups : List Nat) (weight : Int) : ℚ :=
  ∑ i : Fin groups.length, (groups[i] : ℚ) * 10000 ^ (weight - (i : Nat))

/-- A number without what stands behind so many decimal places. -/
def cutOff (q : ℚ) (scale : Nat) : ℚ := ⌊q * 10 ^ scale⌋₊ / 10 ^ scale

@[simp] theorem value_nil (weight : Int) : value [] weight = 0 := rfl

theorem value_cons (g : Nat) (groups : List Nat) (weight : Int) :
    value (g :: groups) weight = g * 10000 ^ weight + value groups (weight - 1) := by
  refine (Fin.sum_univ_succ _).trans ?_
  rw [value]
  congr 1
  · simp
  · refine Finset.sum_congr rfl fun i _ => ?_
    have hpower : weight - ((i.succ : Fin (groups.length + 1)) : Nat) = weight - 1 - (i : Nat) := by
      rw [Fin.val_succ]
      omega
    rw [hpower]
    rfl

theorem value_nonneg (groups : List Nat) (weight : Int) : 0 ≤ value groups weight := by
  rw [value]
  positivity

theorem value_lt {groups : List Nat} (h : ∀ g ∈ groups, g ≤ 9999) (weight : Int) :
    value groups weight < 10000 ^ (weight + 1) := by
  induction groups generalizing weight with
  | nil =>
      rw [value_nil]
      positivity
  | cons g groups ih =>
      have hg : (g : ℚ) ≤ 9999 := by exact_mod_cast h g List.mem_cons_self
      have hrest := ih (fun g' hg' => h g' (List.mem_cons_of_mem g hg')) (weight - 1)
      have hpower : (10000 : ℚ) ^ (weight + 1) = 9999 * 10000 ^ weight + 10000 ^ weight := by
        rw [zpow_add_one₀ (by norm_num)]
        ring
      rw [sub_add_cancel] at hrest
      rw [value_cons, hpower]
      have hfirst : (g : ℚ) * 10000 ^ weight ≤ 9999 * 10000 ^ weight :=
        mul_le_mul_of_nonneg_right hg (by positivity)
      linarith

/-- The number that the first `k` groups spell, those behind the last being zero. -/
def leading (groups : List Nat) : Nat → Nat
  | 0 => 0
  | k + 1 => leading groups k * 10000 + groupAt groups k

theorem leading_nil (k : Nat) : leading [] k = 0 := by
  induction k with
  | zero => rfl
  | succ k ih => rw [leading, ih, groupAt_nil]

theorem leading_cons (g : Nat) (groups : List Nat) (k : Nat) :
    leading (g :: groups) (k + 1) = g * 10000 ^ k + leading groups k := by
  induction k with
  | zero => simp [leading, groupAt]
  | succ k ih =>
      have hgroup : groupAt (g :: groups) (k + 1 : Nat) = groupAt groups k := by
        rw [groupAt, groupAt, if_neg (by omega), if_neg (by omega), Int.toNat_natCast,
          Int.toNat_natCast, List.getElem?_cons_succ]
      rw [leading, ih, hgroup, leading, Nat.pow_succ]
      ring

/-- The leading groups are the value, cut off behind them. -/
theorem floor_value {groups : List Nat} (h : ∀ g ∈ groups, g ≤ 9999) (weight : Int) (k : Nat) :
    ⌊value groups weight * 10000 ^ ((k : Int) - 1 - weight)⌋₊ = leading groups k := by
  induction groups generalizing weight k with
  | nil => rw [value_nil, zero_mul, Nat.floor_zero, leading_nil]
  | cons g groups ih =>
      cases k with
      | zero =>
          have hlt := value_lt h weight
          rw [leading, Nat.floor_eq_zero, ← lt_div_iff₀ (by positivity), one_div, ← zpow_neg]
          have hpower : -(((0 : Nat) : Int) - 1 - weight) = weight + 1 := by omega
          rwa [hpower]
      | succ k =>
          have hrest := ih (fun g' hg' => h g' (List.mem_cons_of_mem g hg')) (weight - 1) k
          have hscale : ((k + 1 : Nat) : Int) - 1 - weight = (k : Int) - 1 - (weight - 1) := by omega
          have hfirst : (g : ℚ) * 10000 ^ weight * 10000 ^ ((k : Int) - 1 - (weight - 1)) =
              (g * 10000 ^ k : Nat) := by
            rw [mul_assoc, ← zpow_add₀ (by norm_num)]
            have hpower : weight + ((k : Int) - 1 - (weight - 1)) = (k : Nat) := by omega
            rw [hpower, zpow_natCast]
            push_cast
            rfl
          have hnonneg : 0 ≤ value groups (weight - 1) * 10000 ^ ((k : Int) - 1 - (weight - 1)) :=
            mul_nonneg (value_nonneg _ _) (by positivity)
          rw [value_cons, hscale, add_mul, hfirst, add_comm, Nat.floor_add_natCast hnonneg, hrest,
            leading_cons, Nat.add_comm]


/-! ## Digits -/

theorem ofDigitChars_fourDigits {group : Nat} (h : group ≤ 9999) (init : Nat) :
    Nat.ofDigitChars 10 (fourDigits group) init = init * 10000 + group := by
  simp only [fourDigits, List.map_cons, List.map_nil]
  rw [Nat.ofDigitChars_cons_digitChar_of_lt_ten (by omega),
    Nat.ofDigitChars_cons_digitChar_of_lt_ten (by omega),
    Nat.ofDigitChars_cons_digitChar_of_lt_ten (by omega),
    Nat.ofDigitChars_cons_digitChar_of_lt_ten (by omega), Nat.ofDigitChars_nil]
  omega

section

variable {groups : List Nat} (h : ∀ g ∈ groups, g ≤ 9999) (weight : Int)

include h

/-- Four more digits for each of so many groups behind the place `start`. -/
theorem ofDigitChars_groups {digits : List Char} {start : Int}
    (hdigits : Nat.ofDigitChars 10 digits 0 = leading groups start.toNat) (count : Nat) :
    Nat.ofDigitChars 10 (digits ++ (List.range count).flatMap fun (i : Nat) =>
      fourDigits (groupAt groups (start + i))) 0 = leading groups (start + count).toNat := by
  induction count with
  | zero => simpa using hdigits
  | succ count ih =>
      rw [List.range_succ, List.flatMap_append, ← List.append_assoc, Nat.ofDigitChars_append, ih,
        List.flatMap_singleton, ofDigitChars_fourDigits (groupAt_le h _)]
      by_cases hplace : 0 ≤ start + count
      · have hnext : (start + (count + 1 : Nat)).toNat = (start + count).toNat + 1 := by omega
        rw [hnext, leading, Int.toNat_of_nonneg hplace]
      · have hnow : (start + count).toNat = 0 := by omega
        have hnext : (start + (count + 1 : Nat)).toNat = 0 := by omega
        rw [hnow, hnext, leading, groupAt, if_pos (by omega), Nat.zero_mul]

theorem ofDigitChars_integerPart :
    Nat.ofDigitChars 10 (integerPart groups weight) 0 = leading groups (weight + 1).toNat := by
  rw [integerPart]
  split
  · have hnone : (weight + 1).toNat = 0 := by omega
    rw [hnone]
    rfl
  · have hfirst : Nat.ofDigitChars 10 (Nat.toDigits 10 (groupAt groups 0)) 0 =
        leading groups (1 : Int).toNat := by
      rw [Nat.ofDigitChars_ten_toDigits]
      simp [leading]
    have hrest := ofDigitChars_groups h hfirst weight.toNat
    have hend : 1 + (weight.toNat : Int) = weight + 1 := by omega
    rw [hend] at hrest
    simpa only [Int.add_comm] using hrest


/-- All digits of the groups in which the fraction stands. -/
def fractionGroups (groups : List Nat) (weight : Int) (scale : Nat) : List Char :=
  (List.range ((scale + 3) / 4)).flatMap fun (i : Nat) =>
    fourDigits (groupAt groups (weight + i + 1))

omit h in
theorem length_fractionGroups (scale : Nat) :
    (fractionGroups groups weight scale).length = 4 * ((scale + 3) / 4) := by
  simp [fractionGroups, List.length_flatMap, fourDigits, Nat.mul_comm]

omit h in
theorem length_fractionPart (scale : Nat) : (fractionPart groups weight scale).length = scale := by
  have hlength : (fractionGroups groups weight scale).length = 4 * ((scale + 3) / 4) :=
    length_fractionGroups weight scale
  change ((fractionGroups groups weight scale).take scale).length = scale
  rw [List.length_take]
  omega

theorem floor_value_scaled (count : Nat) :
    ⌊value groups weight * 10000 ^ count⌋₊ = leading groups (weight + 1 + count).toNat := by
  by_cases hplace : 0 ≤ weight + 1 + count
  · have hfloor := floor_value h weight (weight + 1 + count).toNat
    have hpower : ((weight + 1 + count).toNat : Int) - 1 - weight = (count : Nat) := by omega
    rwa [hpower, zpow_natCast] at hfloor
  · have hzero : (weight + 1 + count).toNat = 0 := by omega
    rw [hzero, leading, Nat.floor_eq_zero]
    calc value groups weight * 10000 ^ count
        < 10000 ^ (weight + 1) * 10000 ^ count :=
          mul_lt_mul_of_pos_right (value_lt h weight) (by positivity)
      _ = 10000 ^ (weight + 1 + count) := by rw [zpow_add₀ (by norm_num) (weight + 1), zpow_natCast]
      _ ≤ 1 := zpow_le_one_of_nonpos₀ (by norm_num) (by omega)

/-- The digits on both sides of the point spell the value, cut off after the last. -/
theorem ofDigitChars_parts (scale : Nat) :
    Nat.ofDigitChars 10 (integerPart groups weight ++ fractionPart groups weight scale) 0 =
      ⌊value groups weight * 10 ^ scale⌋₊ := by
  set count := (scale + 3) / 4 with hcount
  set kept := integerPart groups weight ++ fractionPart groups weight scale with hkept
  set cut := (fractionGroups groups weight scale).drop scale with hcut
  have hlength : cut.length = 4 * count - scale := by
    rw [hcut, List.length_drop, length_fractionGroups]
  have hall : kept ++ cut = integerPart groups weight ++ fractionGroups groups weight scale := by
    rw [hkept, hcut, List.append_assoc]
    exact congrArg _ (List.take_append_drop scale _)
  have hspelled : Nat.ofDigitChars 10 (kept ++ cut) 0 = ⌊value groups weight * 10000 ^ count⌋₊ := by
    have hgroups := ofDigitChars_groups h (ofDigitChars_integerPart h weight) count
    simp only [Int.add_right_comm weight 1] at hgroups
    rw [hall, floor_value_scaled h, Int.add_right_comm, ← hgroups]
    rfl
  have hdigits : ∀ c ∈ cut, c.isDigit = true := by
    intro c hc
    obtain ⟨i, -, hc⟩ := List.mem_flatMap.mp (List.mem_of_mem_drop hc)
    exact isDigit_fourDigits (groupAt_le h _) c hc
  have hscale : value groups weight * 10 ^ scale =
      value groups weight * 10000 ^ count / (10 ^ cut.length : Nat) := by
    have hpower : (10000 : ℚ) ^ count = 10 ^ scale * 10 ^ cut.length := by
      rw [← pow_add, hlength, Nat.add_sub_of_le (by omega), pow_mul]
      norm_num
    rw [hpower]
    push_cast
    field_simp
  rw [hscale, Nat.floor_div_natCast, ← hspelled, ofDigitChars_append_div kept hdigits]

end

/-! ## What is read -/

/-- Only a single digit before the point may be zero, unless there are implied groups. -/
theorem integerPart_head {groups : List Nat} {weight : Int}
    (h : weight ≤ 0 ∨ ∃ g, groups.head? = some g ∧ g ≠ 0)
    (hzero : (integerPart groups weight).head? = some '0') : integerPart groups weight = ['0'] := by
  rw [integerPart] at hzero ⊢
  split
  · rfl
  · rename_i hweight
    rw [if_neg hweight, List.head?_append_of_ne_nil _ Nat.toDigits_ne_nil] at hzero
    have hfirst := eq_zero_of_head?_toDigits hzero
    have hnone : weight.toNat = 0 := by
      rcases h with h | ⟨g, hg, hne⟩
      · omega
      · rw [groupAt, if_neg (by decide), Int.toNat_zero, ← List.head?_eq_getElem?, hg] at hfirst
        exact absurd hfirst hne
    rw [hfirst, hnone]
    rfl

/-- The text of a number: a sign, digits before the point, and as many behind it as the scale says.
It spells the value of the groups, cut off behind the last digit. -/
structure Spells (text : String) (groups : List Nat) (weight : Int) (sign scale : Nat)
    (integer fraction : List Char) : Prop where
  toList_eq : text.toList = (if sign = negativeSign then ['-'] else []) ++ integer ++
    if scale = 0 then [] else '.' :: fraction
  number : decimalNumber? text =
    some ((if sign = negativeSign then -1 else 1) * cutOff (value groups weight) scale)
  isDigit : ∀ c ∈ integer ++ fraction, c.isDigit = true
  integer_ne_nil : integer ≠ []
  length_fraction : fraction.length = scale
  noLeadingZero : (weight ≤ 0 ∨ ∃ g, groups.head? = some g ∧ g ≠ 0) → integer.head? = some '0' →
    integer = ['0']

theorem render_spells {groups : List Nat} (h : ∀ g ∈ groups, g ≤ 9999) (weight : Int)
    (sign scale : Nat) :
    Spells (render groups weight sign scale) groups weight sign scale (integerPart groups weight)
      (fractionPart groups weight scale) := by
  have hlength : (fractionPart groups weight scale).length = scale :=
    length_fractionPart weight scale
  have hempty : (fractionPart groups weight scale).isEmpty = true ↔ scale = 0 := by
    rw [List.isEmpty_iff_length_eq_zero, hlength]
  have hinteger := isDigit_integerPart h weight
  have hfraction := isDigit_fractionPart h weight scale
  refine ⟨?_, ?_, ?_, integerPart_ne_nil groups weight, hlength, integerPart_head⟩
  · simp only [render, String.toList_ofList, hempty]
  · have hparts := decimalNumber?_ofParts (sign = negativeSign) (integerPart_ne_nil groups weight)
      hinteger hfraction
    rw [hlength, ofDigitChars_parts h] at hparts
    simpa [render, cutOff] using hparts
  · intro c hc
    rcases List.mem_append.mp hc with hc | hc
    · exact hinteger c hc
    · exact hfraction c hc

/-- A payload with a sign is read as the number that it announces, and refused exactly if something
is missing. -/
theorem decode?_spells_or_lacks (raw : List UInt8)
    (hsign : ∀ sign, word? raw 2 = some sign → sign = 0 ∨ sign = negativeSign) :
    (∀ groups weight sign scale, Announces raw groups weight sign scale →
      ∃ text integer fraction, decode? raw = some text ∧
        Spells text groups weight sign scale integer fraction) ∧
    (decode? raw = none ↔ Lacks raw) := by
  have hread : ∀ groups weight sign scale, Announces raw groups weight sign scale →
      decode? raw = some (render groups weight sign scale) := fun _ _ _ _ h =>
    h.decode?_eq (ne_nanSign (hsign _ h.sign))
  refine ⟨fun groups weight sign scale h => ?_, fun hnone => ?_, fun hlacks => ?_⟩
  · exact ⟨_, _, _, hread _ _ _ _ h, render_spells h.group_le weight sign scale⟩
  · by_contra hcomplete
    obtain ⟨groups, weight, sign, scale, h⟩ := exists_announces hcomplete
    rw [hread _ _ _ _ h] at hnone
    cases hnone
  · exact decode?_of_lacks hlacks fun sign h => ne_nanSign (hsign sign h)

/-- A group of 1200 in the second place behind the point, of which six digits are shown, and the
payload without its last byte. -/
theorem small_payload_spells :
    word? [0, 1, 255, 254, 64, 0, 0, 6, 4, 176] 2 = some negativeSign ∧
      Announces [0, 1, 255, 254, 64, 0, 0, 6, 4, 176] [1200] (-2) negativeSign 6 ∧
      (∃ text integer fraction, decode? [0, 1, 255, 254, 64, 0, 0, 6, 4, 176] = some text ∧
        Spells text [1200] (-2) negativeSign 6 integer fraction) ∧
      decode? [0, 1, 255, 254, 64, 0, 0, 6, 4] = none := by
  have hannounces : Announces [0, 1, 255, 254, 64, 0, 0, 6, 4, 176] [1200] (-2) negativeSign 6 := by
    refine ⟨rfl, by decide, rfl, rfl, fun i g hg => ?_, by decide⟩
    cases i with
    | zero => exact hg ▸ rfl
    | succ i => simp at hg
  have hread := decode?_spells_or_lacks [0, 1, 255, 254, 64, 0, 0, 6, 4, 176]
    fun sign h => .inr (Option.some.inj h).symm
  have hrefused := decode?_spells_or_lacks [0, 1, 255, 254, 64, 0, 0, 6, 4]
    fun sign h => .inr (Option.some.inj h).symm
  have hcount : word? [0, 1, 255, 254, 64, 0, 0, 6, 4] 0 = some 1 := rfl
  have hlacks : Lacks [0, 1, 255, 254, 64, 0, 0, 6, 4] :=
    .group (i := 0) hcount (by decide) nofun
  exact ⟨rfl, hannounces, hread.1 _ _ _ _ hannounces, hrefused.2.mpr hlacks⟩

end Sluice.Postgres.Numeric
