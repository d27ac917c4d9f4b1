import Mathlib.Data.Nat.Bitwise
import Sluice.Text.Blank
import Sluice.Text.Upper

/-!
# Capitals

A capital form is its own capital form, and holds neither blanks nor parentheses. The tables are
compared as sets of code points, each set being one number: a code point is in the set if its bit
is set.
-/

namespace Sluice.Text

/-! ## Sets of numbers -/

/-- The number whose bits are the members of a list. -/
def bits (ns : List Nat) : Nat := ns.foldr (fun n m => 1 <<< n ||| m) 0

theorem testBit_bits (ns : List Nat) (n : Nat) : (bits ns).testBit n = decide (n ∈ ns) := by
  induction ns with
  | nil => simp [bits]
  | cons m ns ih =>
      have hcons : bits (m :: ns) = 1 <<< m ||| bits ns := rfl
      rw [hcons, Nat.testBit_or, ih, Nat.one_shiftLeft, Nat.testBit_two_pow]
      simp [eq_comm]

theorem not_mem_of_bits {ns ms : List Nat} (h : bits ns &&& bits ms = 0) {n : Nat} (hn : n ∈ ns) :
    n ∉ ms := by
  intro hm
  have hbit : (bits ns &&& bits ms).testBit n = true := by
    rw [Nat.testBit_and, testBit_bits, testBit_bits]
    simp [hn, hm]
  rw [h, Nat.zero_testBit] at hbit
  exact nomatch hbit

/-! ## Code points -/

/-- The code points of a run. -/
def members (first last step : Nat) : List Nat :=
  (List.range ((last - first) / step + 1)).map fun k => first + k * step

theorem mem_members {first last step n : Nat} (hfirst : first ≤ n) (hlast : n ≤ last)
    (hstep : (n - first) % step = 0) : n ∈ members first last step := by
  have hdiv := Nat.div_add_mod (n - first) step
  have hle : (n - first) / step ≤ (last - first) / step :=
    Nat.div_le_div_right (Nat.sub_le_sub_right hlast first)
  refine List.mem_map.mpr ⟨(n - first) / step, List.mem_range.mpr (Nat.lt_succ_of_le hle), ?_⟩
  rw [hstep, Nat.mul_comm] at hdiv
  omega

/-- The code points beyond ASCII that have another capital form. -/
def smallCodes : List Nat :=
  (upperRuns.flatMap fun (first, last, step, _) => members first last step) ++
    upperExpansions.map Prod.fst

/-- The code points of capital forms. -/
def capitalCodes : List Nat :=
  members 0x41 0x5A 1 ++ (upperRuns.flatMap fun (first, last, step, shift) =>
    (members first last step).map fun (n : Nat) => ((n : Nat) + shift : Int).toNat) ++
      upperExpansions.flatMap Prod.snd

/-- What no capital form holds besides: small letters of ASCII, blanks and parentheses. -/
def otherCodes : List Nat :=
  members 0x61 0x7A 1 ++ members 0x9 0xD 1 ++ members 0x2000 0x200A 1 ++
    [0x20, 0x28, 0x29, 0x85, 0xA0, 0x1680, 0x2028, 0x2029, 0x202F, 0x205F, 0x3000]

theorem bits_capitalCodes : bits capitalCodes &&& bits (smallCodes ++ otherCodes) = 0 := by
  decide +kernel

theorem mem_otherCodes_of_isBlank {c : Char} (h : isBlank c = true) : c.toNat ∈ otherCodes := by
  simp only [isBlank, Bool.or_eq_true, Bool.and_eq_true, decide_eq_true_eq] at h
  simp only [otherCodes, List.mem_append]
  by_cases hcontrol : 0x9 ≤ c.toNat ∧ c.toNat ≤ 0xD
  · exact .inl (.inl (.inr (mem_members hcontrol.1 hcontrol.2 (Nat.mod_one _))))
  · by_cases hspace : 0x2000 ≤ c.toNat ∧ c.toNat ≤ 0x200A
    · exact .inl (.inr (mem_members hspace.1 hspace.2 (Nat.mod_one _)))
    · right
      simp only [List.mem_cons, List.not_mem_nil, or_false]
      omega

/-! ## Characters -/

/-- What holds of the first 128 characters holds of the ASCII characters. -/
theorem forall_ascii {P : Char → Prop} (h : ∀ n < 0x80, P (Char.ofNat n)) {c : Char}
    (hascii : c.toNat < 0x80) : P c := by
  have hc := h c.toNat hascii
  rwa [Char.ofNat_toNat] at hc

theorem toUpper_of_not_mem {c : Char} (h : c.toNat ∉ members 0x61 0x7A 1) : c.toUpper = c := by
  by_cases hascii : c.toNat < 0x80
  · exact forall_ascii
      (P := fun c => c.toNat ∉ members 0x61 0x7A 1 → c.toUpper = c) (by decide) hascii h
  · refine dif_neg fun hsmall => hascii ?_
    have hle : c.toNat ≤ 0x7A := UInt32.le_iff_toNat_le.mp hsmall.2
    omega

theorem toLower_of_not_ascii {c : Char} (h : ¬ c.toNat < 0x80) : c.toLower = c := by
  refine dif_neg fun hcapital => h ?_
  have hle : c.toNat ≤ 0x5A := UInt32.le_iff_toNat_le.mp hcapital.2
  omega

theorem upperChar_of_not_mem {c : Char} (h : c.toNat ∉ smallCodes ++ otherCodes) :
    upperChar c = [c] := by
  simp only [List.mem_append, not_or] at h
  by_cases hascii : c.toNat < 0x80
  · have hletter : c.toNat ∉ members 0x61 0x7A 1 := fun hmem =>
      h.2 (by simp [otherCodes, hmem])
    rw [upperChar, if_pos hascii, toUpper_of_not_mem hletter]
  · have hexpansion : upperExpansions.lookup c.toNat = none := by
      refine List.lookup_eq_none_iff.mpr fun p hp => ?_
      have hne : c.toNat ≠ p.1 := fun heq =>
        h.1 (List.mem_append_right _ (List.mem_map.mpr ⟨p, hp, heq.symm⟩))
      simpa using hne
    have hrun : upperRuns.find? (fun (first, last, step, _) =>
        first ≤ c.toNat && c.toNat ≤ last && (c.toNat - first) % step == 0) = none := by
      refine List.find?_eq_none.mpr fun ⟨first, last, step, shift⟩ hmem hcovers => ?_
      simp only [Bool.and_eq_true, decide_eq_true_eq, beq_iff_eq] at hcovers
      have hcode := mem_members hcovers.1.1 hcovers.1.2 hcovers.2
      exact h.1 (List.mem_append_left _ (List.mem_flatMap.mpr ⟨_, hmem, hcode⟩))
    rw [upperChar, if_neg hascii, hexpansion, hrun]

/-- Nothing but itself is the capital form of the character, and it separates no words. -/
structure IsSettled (c : Char) : Prop where
  upperChar_eq : upperChar c = [c]
  not_blank : isBlank c = false
  not_open : c ≠ '('
  not_close : c ≠ ')'

theorem isSettled_of_not_mem {c : Char} (h : c.toNat ∉ smallCodes ++ otherCodes) :
    IsSettled c := by
  have hother : c.toNat ∉ otherCodes := fun hmem => h (List.mem_append_right _ hmem)
  constructor
  · exact upperChar_of_not_mem h
  · exact Bool.eq_false_iff.mpr fun hblank => hother (mem_otherCodes_of_isBlank hblank)
  · intro hopen
    subst hopen
    exact hother (by decide)
  · intro hclose
    subst hclose
    exact hother (by decide)

theorem isSettled_ofNat {n : Nat} (h : n ∈ capitalCodes) : IsSettled (Char.ofNat n) := by
  have hother := not_mem_of_bits bits_capitalCodes h
  by_cases hvalid : n.isValidChar
  · have hn : (Char.ofNat n).toNat = n := by
      rw [Char.ofNat, dif_pos hvalid]
      rfl
    exact isSettled_of_not_mem (by rwa [hn])
  · have hzero : Char.ofNat n = Char.ofNat 0 := by
      rw [Char.ofNat, dif_neg hvalid]
      rfl
    rw [hzero]
    exact isSettled_of_not_mem (by decide +kernel)

theorem isSettled_toUpper {c : Char} (h : c.toNat ∈ members 0x61 0x7A 1) :
    IsSettled c.toUpper := by
  have hascii : c.toNat < 0x80 := by
    revert h
    generalize c.toNat = n
    revert n
    decide
  have hcode : c.toUpper.toNat ∈ members 0x41 0x5A 1 :=
    forall_ascii (P := fun c => c.toNat ∈ members 0x61 0x7A 1 →
      c.toUpper.toNat ∈ members 0x41 0x5A 1) (by decide) hascii h
  have hsettled := isSettled_ofNat (n := c.toUpper.toNat) (by simp [capitalCodes, hcode])
  rwa [Char.ofNat_toNat] at hsettled

/-- A capital form is the character itself, or one or more characters that are settled. -/
theorem upperChar_cases (c : Char) :
    upperChar c = [c] ∨ upperChar c ≠ [] ∧ ∀ d ∈ upperChar c, IsSettled d := by
  by_cases hascii : c.toNat < 0x80
  · rw [upperChar, if_pos hascii]
    by_cases hsmall : c.toNat ∈ members 0x61 0x7A 1
    · simp [isSettled_toUpper hsmall]
    · simp [toUpper_of_not_mem hsmall]
  · rw [upperChar, if_neg hascii]
    cases hexpansion : upperExpansions.lookup c.toNat with
    | some codes =>
        right
        have hmem : (c.toNat, codes) ∈ upperExpansions := by
          obtain ⟨before, after, hsplit, -⟩ := List.lookup_eq_some_iff.mp hexpansion
          simp [hsplit]
        have hcapital : ∀ n ∈ codes, n ∈ capitalCodes := fun n hn =>
          List.mem_append_right _ (List.mem_flatMap.mpr ⟨_, hmem, hn⟩)
        have hne : ∀ expansion ∈ upperExpansions, expansion.2 ≠ [] := by decide
        constructor
        · simpa using hne _ hmem
        · intro d hd
          obtain ⟨n, hn, rfl⟩ := List.mem_map.mp hd
          exact isSettled_ofNat (hcapital n hn)
    | none =>
        cases hrun : upperRuns.find? fun (first, last, step, _) =>
            first ≤ c.toNat && c.toNat ≤ last && (c.toNat - first) % step == 0 with
        | none => exact .inl rfl
        | some run =>
            right
            have hcovers := List.find?_some hrun
            simp only [Bool.and_eq_true, decide_eq_true_eq, beq_iff_eq] at hcovers
            have hcode := mem_members hcovers.1.1 hcovers.1.2 hcovers.2
            have hcapital : (c.toNat + run.2.2.2).toNat ∈ capitalCodes :=
              List.mem_append_left _ (List.mem_append_right _
                (List.mem_flatMap.mpr ⟨run, List.mem_of_find?_eq_some hrun,
                  List.mem_map.mpr ⟨c.toNat, hcode, rfl⟩⟩))
            simpa using isSettled_ofNat hcapital

/-! ## Texts -/

@[simp] theorem upper_nil : upper [] = [] := rfl

@[simp] theorem upper_cons (c : Char) (cs : List Char) :
    upper (c :: cs) = upperChar c ++ upper cs := rfl

@[simp] theorem upper_append (cs ds : List Char) : upper (cs ++ ds) = upper cs ++ upper ds :=
  List.flatMap_append

@[simp] theorem upperChar_space : upperChar ' ' = [' '] := rfl

theorem upper_eq_self {cs : List Char} (h : ∀ c ∈ cs, upperChar c = [c]) : upper cs = cs := by
  induction cs with
  | nil => rfl
  | cons c cs ih =>
      rw [upper_cons, h c (by simp), ih fun d hd => h d (by simp [hd])]
      rfl

@[simp] theorem upper_upper (cs : List Char) : upper (upper cs) = upper cs := by
  induction cs with
  | nil => rfl
  | cons c cs ih =>
      rw [upper_cons, upper_append, ih]
      congr 1
      cases upperChar_cases c with
      | inl hself => simp [hself]
      | inr hsettled => exact upper_eq_self fun d hd => (hsettled.2 d hd).upperChar_eq

theorem upper_ne_nil {cs : List Char} (h : cs ≠ []) : upper cs ≠ [] := by
  cases cs with
  | nil => exact absurd rfl h
  | cons c cs =>
      cases upperChar_cases c with
      | inl hself => simp [hself]
      | inr hsettled => simp [hsettled.1]

/-- A character of a capital form is one of the text, or settled. -/
theorem mem_upper {cs : List Char} {d : Char} (h : d ∈ upper cs) : d ∈ cs ∨ IsSettled d := by
  obtain ⟨c, hc, hd⟩ := List.mem_flatMap.mp h
  cases upperChar_cases c with
  | inl hself =>
      rw [hself, List.mem_singleton] at hd
      exact .inl (hd ▸ hc)
  | inr hsettled => exact .inr (hsettled.2 d hd)

/-- The case of ASCII letters does not show in the capital form. -/
theorem upperChar_toLower (c : Char) : upperChar c.toLower = upperChar c := by
  by_cases hascii : c.toNat < 0x80
  · exact forall_ascii (P := fun c => upperChar c.toLower = upperChar c) (by decide) hascii
  · rw [toLower_of_not_ascii hascii]

theorem upper_map_toLower (cs : List Char) : upper (cs.map Char.toLower) = upper cs := by
  induction cs with
  | nil => rfl
  | cons c cs ih => rw [List.map_cons, upper_cons, upper_cons, upperChar_toLower, ih]

end Sluice.Text
