import Sluice.Translation
import Sluice.Proofs.Translation.Inert

/-!
# Leaves are inert

Numbers, plain identifiers and decimals are made of safe characters, with a minus in front at most.
-/

namespace Sluice

open Text

/-! ## Integers -/

theorem isDigit_of_mem_natText {n : Nat} {c : Char} (h : c ∈ (toString n).toList) :
    c.isDigit = true := by
  rw [Nat.toString_eq_repr, Nat.toList_repr] at h
  exact Nat.isDigit_of_mem_toDigits (by decide) (by decide) h

theorem natText_ne_nil (n : Nat) : (toString n).toList ≠ [] := by
  rw [Nat.toString_eq_repr, Nat.toList_repr]
  exact Nat.toDigits_ne_nil

theorem isSafe_of_mem_natText {n : Nat} {c : Char} (h : c ∈ (toString n).toList) :
    isSafe c = true :=
  isSafe_of_isDigit (isDigit_of_mem_natText h)

theorem inert_natText (n : Nat) : Inert (toString n).toList :=
  inert_of_isSafe fun _ h => isSafe_of_mem_natText h

theorem inert_intText (n : Int) : Inert (toString n).toList := by
  rw [Int.toString_eq_repr, Int.repr_eq_if]
  split
  · exact inert_natText n.toNat
  · rw [String.toList_append]
    exact inert_signed (.inr rfl) (fun _ h => isSafe_of_mem_natText h) (natText_ne_nil _)

/-! ## Floats -/

namespace Binary64

section

variable {digits : String} (hsafe : ∀ c ∈ digits.toList, isSafe c = true) (p : Int)

theorem isSafe_of_mem_zeros {k : Nat} {c : Char}
    (h : c ∈ (String.ofList (List.replicate k '0')).toList) : isSafe c = true := by
  rw [String.toList_ofList] at h
  rw [List.eq_of_mem_replicate h]
  decide

include hsafe in
theorem isSafe_of_mem_positionalText {c : Char}
    (h : c ∈ (positionalText false digits p).toList) : isSafe c = true := by
  simp only [positionalText] at h
  split at h
  · rw [String.toList_append, String.toList_append] at h
    rcases List.mem_append.mp h with h | h
    · rcases List.mem_append.mp h with h | h
      · exact List.all_eq_true.mp (by decide : "0.".toList.all isSafe = true) c h
      · exact isSafe_of_mem_zeros h
    · exact hsafe c h
  · split at h
    · simp only [Bool.false_eq_true, ↓reduceIte, String.append_empty, String.toList_append] at h
      rcases List.mem_append.mp h with h | h
      · exact hsafe c h
      · exact isSafe_of_mem_zeros h
    · simp only [String.toList_append, String.toList_ofList] at h
      rcases List.mem_append.mp h with h | h
      · rcases List.mem_append.mp h with h | h
        · exact hsafe c (List.mem_of_mem_take h)
        · exact List.all_eq_true.mp (by decide : ".".toList.all isSafe = true) c h
      · exact hsafe c (List.mem_of_mem_drop h)

theorem positionalText_ne_nil (hne : digits.toList ≠ []) :
    (positionalText false digits p).toList ≠ [] := by
  simp only [positionalText]
  split
  · simp
  · split
    · simp only [String.toList_append]
      exact List.append_ne_nil_of_left_ne_nil (List.append_ne_nil_of_left_ne_nil hne _) _
    · simp

end

/-- A float in plain digits, also one that is not finite. -/
theorem inert_floatText (x : Binary64) : Inert (toString x).toList := by
  change Inert (render .plain x).toList
  have hsign : (if x.isNegative then "-" else "").toList = [] ∨
      (if x.isNegative then "-" else "").toList = ['-'] := by
    cases x.isNegative with
    | true => exact .inr rfl
    | false => exact .inl rfl
  simp only [render]
  split
  · exact inert_of_check (by decide)
  · split
    · rw [String.toList_append]
      exact inert_signed hsign (List.all_eq_true.mp (by decide)) (by decide)
    · split
      · rw [String.toList_append]
        exact inert_signed hsign (List.all_eq_true.mp (by decide)) (by decide)
      · rw [String.toList_append]
        change Inert (_ ++ (positionalText false _ _).toList)
        refine inert_signed hsign (fun c hc => ?_) (positionalText_ne_nil _ (natText_ne_nil _))
        exact isSafe_of_mem_positionalText (fun _ => isSafe_of_mem_natText) _ hc

end Binary64

/-! ## Decimals and identifiers -/

theorem inert_of_isDecimalLiteral {s : String} (h : isDecimalLiteral s = true) :
    Inert s.toList := by
  have hdigit : ∀ c : Char, (c.isDigit || c = '.') = true → isSafe c = true := by
    intro c hc
    rcases Bool.or_eq_true_iff.mp hc with hc | hc
    · exact isSafe_of_isDigit hc
    · rw [of_decide_eq_true hc]
      decide
  have hsigned : ∀ sign digits : List Char, sign = [] ∨ sign = ['-'] →
      (digits.countP (· = '.') ≤ 1 && digits.all (fun c => c.isDigit || c = '.') &&
        digits.any Char.isDigit) = true → Inert (sign ++ digits) := by
    intro sign digits hsign hdigits
    obtain ⟨hdigits, hany⟩ := Bool.and_eq_true_iff.mp hdigits
    have hall := List.all_eq_true.mp (Bool.and_eq_true_iff.mp hdigits).2
    refine inert_signed hsign (fun c hc => hdigit c (hall c hc)) ?_
    rintro rfl
    exact nomatch hany
  rw [isDecimalLiteral] at h
  split at h
  · rename_i rest heq
    rw [heq]
    exact hsigned ['-'] rest (.inr rfl) h
  · exact hsigned [] s.toList (.inl rfl) h

theorem inert_of_isPlainIdentifier {name : String} (h : isPlainIdentifier name = true) :
    Inert name.toList := by
  rw [isPlainIdentifier] at h
  cases hname : name.toList with
  | nil => exact .nil
  | cons c rest =>
      rw [hname] at h
      obtain ⟨hc, hrest⟩ := Bool.and_eq_true_iff.mp h
      have hword : isWordChar c = true := by
        rcases Bool.or_eq_true_iff.mp hc with hc | hc
        · rw [isWordChar, Char.isAlphanum, hc]
          rfl
        · rw [of_decide_eq_true hc]
          decide
      refine .safe (isSafe_of_isWordChar hword) (inert_of_isSafe fun d hd => ?_)
      exact isSafe_of_isWordChar (List.all_eq_true.mp hrest d hd)

end Sluice
