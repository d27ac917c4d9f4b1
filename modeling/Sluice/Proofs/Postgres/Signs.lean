import Sluice.Proofs.Postgres.Payload

/-!
# Sign words

The sign word of a payload tells plus, minus and not-a-number apart. The infinities have words of
their own, which the reader does not know: it takes every other word for a plus, so a payload that
stands for no finite number may be read as one.
-/

namespace Sluice.Postgres.Numeric

/-! ## What payloads stand for -/

/-- Nothing is missing, and the sign word is that of a finite number. -/
def IsFinite (raw : List UInt8) : Prop :=
  ∃ groups weight sign scale, Announces raw groups weight sign scale ∧
    (sign = 0 ∨ sign = negativeSign)

/-- Nothing is missing, but the sign word is neither that of a finite number nor not-a-number. -/
def HasStraySign (raw : List UInt8) : Prop :=
  ∃ groups weight sign scale, Announces raw groups weight sign scale ∧
    sign ≠ 0 ∧ sign ≠ negativeSign ∧ sign ≠ nanSign

/-- The header is complete and its sign word is that of not-a-number. -/
def IsNan (raw : List UInt8) : Prop := 8 ≤ raw.length ∧ word? raw 2 = some nanSign

/-- A payload is read as a text that spells the number. -/
def ReadsNumber (raw : List UInt8) (q : ℚ) : Prop :=
  ∃ text, decode? raw = some text ∧ decimalNumber? text = some q

/-! ## Headers -/

theorem decode?_of_short {raw : List UInt8} (h : raw.length < 8) : decode? raw = none := by
  rw [decode?]
  split
  · rename_i count weight sign scale rest hwords
    have hscale : word? raw 3 = some scale := by
      rw [← getElem?_words, hwords]
      rfl
    simp [word?, List.getElem?_eq_none (show raw.length ≤ 7 by omega)] at hscale
  · rfl

theorem decode?_of_nan {raw : List UInt8} (h : IsNan raw) : decode? raw = some "NaN" := by
  obtain ⟨hlong, hsign⟩ := h
  have hword : ∀ i < 4, ∃ w, word? raw i = some w := fun i hi => exists_word? (by omega)
  obtain ⟨count, hcount⟩ := hword 0 (by decide)
  obtain ⟨weight, hweight⟩ := hword 1 (by decide)
  obtain ⟨scale, hscale⟩ := hword 3 (by decide)
  obtain ⟨rest, hwords, -⟩ := words_of_header hcount hweight hsign hscale
  simp only [decode?, hwords, ↓reduceIte]

/-- What is read without the word of not-a-number announces all that it should hold. -/
theorem announces_of_decode? {raw : List UInt8} {text : String} (h : decode? raw = some text)
    (hnan : ¬ IsNan raw) :
    ∃ groups weight sign scale, Announces raw groups weight sign scale ∧ sign ≠ nanSign := by
  have hlong : 8 ≤ raw.length := by
    by_contra hshort
    rw [decode?_of_short (Nat.not_le.mp hshort)] at h
    cases h
  have hsign : ∀ sign, word? raw 2 = some sign → sign ≠ nanSign := by
    rintro sign hword rfl
    exact hnan ⟨hlong, hword⟩
  have hcomplete : ¬ Lacks raw := fun hlacks => by
    rw [decode?_of_lacks hlacks hsign] at h
    cases h
  obtain ⟨groups, weight, sign, scale, hannounces⟩ := exists_announces hcomplete
  exact ⟨groups, weight, sign, scale, hannounces, hsign sign hannounces.sign⟩

/-! ## Numbers -/

/-- All sign words but that of not-a-number give a number, and all but that of minus a positive
one. -/
theorem Announces.readsNumber {raw : List UInt8} {groups : List Nat} {weight : Int}
    {sign scale : Nat} (h : Announces raw groups weight sign scale) (hsign : sign ≠ nanSign) :
    ReadsNumber raw
      ((if sign = negativeSign then -1 else 1) * cutOff (value groups weight) scale) :=
  ⟨_, h.decode?_eq hsign, (render_spells h.group_le weight sign scale).number⟩

theorem not_readsNumber_of_nan {raw : List UInt8} (h : IsNan raw) (q : ℚ) : ¬ ReadsNumber raw q := by
  rintro ⟨text, hread, hnumber⟩
  obtain rfl := Option.some.inj (hread.symm.trans (decode?_of_nan h))
  rw [decimalNumber?_nan] at hnumber
  cases hnumber

/-- What becomes of a payload, by its sign word. -/
structure ReadBySign (raw : List UInt8) : Prop where
  /-- Not-a-number is read from its own word and from no other. -/
  nan : decode? raw = some "NaN" ↔ IsNan raw
  /-- A number is read from what stands for one, and also from what has a stray sign. -/
  number : (∃ q, ReadsNumber raw q) ↔ IsFinite raw ∨ HasStraySign raw
  /-- Only the word of minus gives a minus. -/
  value : ∀ groups weight sign scale, Announces raw groups weight sign scale → sign ≠ nanSign →
    ReadsNumber raw ((if sign = negativeSign then -1 else 1) * cutOff (value groups weight) scale)
  /-- Nothing else is read from any payload. -/
  only : ∀ text, decode? raw = some text → text = "NaN" ∨ ∃ q, decimalNumber? text = some q

/-- A number is read exactly from complete payloads with any sign word but that of not-a-number, the
stray ones included. -/
theorem readBySign (raw : List UInt8) : ReadBySign raw where
  nan := by
    refine ⟨fun hread => ?_, decode?_of_nan⟩
    by_contra hnan
    obtain ⟨groups, weight, sign, scale, hannounces, hsign⟩ := announces_of_decode? hread hnan
    obtain ⟨text, htext, hnumber⟩ := hannounces.readsNumber hsign
    obtain rfl := Option.some.inj (htext.symm.trans hread)
    rw [decimalNumber?_nan] at hnumber
    cases hnumber
  number := by
    constructor
    · rintro ⟨q, hq⟩
      have hnan : ¬ IsNan raw := fun hnan => not_readsNumber_of_nan hnan q hq
      obtain ⟨text, hread, -⟩ := hq
      obtain ⟨groups, weight, sign, scale, hannounces, hsign⟩ := announces_of_decode? hread hnan
      by_cases hfinite : sign = 0 ∨ sign = negativeSign
      · exact .inl ⟨groups, weight, sign, scale, hannounces, hfinite⟩
      · obtain ⟨hplus, hminus⟩ := not_or.mp hfinite
        exact .inr ⟨groups, weight, sign, scale, hannounces, hplus, hminus, hsign⟩
    · rintro (⟨_, _, _, _, hannounces, hsign⟩ | ⟨_, _, _, _, hannounces, -, -, hsign⟩)
      · exact ⟨_, hannounces.readsNumber (ne_nanSign hsign)⟩
      · exact ⟨_, hannounces.readsNumber hsign⟩
  value _ _ _ _ hannounces hsign := hannounces.readsNumber hsign
  only := by
    intro text hread
    by_cases hnan : IsNan raw
    · exact .inl (Option.some.inj (hread.symm.trans (decode?_of_nan hnan)))
    · obtain ⟨groups, weight, sign, scale, hannounces, hsign⟩ := announces_of_decode? hread hnan
      obtain ⟨text', htext, hnumber⟩ := hannounces.readsNumber hsign
      obtain rfl := Option.some.inj (htext.symm.trans hread)
      exact .inr ⟨_, hnumber⟩

/-- Infinity and its opposite come without groups and with a sign word of their own; both are read
as zero. -/
theorem infinities_read_as_zero :
    word? [0, 0, 0, 0, 0xD0, 0, 0, 0] 2 = some 0xD000 ∧
      decode? [0, 0, 0, 0, 0xD0, 0, 0, 0] = some "0" ∧
      ¬ IsFinite [0, 0, 0, 0, 0xD0, 0, 0, 0] ∧
      word? [0, 0, 0, 0, 0xF0, 0, 0, 0] 2 = some 0xF000 ∧
      decode? [0, 0, 0, 0, 0xF0, 0, 0, 0] = some "0" ∧
      ¬ IsFinite [0, 0, 0, 0, 0xF0, 0, 0, 0] := by
  have hplus : ¬ IsFinite [0, 0, 0, 0, 0xD0, 0, 0, 0] := by
    rintro ⟨_, _, sign, _, hannounces, hsign⟩
    obtain rfl := Option.some.inj hannounces.sign
    exact absurd hsign (by decide)
  have hminus : ¬ IsFinite [0, 0, 0, 0, 0xF0, 0, 0, 0] := by
    rintro ⟨_, _, sign, _, hannounces, hsign⟩
    obtain rfl := Option.some.inj hannounces.sign
    exact absurd hsign (by decide)
  exact ⟨rfl, by decide +kernel, hplus, rfl, by decide +kernel, hminus⟩

end Sluice.Postgres.Numeric
