import Sluice.Postgres.Wire
import Sluice.Proofs.Postgres.Numeric

/-!
# Numbers in slots

Integers and decimals are bound to the slots of integer types and of NUMERIC. An integer is narrowed
to the width of an integer type, but nothing writes groups of digits for NUMERIC, and a decimal goes
out as its text whatever the slot. Where such bytes are no payload of the slot's type the statement
fails; where they are one, another number arrives.
-/

namespace Sluice.Postgres

open Text

/-- What the binary reader of a slot's type makes of the bytes that are sent for a value. -/
def readBack? (type : String) (v : Value) : Option Value :=
  (Parameter.forSlot type v).encode.bind (decodeCell? type)

/-- Something arrives that is not the number that was bound. -/
def Garbles (type : String) (v : Value) : Prop :=
  ∃ w, readBack? type v = some w ∧ w.number? ≠ v.number?

theorem garbles_iff_of_readBack {type : String} {v w : Value} (h : readBack? type v = some w) :
    Garbles type v ↔ w.number? ≠ v.number? := by
  rw [Garbles, h]
  simp

theorem not_garbles_of_readBack {type : String} {v : Value} (h : readBack? type v = none) :
    ¬ Garbles type v := by
  rw [Garbles, h]
  simp

/-- Integer types and their widths in bytes. -/
inductive IntType : String → Nat → Prop
  | int2 : IntType "int2" 2
  | int4 : IntType "int4" 4
  | int8 : IntType "int8" 8

theorem IntType.decodeCell?_eq {type : String} {width : Nat} (h : IntType type width)
    (raw : List UInt8) :
    decodeCell? type raw = (Bytes.toInt? width raw).map fun n => .int (.ofInt n) := by
  cases h with
  | int2 => rfl
  | int4 => rfl
  | int8 => rfl

/-! ## Integers in integer slots -/

/-- Whether an integer lies within the bounds of a width in bytes. -/
def Fits (width : Nat) (n : Int) : Prop :=
  -((256 ^ width : Nat) / 2 : Int) ≤ n ∧ n < (256 ^ width : Nat) / 2

instance (width : Nat) (n : Int) : Decidable (Fits width n) :=
  inferInstanceAs (Decidable (_ ∧ _))

theorem fit?_eq {width : Nat} (h : 0 < width) (n : Int) :
    Parameter.fit? width n = if Fits width n then some (.int width n) else none := by
  have hwidth : 8 * width = 8 * width - 1 + 1 := by omega
  have hpower : 256 ^ width = 2 ^ (8 * width - 1) * 2 := by
    rw [← Nat.pow_succ, Nat.succ_eq_add_one, ← hwidth, Nat.pow_mul]
  have hhalf : ((256 ^ width : Nat) / 2 : Int) = (2 ^ (8 * width - 1) : Nat) := by
    rw [hpower]
    omega
  simp only [Parameter.fit?, Fits, hhalf, Nat.pow_eq, Bool.and_eq_true, decide_eq_true_eq]

/-- An integer goes out in the width of its slot if it fits, else in eight bytes. -/
theorem IntType.encode_int {type : String} {width : Nat} (h : IntType type width) (n : Int64) :
    (Parameter.forSlot type (.int n)).encode =
      some (Bytes.ofInt (if Fits width n.toInt then width else 8) n.toInt) := by
  have hnarrow (width : Nat) : 0 < width →
      ((Parameter.fit? width n.toInt).getD (.int 8 n.toInt)).encode =
        some (Bytes.ofInt (if Fits width n.toInt then width else 8) n.toInt) := by
    intro hpos
    rw [fit?_eq hpos]
    split
    · rfl
    · rfl
  cases h with
  | int2 => exact hnarrow 2 (by decide)
  | int4 => exact hnarrow 4 (by decide)
  | int8 =>
      rw [ite_self]
      rfl

/-- An integer arrives in an integer slot as it was, or not at all. -/
theorem readBack?_int {type : String} {width : Nat} (h : IntType type width) (n : Int64) :
    readBack? type (.int n) = if Fits width n.toInt then some (.int n) else none := by
  rw [readBack?, h.encode_int, Option.bind_some, h.decodeCell?_eq]
  split
  · rename_i hfits
    rw [Bytes.toInt?_ofInt hfits.1 (by have := hfits.2; omega), Option.map_some, Int64.ofInt_toInt]
  · rename_i hlarge
    have hwidth : 8 ≠ width := by
      rintro rfl
      exact hlarge ⟨n.le_toInt, n.toInt_lt⟩
    rw [Bytes.toInt?_of_length_ne (by simpa using hwidth), Option.map_none]

/-! ## Integers in NUMERIC slots -/

/-- Eight bytes garble an integer other than zero if they announce no groups, and every integer if
the word of the sign says that they are no number. All other integers fail. -/
theorem garbles_numeric_int (n : Int64) :
    Garbles "numeric" (.int n) ↔
      Numeric.wordOf 1 n.toInt = Numeric.nanSign ∨ 0 < n.toInt ∧ n.toInt < 2 ^ 48 := by
  have hback : readBack? "numeric" (.int n) =
      (Numeric.decode? (Bytes.ofInt 8 n.toInt)).map .decimal := rfl
  have hempty := Numeric.wordOf_three_eq_zero n.le_toInt n.toInt_lt
  rw [Numeric.decode?_ofInt] at hback
  by_cases hnan : Numeric.wordOf 1 n.toInt = Numeric.nanSign
  · rw [if_pos hnan, Option.map_some] at hback
    have hnumber : (Value.decimal "NaN").number? ≠ (Value.int n).number? := by
      simp [Value.number?, decimalNumber?_nan]
    exact iff_of_true ⟨_, hback, hnumber⟩ (.inl hnan)
  · rw [if_neg hnan] at hback
    by_cases hzero : Numeric.wordOf 3 n.toInt = 0
    · rw [if_pos hzero, Option.map_some] at hback
      have hnonneg := (hempty.mp hzero).1
      have hbelow := (hempty.mp hzero).2
      rw [garbles_iff_of_readBack hback]
      simp only [Value.number?, Numeric.decimalNumber?_render_nil, hnan, false_or, hbelow,
        and_true]
      constructor
      · intro hne
        have : n.toInt ≠ 0 := fun hn => hne (by rw [hn]; rfl)
        omega
      · intro hpos heq
        have := Option.some.inj heq
        have : (0 : Int) = n.toInt := by exact_mod_cast this
        omega
    · rw [if_neg hzero, Option.map_none] at hback
      have hsmall : ¬ (0 < n.toInt ∧ n.toInt < 2 ^ 48) := fun h =>
        hzero (hempty.mpr ⟨h.1.le, h.2⟩)
      refine iff_of_false (not_garbles_of_readBack hback) ?_
      rintro (h | h)
      · exact hnan h
      · exact hsmall h

/-! ## Decimals in integer slots -/

theorem readBack?_decimal {type : String} {width : Nat} (h : IntType type width) (s : String) :
    readBack? type (.decimal s) = (Bytes.toInt? width (utf8 s)).map fun n => .int (.ofInt n) := by
  have hencode : (Parameter.forSlot type (.decimal s)).encode = some (utf8 s) := by
    cases h with
    | int2 => rfl
    | int4 => rfl
    | int8 => rfl
  rw [readBack?, hencode, Option.bind_some, h.decodeCell?_eq]

/-- Bytes of digits make a great number: the first alone counts more than all digits could. -/
theorem toNat_bounds {raw : List UInt8} (h : AreDecimal raw)
    {width : Nat} (hlength : raw.length = width + 1) :
    45 * 256 ^ width ≤ Bytes.toNat raw ∧ Bytes.toNat raw < 58 * 256 ^ width := by
  obtain ⟨b, bytes, rfl⟩ := List.exists_cons_of_length_eq_add_one hlength
  have hb := h b List.mem_cons_self
  have hbytes := Bytes.toNat_lt bytes
  have hwidth : bytes.length = width := by simpa using hlength
  rw [Bytes.toNat_cons]
  rw [hwidth] at hbytes ⊢
  constructor
  · have := Nat.mul_le_mul_right (256 ^ width) hb.1
    omega
  · have := Nat.mul_le_mul_right (256 ^ width) (Nat.le_of_lt_succ hb.2)
    omega

/-- Digits in the place of an integer are read as a positive one, greater than what they spell. -/
theorem IntType.toInt?_digits {type : String} {width : Nat} (h : IntType type width)
    {raw : List UInt8} (hlength : raw.length = width) (hbytes : AreDecimal raw) :
    Bytes.toInt? width raw = some (Bytes.toNat raw : Int) ∧ Bytes.toNat raw < 2 ^ 63 ∧
      10 ^ width ≤ Bytes.toNat raw := by
  have hread (hhalf : 2 * Bytes.toNat raw < Nat.pow 256 width) :
      Bytes.toInt? width raw = some (Bytes.toNat raw : Int) := by
    rw [Bytes.toInt?, if_pos hlength, Int.bmod_eq_of_le (by omega) (by omega)]
  cases h with
  | int2 =>
      have hbounds : 45 * 256 ^ 1 ≤ Bytes.toNat raw ∧ Bytes.toNat raw < 58 * 256 ^ 1 :=
        toNat_bounds hbytes hlength
      exact ⟨hread (by norm_num at hbounds ⊢; omega), by omega, by omega⟩
  | int4 =>
      have hbounds : 45 * 256 ^ 3 ≤ Bytes.toNat raw ∧ Bytes.toNat raw < 58 * 256 ^ 3 :=
        toNat_bounds hbytes hlength
      exact ⟨hread (by norm_num at hbounds ⊢; omega), by omega, by omega⟩
  | int8 =>
      have hbounds : 45 * 256 ^ 7 ≤ Bytes.toNat raw ∧ Bytes.toNat raw < 58 * 256 ^ 7 :=
        toNat_bounds hbytes hlength
      exact ⟨hread (by norm_num at hbounds ⊢; omega), by omega, by omega⟩

/-- A decimal of as many characters as the integer has bytes arrives as the integer that its
characters make; it is greater than every number of so few digits. -/
theorem garbles_decimal {type : String} {width : Nat} (h : IntType type width) {s : String} {q : ℚ}
    (hq : decimalNumber? s = some q) :
    Garbles type (.decimal s) ↔ (utf8 s).length = width := by
  obtain ⟨hsize, hbytes⟩ := areDecimal_utf8 (isDecimalLiteral_of_number hq)
  have hsmall := decimalNumber?_lt hq
  have hback := readBack?_decimal h s
  by_cases hlength : (utf8 s).length = width
  · obtain ⟨hread, hhigh, hgreat⟩ := h.toInt?_digits hlength hbytes
    have hint : (Int64.ofInt (Bytes.toNat (utf8 s))).toInt = Bytes.toNat (utf8 s) :=
      Int64.toInt_ofInt_of_le (by omega) (by omega)
    rw [hread, Option.map_some] at hback
    refine iff_of_true ((garbles_iff_of_readBack hback).mpr fun heq => ?_) hlength
    rw [Value.number?, Value.number?, hq, hint] at heq
    have hsame : (Bytes.toNat (utf8 s) : ℚ) = q := by simpa using heq
    rw [← hsame, ← hsize, hlength] at hsmall
    have hlt : Bytes.toNat (utf8 s) < 10 ^ width := by exact_mod_cast hsmall
    omega
  · rw [Bytes.toInt?_of_length_ne hlength, Option.map_none] at hback
    exact iff_of_false (not_garbles_of_readBack hback) hlength

/-! ## Misfits -/

/-- The values whose bytes are a payload of their slot by accident. -/
inductive Misfit : String → Value → Prop
  /-- The words of a NUMERIC announce no groups. -/
  | noGroups {n : Int64} : 0 < n.toInt → n.toInt < 2 ^ 48 → Misfit "numeric" (.int n)
  /-- The word of the sign says that they are no number. -/
  | nan {n : Int64} : Numeric.wordOf 1 n.toInt = Numeric.nanSign → Misfit "numeric" (.int n)
  /-- A decimal has a character for each byte of an integer. -/
  | characters {type : String} {width : Nat} {s : String} :
      IntType type width → (utf8 s).length = width → Misfit type (.decimal s)

/-- Types that integers and decimals are bound to. -/
inductive NumberType : String → Prop
  | int {type : String} {width : Nat} : IntType type width → NumberType type
  | numeric : NumberType "numeric"

theorem IntType.width_eq {type : String} {width other : Nat} (h : IntType type width)
    (hother : IntType type other) : other = width := by
  have hlookup {width : Nat} (h : IntType type width) :
      [("int2", 2), ("int4", 4), ("int8", 8)].lookup type = some width := by
    cases h with
    | int2 => decide
    | int4 => decide
    | int8 => decide
  exact Option.some.inj ((hlookup hother).symm.trans (hlookup h))

theorem IntType.ne_numeric {type : String} {width : Nat} (h : IntType type width) :
    type ≠ "numeric" := by
  cases h <;> decide

/-- In the slot of an integer type or of NUMERIC a number arrives as what it was, or not at all,
unless it is a misfit; and every misfit arrives as something else. -/
theorem garbles_iff_misfit {type : String} (htype : NumberType type) {v : Value} {q : ℚ}
    (hv : v.number? = some q) : Garbles type v ↔ Misfit type v := by
  cases v with
  | int n =>
      cases htype with
      | int h =>
          refine iff_of_false ?_ fun hmisfit => ?_
          · rintro ⟨w, hback, hne⟩
            rw [readBack?_int h] at hback
            split at hback
            · exact hne (Option.some.inj hback ▸ rfl)
            · cases hback
          · cases hmisfit with
            | noGroups => exact h.ne_numeric rfl
            | nan => exact h.ne_numeric rfl
      | numeric =>
          rw [garbles_numeric_int]
          constructor
          · rintro (hnan | ⟨hpos, hbelow⟩)
            · exact .nan hnan
            · exact .noGroups hpos hbelow
          · intro hmisfit
            cases hmisfit with
            | noGroups hpos hbelow => exact .inr ⟨hpos, hbelow⟩
            | nan hnan => exact .inl hnan
  | decimal s =>
      cases htype with
      | int h =>
          rw [garbles_decimal h hv]
          refine ⟨fun hlength => .characters h hlength, fun hmisfit => ?_⟩
          cases hmisfit with
          | characters hother hlength => rw [hlength, h.width_eq hother]
      | numeric =>
          have hback : readBack? "numeric" (.decimal s) =
              (Numeric.decode? (utf8 s)).map .decimal := rfl
          have hbytes := (areDecimal_utf8 (isDecimalLiteral_of_number hv)).2
          rw [Numeric.decode?_digits hbytes, Option.map_none] at hback
          refine iff_of_false (not_garbles_of_readBack hback) fun hmisfit => ?_
          cases hmisfit with
          | characters h _ => exact h.ne_numeric rfl
  | _ => cases hv

theorem twelve_is_misfit :
    (Value.decimal "12").number? = some 12 ∧ Garbles "int2" (.decimal "12") ∧
      readBack? "int2" (.decimal "12") = some (.int 12594) := by
  have hnumber : (Value.decimal "12").number? = some 12 := by decide +kernel
  have hmisfit : Misfit "int2" (.decimal "12") := .characters .int2 (by decide +kernel)
  exact ⟨hnumber, (garbles_iff_misfit (.int .int2) hnumber).mpr hmisfit, by decide +kernel⟩

theorem seven_arrives_as_zero :
    (Value.int 7).number? = some 7 ∧ readBack? "numeric" (.int 7) = some (.decimal "0.0000000") ∧
      (Value.decimal "0.0000000").number? = some 0 := by
  decide +kernel

end Sluice.Postgres
