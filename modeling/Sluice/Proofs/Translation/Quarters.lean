import Mathlib.Order.Bounds.Defs
import Sluice.Proofs.Calendar.Text
import Sluice.Proofs.Translation.Chains
import Sluice.Proofs.Translation.Weeks

/-!
# Starts of quarters

H2 puts the first month of a quarter behind the year and reads both back; SQLite prints it between
the year and the first day. The month is the same, and the one of the pure helpers. The year is not:
H2 takes it without the zeros that the key of a year before 1000 has.
-/

namespace Sluice

open Calendar (Reader)
open Arithmetic TranslateM

/-- A month of a year, January being 1. -/
structure YearMonth where
  year : Int32
  month : UInt32

/-! ## Quarters -/

/-- The number of the quarter of a month, the first being 1. -/
def quarterOf (month : Nat) : Nat := (month - 1) / 3 + 1

section

variable {month : UInt32}

/-- For all months but the last two of 32 bits, no step leaves the range. -/
theorem toNat_quarterStartMonth (hfirst : 1 ≤ month) (hlast : month < 4294967294) :
    (quarterStartMonth month).toNat = (month.toNat + 2) / 3 * 3 - 2 := by
  have hlow : 1 ≤ month.toNat := UInt32.le_iff_toNat_le.mp hfirst
  have hhigh : month.toNat < 4294967294 := UInt32.lt_iff_toNat_lt.mp hlast
  have hsum : (month + 2).toNat = month.toNat + 2 := by
    rw [UInt32.toNat_add]
    exact Nat.mod_eq_of_lt (by change month.toNat + 2 < 4294967296; omega)
  have hproduct : ((month + 2) / 3 * 3).toNat = (month.toNat + 2) / 3 * 3 := by
    rw [UInt32.toNat_mul, UInt32.toNat_div, hsum]
    exact Nat.mod_eq_of_lt (by change (month.toNat + 2) / 3 * 3 < 4294967296; omega)
  have htwo : 2 ≤ (month + 2) / 3 * 3 := by
    rw [UInt32.le_iff_toNat_le, hproduct]
    change 2 ≤ _
    omega
  rw [quarterStartMonth, UInt32.toNat_sub_of_le _ _ htwo, hproduct]
  rfl

theorem quarterOf_mul_sub (hfirst : 1 ≤ month) (hlast : month < 4294967294) :
    (quarterOf month.toNat : Int) * 3 - 2 = (quarterStartMonth month).toNat := by
  have hlow : 1 ≤ month.toNat := UInt32.le_iff_toNat_le.mp hfirst
  rw [toNat_quarterStartMonth hfirst hlast, quarterOf]
  omega

theorem tdiv_mul_sub (hfirst : 1 ≤ month) (hlast : month < 4294967294) :
    ((month.toNat : Int) + 2).tdiv 3 * 3 - 2 = (quarterStartMonth month).toNat := by
  have hlow : 1 ≤ month.toNat := UInt32.le_iff_toNat_le.mp hfirst
  rw [toNat_quarterStartMonth hfirst hlast, Int.tdiv_eq_ediv_of_nonneg (by omega)]
  omega

/-- The start of a quarter is the last month up to the given one that is the first of three. In the
last two months of 32 bits the sum wraps around, and what is left is no first month. -/
theorem quarterStartMonth_isGreatest_iff (hfirst : 1 ≤ month) :
    IsGreatest {n | n % 3 = 1 ∧ n ≤ month} (quarterStartMonth month) ↔ month < 4294967294 := by
  have hmem : ∀ n : UInt32, n % 3 = 1 ∧ n ≤ month ↔
      n.toNat % 3 = 1 ∧ n.toNat ≤ month.toNat := fun n => by
    rw [← UInt32.toNat_inj, UInt32.toNat_mod, UInt32.le_iff_toNat_le]
    rfl
  constructor
  · intro hgreatest
    by_contra hlast
    have hhigh : 4294967294 ≤ month.toNat := by
      rw [UInt32.lt_iff_toNat_lt, Nat.not_lt] at hlast
      exact hlast
    have hrest : quarterStartMonth month % 3 = 1 := hgreatest.1.1
    have hlt := month.toNat_lt
    obtain heq | heq : month = 4294967294 ∨ month = 4294967295 := by
      rw [← UInt32.toNat_inj, ← UInt32.toNat_inj]
      change month.toNat = 4294967294 ∨ month.toNat = 4294967295
      omega
    · rw [heq] at hrest
      exact absurd hrest (by decide)
    · rw [heq] at hrest
      exact absurd hrest (by decide)
  · intro hlast
    have hlow : 1 ≤ month.toNat := UInt32.le_iff_toNat_le.mp hfirst
    have hstart := toNat_quarterStartMonth hfirst hlast
    refine ⟨(hmem _).mpr (by omega), fun n hn => ?_⟩
    obtain ⟨hthird, hle⟩ := (hmem n).mp hn
    rw [UInt32.le_iff_toNat_le]
    omega

end

/-! ## Digits of years -/

theorem padded_eq_toString_iff {width n : Nat} (hwidth : 0 < width) :
    padded (width + 1) n = toString n ↔ 10 ^ width ≤ n := by
  have hlength := Nat.length_toDigits_le_iff (b := 10) (n := n) (by decide) hwidth
  rw [← String.toList_inj, Calendar.toList_padded, Nat.toString_eq_repr, Nat.toList_repr,
    List.append_left_eq_self, List.replicate_eq_nil_iff]
  omega

/-- The decimal year makes the year's part of a key from four digits on. -/
theorem toString_append_eq_quarterStartKey_iff {year : Int32} (hyear : 0 ≤ year) (month : UInt32) :
    toString year.toInt ++ padded 2 (quarterStartMonth month).toNat = quarterStartKey year month ↔
      1000 ≤ year := by
  have hnonneg : 0 ≤ year.toInt := Int32.le_iff_toInt_le.mp hyear
  obtain ⟨n, hn⟩ := Int.eq_ofNat_of_zero_le hnonneg
  have hpadded : padded 4 n = toString n ↔ 10 ^ 3 ≤ n := padded_eq_toString_iff (by decide)
  have hpositive : ¬ year < 0 := by
    rw [Int32.lt_iff_toInt_lt, Int.not_lt]
    exact hnonneg
  rw [quarterStartKey, if_neg hpositive, hn, Int.natAbs_natCast, String.append_left_inj, eq_comm,
    Int32.le_iff_toInt_le, hn]
  exact hpadded.trans Int.ofNat_le.symm

/-! ## Readers -/

namespace Arithmetic

section

variable {α β : Type} {p : Reader α} {stops : List Char → Prop} {s text : String} {a : α} {b : β}

/-- What is made of what a reader reads, where anything is. -/
def checked (f : α → Option β) (p : Reader α) : Reader β := fun cs => do
  let (a, rest) ← p cs
  let b ← f a
  return (b, rest)

def character : Reader Char
  | [] => none
  | c :: cs => some (c, cs)

/-- All up to a quote. -/
def unquoted : Reader String := fun cs =>
  some (String.ofList (cs.takeWhile (· ≠ '\'')), cs.dropWhile (· ≠ '\''))

/-- The value of a whole text. -/
def whole (p : Reader α) (s : String) : Option α := do
  let (a, rest) ← p s.toList
  if rest.isEmpty then some a else none

theorem Reads.checked {f : α → Option β} (h : Reads p stops s a) (hf : f a = some b) :
    Reads (checked f p) stops s b := by
  intro rest hrest
  simp only [Arithmetic.checked, h rest hrest, hf, Option.bind_eq_bind, Option.bind_some]
  rfl

theorem Rejects.checked (f : α → Option β) (h : Rejects p text) : Rejects (checked f p) text := by
  intro rest
  rw [Arithmetic.checked, h rest]
  rfl

theorem reads_character (c : Char) (stops : List Char → Prop) :
    Reads character stops (String.singleton c) c := by
  intro rest _
  rw [String.toList_singleton]
  rfl

theorem reads_unquoted (h : '\'' ∉ s.toList) :
    Reads unquoted (Follows (· = '\'')) s s := by
  intro rest hrest
  have hstop : rest.takeWhile (· ≠ '\'') = [] ∧ rest.dropWhile (· ≠ '\'') = rest := by
    cases rest with
    | nil => exact ⟨rfl, rfl⟩
    | cons c rest =>
        have hc : c = '\'' := of_decide_eq_true (hrest c rfl)
        simp [hc]
  have hkeep : ∀ c ∈ s.toList, decide (c ≠ '\'') = true := fun c hc =>
    decide_eq_true fun heq => h (heq ▸ hc)
  rw [unquoted, List.takeWhile_append_of_pos hkeep, List.dropWhile_append_of_pos hkeep, hstop.1,
    hstop.2, List.append_nil, String.ofList_toList]

theorem Reads.whole_eq (h : Reads p stops s a) (hstops : stops []) : whole p s = some a := by
  have hread := h [] hstops
  rw [List.append_nil] at hread
  rw [whole, hread]
  rfl

end

end Arithmetic

/-! ## H2 -/

namespace H2

variable {operand : Reader YearMonth} {s t k l before after : String} {x : Int} {d : YearMonth}

/-- The calls that tell a number of a date. -/
def dateNumber (operand : Reader YearMonth) : Reader Int :=
  either (mapped (·.year.toInt) (enclosed "YEAR(" operand ")"))
    (mapped (fun d => (quarterOf d.month.toNat : Int)) (enclosed "QUARTER(" operand ")"))

/-- A text of a length: filled on the left, or cut at its end. -/
def lpad (s : String) (length : Nat) (fill : Char) : String :=
  String.ofList ((Text.padLeft length fill s).toList.take length)

/-- The texts that keys are made of. A number stands for its decimal digits. -/
def keyText (operand : Reader YearMonth) : (depth : Nat) → Reader String
  | 0 => fun _ => none
  | depth + 1 =>
    let inner := keyText operand depth
    either (mapped (fun (s, t) => s ++ t) (enclosed "CONCAT(" (separated inner ", " inner) ")")) <|
    either (mapped (fun (s, n, c) => lpad s n.toNat c)
      (enclosed "LPAD(" (separated inner ", " (separated digits ", '" character)) "')")) <|
    either (mapped toString
      (enclosed "CAST(" (number (dateNumber operand) depth) " AS VARCHAR)")) <|
    mapped toString (number (dateNumber operand) (depth + 1))

/-- The text that is read back as a year and a month. -/
def quarterKey? (operand : Reader YearMonth) (s : String) : Option String :=
  whole (enclosed "PARSEDATETIME(" (keyText operand (s.length + 1)) ", 'yyyyMM')") s

def IsKeyText (operand : Reader YearMonth) (s : String) (k : String) : Prop :=
  ∀ depth, s.length < depth → Reads (keyText operand depth) EndsSum s k

theorem isFactor_year (h : Reads operand (Follows isStop) s d) :
    IsFactor (dateNumber operand) ("YEAR(" ++ s ++ ")") d.year.toInt :=
  isFactor_call ((h.enclosed "YEAR(" ")" _ (follows_append (by decide))).mapped _).either_left
    (by decide) (by decide)

theorem isFactor_quarter (h : Reads operand (Follows isStop) s d) :
    IsFactor (dateNumber operand) ("QUARTER(" ++ s ++ ")") (quarterOf d.month.toNat) := by
  have hquarter := (h.enclosed "QUARTER(" ")" (Follows isStop) (follows_append (by decide))).mapped
    fun d => (quarterOf d.month.toNat : Int)
  refine isFactor_call (hquarter.either_right ?_) (by decide) (by decide)
  exact ((rejects_enclosed (by decide)).mapped _).enclosed

theorem IsKeyText.concat (h : IsKeyText operand s k) (h' : IsKeyText operand t l) :
    IsKeyText operand ("CONCAT(" ++ (s ++ ", " ++ t) ++ ")") (k ++ l) := by
  intro depth hdepth
  obtain ⟨inner, rfl, hinner⟩ := Spelling.exists_depth (by decide) hdepth
  simp only [String.length_append] at hinner
  have hboth := (h inner (by omega)).separated ", " (h' inner (by omega))
    (endsSum_append (by decide) (by decide))
  have hconcat := hboth.enclosed "CONCAT(" ")" EndsSum (endsSum_append (by decide) (by decide))
  exact (hconcat.mapped fun (s, t) => s ++ t).either_left

theorem IsKeyText.lpad (h : IsKeyText operand s k) (n : Nat) (c : Char) :
    IsKeyText operand
      ("LPAD(" ++ (s ++ ", " ++ (toString n ++ ", '" ++ String.singleton c)) ++ "')")
      (lpad k n c) := by
  intro depth hdepth
  obtain ⟨inner, rfl, hinner⟩ := Spelling.exists_depth (by decide) hdepth
  simp only [String.length_append] at hinner
  have hfill := (reads_digits n).separated ", '" (reads_character c fun _ => True)
    (follows_append (by decide))
  have hboth := (h inner (by omega)).separated ", " hfill (endsSum_append (by decide) (by decide))
  have hlpad := (hboth.enclosed "LPAD(" "')" EndsSum fun _ => trivial).mapped
    fun (s, n, c) => H2.lpad s n.toNat c
  have hconcat : Rejects (mapped (fun (s, t) => s ++ t) (enclosed "CONCAT("
      (separated (keyText operand inner) ", " (keyText operand inner)) ")")) "LPAD(" :=
    (rejects_enclosed (by decide)).mapped _
  exact hlpad.either_left.either_right hconcat.enclosed

theorem IsKeyText.cast (h : IsNumber (dateNumber operand) s x) :
    IsKeyText operand ("CAST(" ++ s ++ " AS VARCHAR)") (toString x) := by
  intro depth hdepth
  obtain ⟨inner, rfl, hinner⟩ := Spelling.exists_depth (by decide) hdepth
  have hcast := ((h inner hinner).enclosed "CAST(" " AS VARCHAR)" EndsSum
    (endsSum_append (by decide) (by decide))).mapped fun x => toString x
  refine (hcast.either_left.either_right ?_).either_right ?_
  · exact ((rejects_enclosed (by decide)).mapped _).enclosed
  · exact ((rejects_enclosed (by decide)).mapped _).enclosed

/-- A number is told from the other texts by its beginning. -/
theorem IsKeyText.ofNumber (h : IsNumber (dateNumber operand) (before ++ s ++ after) x)
    (hbegin : ∀ other ∈ ["CONCAT(", "LPAD(", "CAST("], differ other.toList before.toList = true) :
    IsKeyText operand (before ++ s ++ after) (toString x) := by
  intro depth hdepth
  obtain ⟨inner, rfl⟩ := Nat.exists_eq_add_of_lt hdepth
  simp only [List.forall_mem_cons] at hbegin
  obtain ⟨hconcat, hlpad, hcast, -⟩ := hbegin
  have hdigits := (h _ hdepth).mapped fun x => toString x
  refine ((hdigits.either_right ?_).either_right ?_).either_right ?_
  · exact ((rejects_enclosed hcast).mapped _).enclosed
  · exact ((rejects_enclosed hlpad).mapped _).enclosed
  · exact ((rejects_enclosed hconcat).mapped _).enclosed

theorem lpad_quarterStartMonth {month : UInt32} (hfirst : 1 ≤ month) (hlast : month ≤ 12) :
    lpad (toString ((quarterStartMonth month).toNat : Int)) 2 '0' =
      padded 2 (quarterStartMonth month).toNat := by
  have hmonths : ∀ m ∈ List.range' 1 12,
      lpad (toString ((quarterStartMonth (.ofNat m)).toNat : Int)) 2 '0' =
        padded 2 (quarterStartMonth (.ofNat m)).toNat := by
    decide
  have hlow : 1 ≤ month.toNat := UInt32.le_iff_toNat_le.mp hfirst
  have hhigh : month.toNat ≤ 12 := UInt32.le_iff_toNat_le.mp hlast
  have hmonth := hmonths month.toNat (List.mem_range'_1.mpr ⟨hlow, by omega⟩)
  rwa [UInt32.ofNat_toNat] at hmonth

theorem IsKeyText.quarterKey?_eq (h : IsKeyText operand s k) :
    quarterKey? operand ("PARSEDATETIME(" ++ s ++ ", 'yyyyMM')") = some k := by
  rw [quarterKey?]
  refine ((h _ ?_).enclosed _ _ (fun _ => True) ?_).whole_eq trivial
  · simp only [String.length_append]
    omega
  · exact endsSum_append (by decide) (by decide)

/-- The text that starts a quarter makes its key of the bare year. -/
theorem quarterKey?_eq (hfirst : 1 ≤ d.month) (hlast : d.month ≤ 12)
    (hyear : Reads operand (Follows isStop) s d) (hquarter : Reads operand (Follows isStop) t d) :
    quarterKey? operand ("PARSEDATETIME(CONCAT(YEAR(" ++ s ++ "), LPAD(CAST(QUARTER(" ++ t ++
      ") * 3 - 2 AS VARCHAR), 2, '0')), 'yyyyMM')") =
        some (toString d.year.toInt ++ padded 2 (quarterStartMonth d.month).toNat) := by
  have hopen : "PARSEDATETIME(CONCAT(YEAR(" = "PARSEDATETIME(" ++ "CONCAT(" ++ "YEAR(" := by decide
  have hmiddle : "), LPAD(CAST(QUARTER(" = ")" ++ ", " ++ "LPAD(" ++ "CAST(" ++ "QUARTER(" := by
    decide
  have hclose : ") * 3 - 2 AS VARCHAR), 2, '0')), 'yyyyMM')" = ")" ++ " * " ++ toString 3 ++
      " - " ++ toString 2 ++ " AS VARCHAR)" ++ ", " ++ toString 2 ++ ", '" ++
        String.singleton '0' ++ "')" ++ ")" ++ ", 'yyyyMM')" := by decide
  have hnumber := ((isFactor_quarter hquarter).product.times (isFactor_digits 3)).sum.sub
    (isFactor_digits 2).product
  have hmonth := (IsKeyText.cast hnumber.number).lpad 2 '0'
  have hdigits : IsKeyText operand ("YEAR(" ++ s ++ ")") (toString d.year.toInt) :=
    .ofNumber (isFactor_year hyear).product.sum.number (by decide)
  have hkey := (hdigits.concat hmonth).quarterKey?_eq
  rw [hopen, hmiddle, hclose, ← lpad_quarterStartMonth hfirst hlast,
    ← quarterOf_mul_sub hfirst (UInt32.lt_of_le_of_lt hlast (by decide))]
  simp only [String.append_assoc] at hkey ⊢
  exact hkey

end H2

/-! ## SQLite -/

namespace Sqlite

/-- What stands for a date in a format: four digits or more for the year, two for the month. -/
def fillDate (d : YearMonth) : List Char → Option (List Char)
  | [] => some []
  | '%' :: 'Y' :: cs => (fillDate d cs).map ((padded 4 d.year.toInt.toNat).toList ++ ·)
  | '%' :: 'm' :: cs => (fillDate d cs).map ((padded 2 d.month.toNat).toList ++ ·)
  | '%' :: _ => none
  | c :: cs => (fillDate d cs).map (c :: ·)

/-- What is printed with a format. -/
inductive Argument where
  | text (s : String)
  | number (n : Int)

/-- At least so many characters, the sign being one of them. -/
def paddedNumber (width : Nat) (n : Int) : String :=
  if n < 0 then "-" ++ padded (width - 1) n.natAbs else padded width n.natAbs

/-- What stands for the arguments in a format: a text as it is, a number with leading zeros. -/
def fillArguments : List Char → List Argument → Option (List Char)
  | [], _ => some []
  | '%' :: 's' :: cs, .text s :: rest => (fillArguments cs rest).map (s.toList ++ ·)
  | '%' :: '0' :: width :: 'd' :: cs, .number n :: rest =>
    (fillArguments cs rest).map ((paddedNumber (width.toNat - '0'.toNat) n).toList ++ ·)
  | '%' :: _, _ => none
  | c :: cs, rest => (fillArguments cs rest).map (c :: ·)

/-- The number that the digits at the front of a text make. -/
def digitsNumber (s : String) : Int := Nat.ofDigitChars 10 (s.toList.takeWhile Char.isDigit) 0

def strftimeText (operand : Reader YearMonth) : Reader String :=
  checked (fun (format, d) => (fillDate d format.toList).map String.ofList)
    (enclosed "strftime('" (separated unquoted "', " operand) ")")

def castNumber (operand : Reader YearMonth) : Reader Int :=
  mapped digitsNumber (enclosed "CAST(" (strftimeText operand) " AS INTEGER)")

def argument (operand : Reader YearMonth) (depth : Nat) : Reader Argument :=
  either (mapped .text (strftimeText operand)) (mapped .number (number (castNumber operand) depth))

/-- The text that two arguments are printed to. -/
def printed? (operand : Reader YearMonth) (s : String) : Option String :=
  let argument := argument operand (s.length + 1)
  whole (checked (fun (format, a, b) => (fillArguments format.toList [a, b]).map String.ofList)
    (enclosed "printf('" (separated unquoted "', " (separated argument ", " argument)) ")")) s

variable {operand : Reader YearMonth} {s t k format : String} {d : YearMonth}

theorem paddedNumber_natCast (width n : Nat) : paddedNumber width n = padded width n := by
  rw [paddedNumber, if_neg (by omega), Int.natAbs_natCast]

theorem digitsNumber_padded (width n : Nat) : digitsNumber (padded width n) = n := by
  obtain ⟨-, hdigits, hvalue⟩ := Calendar.padded_spells width n
  rw [digitsNumber, List.takeWhile_eq_self_iff.mpr hdigits, hvalue]

theorem reads_strftimeText (h : Reads operand (Follows isStop) s d)
    (hformat : '\'' ∉ format.toList)
    (hfill : fillDate d format.toList = some k.toList) (stops : List Char → Prop) :
    Reads (strftimeText operand) stops ("strftime('" ++ (format ++ "', " ++ s) ++ ")") k := by
  have hboth := (reads_unquoted hformat).separated "', " h (follows_append (by decide))
  refine (hboth.enclosed "strftime('" ")" stops (follows_append (by decide))).checked ?_
  change (fillDate d format.toList).map String.ofList = some k
  rw [hfill, Option.map_some, String.ofList_toList]

theorem isFactor_month (h : Reads operand (Follows isStop) s d) :
    IsFactor (castNumber operand)
      ("CAST(" ++ ("strftime('" ++ ("%m" ++ "', " ++ s) ++ ")") ++ " AS INTEGER)")
      d.month.toNat := by
  have hfill : fillDate d "%m".toList = some (padded 2 d.month.toNat).toList := by simp [fillDate]
  have hmonth := reads_strftimeText h (by decide) hfill fun _ => True
  have hcast := (hmonth.enclosed "CAST(" " AS INTEGER)" (Follows isStop) fun _ => trivial).mapped
    digitsNumber
  rw [digitsNumber_padded] at hcast
  exact isFactor_call hcast (by decide) (by decide)

/-- A text and a number in parentheses are printed with a format. -/
theorem printed?_of_reads {n : Int} {printed : String} (hformat : '\'' ∉ format.toList)
    (htext : Reads (strftimeText operand) EndsSum s k)
    (hnumber : IsNumber (castNumber operand) ("(" ++ t) n)
    (hfill : fillArguments format.toList [.text k, .number n] = some printed.toList) :
    printed? operand ("printf('" ++ (format ++ "', " ++ (s ++ ", " ++ ("(" ++ t))) ++ ")") =
      some printed := by
  have hends : ∀ rest, EndsSum (", ".toList ++ rest) := endsSum_append (by decide) (by decide)
  have hparen : Rejects (strftimeText operand) ("(" ++ t) := by
    intro rest
    rw [String.toList_append, List.append_assoc]
    exact ((rejects_enclosed (by decide)).checked _) _
  have hargument : ∀ depth, ("(" ++ t).length < depth →
      Reads (argument operand depth) EndsSum ("(" ++ t) (.number n) := fun depth hdepth =>
    ((hnumber depth hdepth).mapped Argument.number).either_right (hparen.mapped _)
  rw [printed?]
  refine Reads.whole_eq (.checked (.enclosed (.separated (reads_unquoted hformat) _
    (.separated (htext.mapped Argument.text).either_left _ (hargument _ ?_) hends)
      (follows_append (by decide))) _ _ (fun _ => True)
        (endsSum_append (by decide) (by decide))) ?_) trivial
  · simp only [String.length_append]
    omega
  · change (fillArguments format.toList [.text k, .number n]).map String.ofList = some printed
    rw [hfill, Option.map_some, String.ofList_toList]

/-- The text that starts a quarter prints its first month. -/
theorem printed?_eq (hfirst : 1 ≤ d.month) (hlast : d.month ≤ 12)
    (hyear : Reads operand (Follows isStop) s d) (hmonth : Reads operand (Follows isStop) t d) :
    printed? operand ("printf('%s-%02d-01 00:00:00', strftime('%Y', " ++ s ++
      "), (CAST(strftime('%m', " ++ t ++ ") AS INTEGER) + 2) / 3 * 3 - 2)") =
        some (padded 4 d.year.toInt.toNat ++ "-" ++ padded 2 (quarterStartMonth d.month).toNat ++
          "-01 00:00:00") := by
  have hopen : "printf('%s-%02d-01 00:00:00', strftime('%Y', " = "printf('" ++
      "%s-%02d-01 00:00:00" ++ "', " ++ "strftime('" ++ "%Y" ++ "', " := by decide
  have hmiddle : "), (CAST(strftime('%m', " = ")" ++ ", " ++ "(" ++ "CAST(" ++ "strftime('" ++
      "%m" ++ "', " := by decide
  have hclose : ") AS INTEGER) + 2) / 3 * 3 - 2)" = ")" ++ " AS INTEGER)" ++ " + " ++ toString 2 ++
      ")" ++ " / " ++ toString 3 ++ " * " ++ toString 3 ++ " - " ++ toString 2 ++ ")" := by decide
  have hfill : fillDate d "%Y".toList = some (padded 4 d.year.toInt.toNat).toList := by
    simp [fillDate]
  have htext := reads_strftimeText hyear (by decide) hfill EndsSum
  have hsum := ((isFactor_month hmonth).product.sum.add (isFactor_digits 2).product).number.paren
  have hnumber := (((hsum.product.div (isFactor_digits 3)).times (isFactor_digits 3)).sum.sub
    (isFactor_digits 2).product).number
  rw [Nat.cast_ofNat, Nat.cast_ofNat,
    tdiv_mul_sub hfirst (UInt32.lt_of_le_of_lt hlast (by decide))] at hnumber
  simp only [String.append_assoc] at hnumber
  have hline : fillArguments "%s-%02d-01 00:00:00".toList
      [.text (padded 4 d.year.toInt.toNat), .number (quarterStartMonth d.month).toNat] =
        some (padded 4 d.year.toInt.toNat ++ "-" ++ padded 2 (quarterStartMonth d.month).toNat ++
          "-01 00:00:00").toList := by
    simp [fillArguments, paddedNumber_natCast]
  have hprinted := printed?_of_reads (by decide) htext hnumber hline
  rw [hopen, hmiddle, hclose]
  simp only [String.append_assoc] at hprinted ⊢
  exact hprinted

end Sqlite

/-! ## Drivers -/

/-- The key that H2 reads back. -/
def H2.bareKey (d : YearMonth) : String :=
  toString d.year.toInt ++ padded 2 (quarterStartMonth d.month).toNat

/-- What an expression for a date becomes when it is cut to quarters. -/
structure StartsQuarters (options : TranslateOptions) (put : Value → TranslateM String)
    (h2Operand sqliteOperand : Reader YearMonth) (e : Expr) (d : YearMonth) : Prop where
  h2 : Writes
    ((⟨H2.descriptor, [Ansi.descriptor]⟩ : Driver).write options put (.truncate .quarter e))
    fun s => H2.quarterKey? h2Operand s = some (H2.bareKey d)
  /-- H2's key is the one of the pure helper from the year 1000 on, and before it is not. -/
  bareKey_iff : H2.bareKey d = quarterStartKey d.year d.month ↔ 1000 ≤ d.year
  sqlite : Writes
    ((⟨Sqlite.descriptor, [Ansi.descriptor]⟩ : Driver).write options put (.truncate .quarter e))
    fun s => Sqlite.printed? sqliteOperand s = some (padded 4 d.year.toInt.toNat ++ "-" ++
      padded 2 (quarterStartMonth d.month).toNat ++ "-01 00:00:00")
  /-- The pure helper gives the last first month of a quarter up to a month, but for the two largest
  numbers of 32 bits. -/
  isGreatest_iff : ∀ month, 1 ≤ month →
    (IsGreatest {n | n % 3 = 1 ∧ n ≤ month} (quarterStartMonth month) ↔ month < 4294967294)

/-- Both drivers start a quarter with its first month, in every year from 0 on and for every operand
that stands for a date. -/
theorem startsQuarters {options : TranslateOptions} {put : Value → TranslateM String}
    {h2Operand sqliteOperand : Reader YearMonth} {e : Expr} {d : YearMonth}
    (hyear : 0 ≤ d.year) (hfirst : 1 ≤ d.month) (hlast : d.month ≤ 12)
    (hh2 : Writes ((⟨H2.descriptor, [Ansi.descriptor]⟩ : Driver).write options put e)
      (Reads h2Operand (Follows isStop) · d))
    (hsqlite : Writes ((⟨Sqlite.descriptor, [Ansi.descriptor]⟩ : Driver).write options put e)
      (Reads sqliteOperand (Follows isStop) · d)) :
    StartsQuarters options put h2Operand sqliteOperand e d where
  h2 := hh2.bind fun _ hs => hh2.bind fun _ ht =>
    writes_pure (H2.quarterKey?_eq hfirst hlast hs ht)
  bareKey_iff := toString_append_eq_quarterStartKey_iff hyear d.month
  sqlite := hsqlite.bind fun _ hs => hsqlite.bind fun _ ht =>
    writes_pure (Sqlite.printed?_eq hfirst hlast hs ht)
  isGreatest_iff _ hmonth := quarterStartMonth_isGreatest_iff hmonth

/-- One text that stands for one month. -/
def constantMonth (text : String) (d : YearMonth) : Reader YearMonth :=
  mapped (fun _ => d) (expect text)

theorem reads_constantMonth (text : String) (d : YearMonth) (stops : List Char → Prop) :
    Reads (constantMonth text d) stops text d := by
  intro rest _
  rw [constantMonth, mapped, expect_append]
  rfl

/-- For a column that holds a day in December 2024. -/
theorem startsQuarters_december :
    StartsQuarters {} (fun _ => pure "?") (constantMonth "\"ts\"" ⟨2024, 12⟩)
      (constantMonth "\"ts\"" ⟨2024, 12⟩) (.column none "ts") ⟨2024, 12⟩ :=
  startsQuarters (by decide) (by decide) (by decide)
    (fun bound => ⟨"\"ts\"", bound, by rfl, reads_constantMonth _ _ _⟩)
    (fun bound => ⟨"\"ts\"", bound, by rfl, reads_constantMonth _ _ _⟩)

/-- For a day in December 987, H2 reads back five digits where the key has six. -/
theorem h2_key_misses_zero :
    ∃ s, ((⟨H2.descriptor, [Ansi.descriptor]⟩ : Driver).write {} (fun _ => pure "?")
        (.truncate .quarter (.column none "ts"))).after [] = (.ok s, []) ∧
      H2.quarterKey? (constantMonth "\"ts\"" ⟨987, 12⟩) s = some "98710" ∧
      quarterStartKey 987 12 = "098710" := by
  refine ⟨_, rfl, ?_, ?_⟩ <;> decide +kernel

end Sluice
