import Sluice.Calendar.Text
import Sluice.Proofs.Calendar.Week
import Sluice.Proofs.Translation.Leaves

/-!
# Reading arithmetic

What a backend computes from a text, as far as days of the week and weeks need it: sums, differences
and remainders of integers with their usual precedence, next to calls that number the day of a point
in time, cut a point in time to its day, and add days to it. How the calls are spelled is the
backend's own, and so is what else stands for a point in time.
-/

namespace Sluice.Arithmetic

open Calendar (Reader)
open Week

variable {α β : Type}

/-! ## Readers -/

def expect (text : String) : Reader Unit := fun cs =>
  if text.toList.isPrefixOf cs then some ((), cs.drop text.toList.length) else none

def mapped (f : α → β) (p : Reader α) : Reader β := fun cs =>
  (p cs).map fun (a, rest) => (f a, rest)

/-- The first of two readers that recognises a text. -/
def either (p q : Reader α) : Reader α := fun cs => p cs <|> q cs

def enclosed (before : String) (p : Reader α) (after : String) : Reader α := fun cs => do
  let (_, cs) ← expect before cs
  let (a, cs) ← p cs
  let (_, cs) ← expect after cs
  return (a, cs)

def separated (p : Reader α) (between : String) (q : Reader β) : Reader (α × β) := fun cs => do
  let (a, cs) ← p cs
  let (_, cs) ← expect between cs
  let (b, cs) ← q cs
  return ((a, b), cs)

def digits : Reader Int := fun cs =>
  let ds := cs.takeWhile Char.isDigit
  if ds.isEmpty then none else some (Nat.ofDigitChars 10 ds 0, cs.dropWhile Char.isDigit)

/-- An operator between two operands. -/
abbrev Operator := String × (Int → Int → Int)

/-- The operator at the front of a text. -/
def operator : List Operator → Reader (Int → Int → Int)
  | [] => fun _ => none
  | (token, op) :: ops => either (mapped (fun _ => op) (expect token)) (operator ops)

/-- An operand, or two with an operator between them. -/
def infixed (ops : List Operator) (p : Reader Int) : Reader Int := fun cs => do
  let (x, cs) ← p cs
  match operator ops cs with
  | none => return (x, cs)
  | some (op, cs) => mapped (op x) p cs

/-! ## What readers read -/

/-- The reader takes this text off the front, whatever admissible text follows. -/
def Reads (p : Reader α) (stops : List Char → Prop) (s : String) (a : α) : Prop :=
  ∀ rest, stops rest → p (s.toList ++ rest) = some (a, rest)

/-- The reader recognises no text with this beginning. -/
def Rejects (p : Reader α) (text : String) : Prop := ∀ rest, p (text.toList ++ rest) = none

/-- Two texts that differ before either of them ends. -/
def differ : List Char → List Char → Bool
  | c :: cs, d :: ds => c != d || differ cs ds
  | _, _ => false

theorem expect_append (text : String) (rest : List Char) :
    expect text (text.toList ++ rest) = some ((), rest) := by
  rw [expect, if_pos (List.isPrefixOf_iff_prefix.mpr (List.prefix_append _ _)),
    List.drop_left' rfl]

theorem not_isPrefixOf_of_differ {cs ds : List Char} (h : differ cs ds = true) (rest : List Char) :
    ¬ cs.isPrefixOf (ds ++ rest) = true := by
  induction cs generalizing ds with
  | nil => exact nomatch h
  | cons c cs ih =>
      cases ds with
      | nil => exact nomatch h
      | cons d ds =>
          rw [differ, Bool.or_eq_true, bne_iff_ne] at h
          rw [List.cons_append, List.isPrefixOf_cons_cons, Bool.and_eq_true, beq_iff_eq]
          rintro ⟨rfl, hrest⟩
          obtain hne | hdiffer := h
          · exact hne rfl
          · exact ih hdiffer hrest

theorem rejects_expect {text other : String} (h : differ text.toList other.toList = true) :
    Rejects (expect text) other :=
  fun rest => if_neg (not_isPrefixOf_of_differ h rest)

section

variable {p q : Reader α} {r : Reader β} {stops stops' : List Char → Prop} {s t : String} {a : α}
  {b : β} {before after text : String}

theorem Reads.mono (h : Reads p stops s a) (hstops : ∀ rest, stops' rest → stops rest) :
    Reads p stops' s a :=
  fun rest hrest => h rest (hstops rest hrest)

theorem Reads.mapped (f : α → β) (h : Reads p stops s a) : Reads (mapped f p) stops s (f a) := by
  intro rest hrest
  rw [Arithmetic.mapped, h rest hrest]
  rfl

theorem Reads.enclosed (h : Reads p stops s a) (before after : String)
    (stops' : List Char → Prop) (hafter : ∀ rest, stops (after.toList ++ rest)) :
    Reads (enclosed before p after) stops' (before ++ s ++ after) a := by
  intro rest _
  have hinner := h (after.toList ++ rest) (hafter rest)
  simp only [Arithmetic.enclosed, String.toList_append, List.append_assoc, expect_append, hinner,
    Option.bind_eq_bind, Option.bind_some]
  rfl

theorem Reads.separated (h : Reads p stops s a) (between : String) (h' : Reads r stops' t b)
    (hbetween : ∀ rest, stops (between.toList ++ rest)) :
    Reads (separated p between r) stops' (s ++ between ++ t) (a, b) := by
  intro rest hrest
  have hfirst := h (between.toList ++ (t.toList ++ rest)) (hbetween _)
  simp only [Arithmetic.separated, String.toList_append, List.append_assoc, expect_append, hfirst,
    h' rest hrest, Option.bind_eq_bind, Option.bind_some]
  rfl

theorem Reads.either_left (h : Reads p stops s a) : Reads (either p q) stops s a := by
  intro rest hrest
  rw [either, h rest hrest]
  rfl

theorem Reads.either_right (h : Reads q stops s a) (hp : Rejects p s) :
    Reads (either p q) stops s a := by
  intro rest hrest
  rw [either, hp rest, h rest hrest]
  rfl

theorem Rejects.enclosed (h : Rejects p before) : Rejects p (before ++ s ++ after) := by
  intro rest
  simp only [String.toList_append, List.append_assoc]
  exact h _

theorem Rejects.mapped (f : α → β) (h : Rejects p text) : Rejects (mapped f p) text := by
  intro rest
  rw [Arithmetic.mapped, h rest]
  rfl

theorem rejects_enclosed (h : differ before.toList text.toList = true) :
    Rejects (enclosed before p after) text := by
  intro rest
  rw [enclosed, rejects_expect h rest]
  rfl

end

/-! ## Digits -/

/-- The next character, if there is one, is of a kind. -/
def Follows (kind : Char → Bool) (rest : List Char) : Prop := ∀ c ∈ rest.head?, kind c = true

theorem follows_append {kind : Char → Bool} {text : String}
    (h : text.toList.head?.any kind = true) (rest : List Char) :
    Follows kind (text.toList ++ rest) := by
  cases htext : text.toList with
  | nil =>
      rw [htext] at h
      exact nomatch h
  | cons c cs =>
      rw [htext] at h
      rintro _ ⟨⟩
      exact h

/-- What follows a number or a point in time. -/
def isStop (c : Char) : Bool := c = ')' || c = ',' || c = ' '

/-- What follows a whole sum. -/
def isEnd (c : Char) : Bool := c = ')' || c = ','

theorem isStop_of_isEnd {c : Char} (h : isEnd c = true) : isStop c = true := by
  rw [isStop, Bool.or_eq_true]
  exact .inl h

theorem not_isDigit_of_isStop {c : Char} (h : isStop c = true) : c.isDigit = false := by
  simp only [isStop, Bool.or_eq_true, decide_eq_true_eq] at h
  obtain (rfl | rfl) | rfl := h <;> decide

theorem reads_digits (n : Nat) : Reads digits (Follows isStop) (toString n) n := by
  intro rest hrest
  have hdigits : ∀ c ∈ (toString n).toList, c.isDigit = true := fun c => isDigit_of_mem_natText
  have hstop : rest.takeWhile Char.isDigit = [] ∧ rest.dropWhile Char.isDigit = rest := by
    cases rest with
    | nil => exact ⟨rfl, rfl⟩
    | cons c rest =>
        have hc := not_isDigit_of_isStop (hrest c rfl)
        simp [hc]
  have hvalue : Nat.ofDigitChars 10 (toString n).toList 0 = n := by
    rw [Nat.toString_eq_repr, Nat.toList_repr, Nat.ofDigitChars_ten_toDigits]
  have hsome : ¬ (toString n).toList.isEmpty = true := by
    rw [List.isEmpty_iff]
    exact natText_ne_nil n
  simp only [digits, List.takeWhile_append_of_pos hdigits, List.dropWhile_append_of_pos hdigits,
    hstop.1, hstop.2, List.append_nil, if_neg hsome, hvalue]

theorem rejects_digits {text : String} (h : text.toList.head?.any (!·.isDigit) = true) :
    Rejects digits text := by
  intro rest
  cases htext : text.toList with
  | nil =>
      rw [htext] at h
      exact nomatch h
  | cons c cs =>
      rw [htext] at h
      have hc : c.isDigit = false := by simpa using h
      simp [digits, hc]

/-! ## Operators -/

/-- No operator follows. -/
def NoOperator (ops : List Operator) (rest : List Char) : Prop := operator ops rest = none

section

variable {p : Reader Int} {stops stops' : List Char → Prop} {ops : List Operator} {s t token : String}
  {x y : Int}

theorem Reads.alone (h : Reads p stops s x) (hrest : ∀ rest, stops' rest → stops rest)
    (hops : ∀ rest, stops' rest → NoOperator ops rest) : Reads (infixed ops p) stops' s x := by
  intro rest hstops
  have hnone : operator ops rest = none := hops rest hstops
  simp only [infixed, h rest (hrest rest hstops), hnone, Option.bind_eq_bind, Option.bind_some]
  rfl

theorem Reads.infixed {op : Int → Int → Int} (h : Reads p stops s x) (h' : Reads p stops' t y)
    (htoken : ∀ rest, stops (token.toList ++ rest))
    (hop : ∀ rest, operator ops (token.toList ++ rest) = some (op, rest)) :
    Reads (infixed ops p) stops' (s ++ token ++ t) (op x y) := by
  intro rest hrest
  have hfirst := h (token.toList ++ (t.toList ++ rest)) (htoken _)
  have hsecond := h'.mapped (op x) rest hrest
  simp only [Arithmetic.infixed, String.toList_append, List.append_assoc, hfirst, hop, hsecond,
    Option.bind_eq_bind, Option.bind_some]

end

theorem operator_cons_append (token : String) (op : Int → Int → Int) (ops : List Operator)
    (rest : List Char) : operator ((token, op) :: ops) (token.toList ++ rest) = some (op, rest) := by
  rw [operator, either, mapped, expect_append]
  rfl

theorem operator_cons_of_rejects {token : String} {op : Int → Int → Int} {ops : List Operator}
    {text : String} (h : Rejects (expect token) text) (rest : List Char) :
    operator ((token, op) :: ops) (text.toList ++ rest) = operator ops (text.toList ++ rest) := by
  rw [operator, either, h.mapped _ rest]
  rfl

theorem expect_eq_none_of_head {text : String} {rest : List Char}
    (h : ∃ c ∈ text.toList.head?, c ∉ rest.head?) : expect text rest = none := by
  obtain ⟨c, hc, hrest⟩ := h
  refine if_neg ?_
  rw [List.isPrefixOf_iff_prefix]
  rintro ⟨more, rfl⟩
  apply hrest
  rw [List.head?_append, hc]
  rfl

theorem noOperator_of_head {ops : List Operator} {rest : List Char}
    (h : ∀ o ∈ ops, ∃ c ∈ o.1.toList.head?, c ∉ rest.head?) : NoOperator ops rest := by
  induction ops with
  | nil => rfl
  | cons o ops ih =>
      obtain ⟨ho, hops⟩ := List.forall_mem_cons.mp h
      have hrest : operator ops rest = none := ih hops
      rw [NoOperator, operator, either, mapped, expect_eq_none_of_head ho, hrest]
      rfl

/-! ## Sums -/

def remainder : List Operator := [(" % ", Int.tmod)]

def addition : List Operator := [(" + ", (· + ·)), (" - ", (· - ·))]

def product (factor : Reader Int) : Reader Int := infixed remainder factor

def sum (factor : Reader Int) : Reader Int := infixed addition (product factor)

/-! ## Calls -/

/-- How a backend spells what weeks are computed from. -/
structure Spelling where
  /-- What stands around a point in time to number the day of the week. -/
  dayNumber : String × String
  /-- The number that this gives each day, by the backend's documentation. -/
  numbering : Weekday → Int
  /-- What stands around a point in time to cut it to its day. -/
  midnight : String × String
  /-- What stands around and between a point in time and a number of days to add to it. -/
  addDays : String × String × String
  amountFirst : Bool

/-- The readers of points in time and of the operands of operators. -/
structure Level where
  time : Reader Int
  factor : Reader Int

namespace Spelling

variable (spelling : Spelling) (operand : Reader Int)

def call (inner : Level) : Reader Int :=
  mapped (fun x => spelling.numbering (Weekday.ofDays (dayOf x)))
    (enclosed spelling.dayNumber.1 inner.time spelling.dayNumber.2)

def cut (inner : Level) : Reader Int :=
  mapped (fun x => Week.midnight (dayOf x))
    (enclosed spelling.midnight.1 inner.time spelling.midnight.2)

def shift (inner : Level) : Reader Int :=
  if spelling.amountFirst then
    mapped (fun (n, x) => x + n * dayLength) (enclosed spelling.addDays.1
      (separated (sum inner.factor) spelling.addDays.2.1 inner.time) spelling.addDays.2.2)
  else
    mapped (fun (x, n) => x + n * dayLength) (enclosed spelling.addDays.1
      (separated inner.time spelling.addDays.2.1 (sum inner.factor)) spelling.addDays.2.2)

/-- Texts may nest as deep as the bound. What is no call is read by `operand`. -/
def level : (depth : Nat) → Level
  | 0 => ⟨fun _ => none, fun _ => none⟩
  | depth + 1 =>
    let inner := level depth
    { time := either (spelling.cut inner) (either (spelling.shift inner) operand)
      factor := either digits <| either (enclosed "(" (sum inner.factor) ")") <|
        either (mapped (fun (x, y) => x.tmod y)
          (enclosed "MOD(" (separated (sum inner.factor) ", " (sum inner.factor)) ")")) <|
          spelling.call inner }

/-- The point in time that a whole text is. The length of a text bounds its depth. -/
def time? (s : String) : Option Int := do
  let (x, rest) ← (spelling.level operand (s.length + 1)).time s.toList
  if rest.isEmpty then some x else none

/-- The number that a whole text is. -/
def number? (s : String) : Option Int := do
  let (x, rest) ← sum (spelling.level operand (s.length + 1)).factor s.toList
  if rest.isEmpty then some x else none

/-- The text is a point in time, whatever follows it. -/
def ReadsTime (s : String) (x : Int) : Prop :=
  ∀ depth, s.length < depth → Reads (spelling.level operand depth).time (Follows isStop) s x

/-- The text is a number that can be an operand of any operator. -/
def ReadsFactor (s : String) (x : Int) : Prop :=
  ∀ depth, s.length < depth → Reads (spelling.level operand depth).factor (Follows isStop) s x

def ReadsProduct (s : String) (x : Int) : Prop :=
  ∀ depth, s.length < depth → Reads (product (spelling.level operand depth).factor)
    (fun rest => Follows isStop rest ∧ NoOperator remainder rest) s x

def ReadsSum (s : String) (x : Int) : Prop :=
  ∀ depth, s.length < depth → Reads (sum (spelling.level operand depth).factor) (Follows isEnd) s x

/-- The calls are told apart by how they begin, and no operand reaches past its end. -/
structure Legible : Prop where
  call_paren : differ "(".toList spelling.dayNumber.1.toList = true
  call_mod : differ "MOD(".toList spelling.dayNumber.1.toList = true
  call_digit : spelling.dayNumber.1.toList.head?.any (!·.isDigit) = true
  call_end : spelling.dayNumber.2.toList.head?.any isStop = true
  cut_shift : differ spelling.midnight.1.toList spelling.addDays.1.toList = true
  cut_end : spelling.midnight.2.toList.head?.any isStop = true
  shift_between : spelling.addDays.2.1.toList.head?.any
    (if spelling.amountFirst then isEnd else isStop) = true
  shift_end : spelling.addDays.2.2.toList.head?.any
    (if spelling.amountFirst then isStop else isEnd) = true

end Spelling

/-! ## Rules of numbers -/

namespace Spelling

variable {spelling : Spelling} {operand : Reader Int} {s t : String} {x y : Int}

theorem ReadsFactor.product (h : spelling.ReadsFactor operand s x) :
    spelling.ReadsProduct operand s x :=
  fun depth hdepth => (h depth hdepth).alone (fun _ hrest => hrest.1) (fun _ hrest => hrest.2)

/-- Operators begin with a blank, and no whole sum stands before one. -/
theorem noOperator_of_ends {ops : List Operator} {rest : List Char} (h : Follows isEnd rest)
    (hops : ∀ o ∈ ops, ' ' ∈ o.1.toList.head?) : NoOperator ops rest := by
  refine noOperator_of_head fun o ho => ⟨' ', hops o ho, fun hmem => ?_⟩
  exact absurd (h ' ' hmem) (by decide)

theorem stops_of_ends {rest : List Char} (h : Follows isEnd rest) :
    Follows isStop rest ∧ NoOperator remainder rest :=
  ⟨fun c hc => isStop_of_isEnd (h c hc), noOperator_of_ends h (by decide)⟩

theorem ReadsProduct.sum (h : spelling.ReadsProduct operand s x) :
    spelling.ReadsSum operand s x :=
  fun depth hdepth => (h depth hdepth).alone (fun _ => stops_of_ends)
    (fun _ hrest => noOperator_of_ends hrest (by decide))

theorem ReadsFactor.sum (h : spelling.ReadsFactor operand s x) : spelling.ReadsSum operand s x :=
  h.product.sum

/-- The bound that is left for what is enclosed. -/
theorem exists_depth {before after : String} {depth : Nat} (hbefore : 0 < before.length)
    (h : (before ++ s ++ after).length < depth) :
    ∃ inner, depth = inner + 1 ∧ s.length < inner := by
  simp only [String.length_append] at h
  exact ⟨depth - 1, by omega, by omega⟩

theorem readsFactor_digits (n : Nat) : spelling.ReadsFactor operand (toString n) n := by
  intro depth hdepth
  obtain ⟨inner, rfl⟩ := Nat.exists_eq_add_of_lt hdepth
  exact (reads_digits n).either_left

theorem ReadsSum.paren (h : spelling.ReadsSum operand s x) :
    spelling.ReadsFactor operand ("(" ++ s ++ ")") x := by
  intro depth hdepth
  obtain ⟨inner, rfl, hinner⟩ := exists_depth (by decide) hdepth
  have hparen := (h inner hinner).enclosed "(" ")" (Follows isStop) (follows_append (by decide))
  have hdigits : Rejects digits "(" := rejects_digits (by decide)
  exact hparen.either_left.either_right hdigits.enclosed

theorem ReadsSum.mod (h : spelling.ReadsSum operand s x) (h' : spelling.ReadsSum operand t y) :
    spelling.ReadsFactor operand ("MOD(" ++ (s ++ ", " ++ t) ++ ")") (x.tmod y) := by
  intro depth hdepth
  obtain ⟨inner, rfl, hinner⟩ := exists_depth (by decide) hdepth
  simp only [String.length_append] at hinner
  have hboth := (h inner (by omega)).separated ", " (h' inner (by omega))
    (follows_append (by decide))
  have hmod := (hboth.enclosed "MOD(" ")" (Follows isStop) (follows_append (by decide))).mapped
    fun (x, y) => x.tmod y
  have hdigits : Rejects digits "MOD(" := rejects_digits (by decide)
  have hparen : Rejects (enclosed "(" (Arithmetic.sum (spelling.level operand inner).factor) ")")
      "MOD(" := rejects_enclosed (by decide)
  exact (hmod.either_left.either_right hparen.enclosed).either_right hdigits.enclosed

theorem ReadsFactor.rem (h : spelling.ReadsFactor operand s x)
    (h' : spelling.ReadsFactor operand t y) :
    spelling.ReadsProduct operand (s ++ " % " ++ t) (x.tmod y) := by
  intro depth hdepth
  simp only [String.length_append] at hdepth
  exact (h depth (by omega)).infixed ((h' depth (by omega)).mono fun _ hrest => hrest.1)
    (follows_append (by decide)) (operator_cons_append _ _ _)

/-- A sum or a difference. -/
theorem ReadsProduct.infixed {token : String} (op : Int → Int → Int)
    (h : spelling.ReadsProduct operand s x) (h' : spelling.ReadsProduct operand t y)
    (htoken : token.toList.head?.any isStop = true)
    (hremainder : Rejects (expect " % ") token)
    (hop : ∀ rest, operator addition (token.toList ++ rest) = some (op, rest)) :
    spelling.ReadsSum operand (s ++ token ++ t) (op x y) := by
  intro depth hdepth
  simp only [String.length_append] at hdepth
  exact (h depth (by omega)).infixed ((h' depth (by omega)).mono fun _ => stops_of_ends)
    (fun rest => ⟨follows_append htoken rest, operator_cons_of_rejects hremainder rest⟩) hop

theorem ReadsProduct.add (h : spelling.ReadsProduct operand s x)
    (h' : spelling.ReadsProduct operand t y) :
    spelling.ReadsSum operand (s ++ " + " ++ t) (x + y) :=
  h.infixed (· + ·) h' (by decide) (rejects_expect (by decide)) (operator_cons_append _ _ _)

theorem ReadsProduct.sub (h : spelling.ReadsProduct operand s x)
    (h' : spelling.ReadsProduct operand t y) :
    spelling.ReadsSum operand (s ++ " - " ++ t) (x - y) := by
  refine h.infixed (· - ·) h' (by decide) (rejects_expect (by decide)) fun rest => ?_
  have hplus : Rejects (expect " + ") " - " := rejects_expect (by decide)
  rw [addition, operator_cons_of_rejects hplus, operator_cons_append]

/-! ## Rules of calls -/

theorem length_pos_of_differ {s t : String} (h : differ s.toList t.toList = true) :
    0 < s.length ∧ 0 < t.length := by
  rw [← String.length_toList, ← String.length_toList]
  cases hs : s.toList with
  | nil =>
      rw [hs] at h
      exact nomatch h
  | cons c cs =>
      cases ht : t.toList with
      | nil =>
          rw [hs, ht] at h
          exact nomatch h
      | cons d ds => exact ⟨Nat.succ_pos _, Nat.succ_pos _⟩

theorem ReadsTime.number (h : spelling.ReadsTime operand s x) (hlegible : spelling.Legible) :
    spelling.ReadsFactor operand (spelling.dayNumber.1 ++ s ++ spelling.dayNumber.2)
      (spelling.numbering (Weekday.ofDays (dayOf x))) := by
  intro depth hdepth
  obtain ⟨inner, rfl, hinner⟩ := exists_depth (length_pos_of_differ hlegible.call_paren).2 hdepth
  have hcall := ((h inner hinner).enclosed spelling.dayNumber.1 spelling.dayNumber.2
    (Follows isStop) (follows_append hlegible.call_end)).mapped
      fun x => spelling.numbering (Weekday.ofDays (dayOf x))
  refine ((hcall.either_right ?_).either_right ?_).either_right ?_
  · exact ((rejects_enclosed hlegible.call_mod).mapped _).enclosed
  · exact (rejects_enclosed hlegible.call_paren).enclosed
  · exact (rejects_digits hlegible.call_digit).enclosed

theorem ReadsTime.cut (h : spelling.ReadsTime operand s x) (hlegible : spelling.Legible) :
    spelling.ReadsTime operand (spelling.midnight.1 ++ s ++ spelling.midnight.2)
      (Week.midnight (dayOf x)) := by
  intro depth hdepth
  obtain ⟨inner, rfl, hinner⟩ := exists_depth (length_pos_of_differ hlegible.cut_shift).1 hdepth
  have hcut := ((h inner hinner).enclosed spelling.midnight.1 spelling.midnight.2
    (Follows isStop) (follows_append hlegible.cut_end)).mapped fun x => Week.midnight (dayOf x)
  exact hcut.either_left

/-- The text in which an amount of days is added. -/
def shifted (spelling : Spelling) (base amount : String) : String :=
  spelling.addDays.1 ++
    (if spelling.amountFirst then amount ++ spelling.addDays.2.1 ++ base
      else base ++ spelling.addDays.2.1 ++ amount) ++ spelling.addDays.2.2

theorem ReadsTime.shift {n : Int} (h : spelling.ReadsTime operand s x)
    (hamount : spelling.ReadsSum operand t n) (hlegible : spelling.Legible) :
    spelling.ReadsTime operand (spelling.shifted s t) (x + n * dayLength) := by
  obtain ⟨-, -, -, -, hbegin, -, hbetween, hend⟩ := hlegible
  intro depth hdepth
  obtain ⟨inner, rfl, hinner⟩ := exists_depth (length_pos_of_differ hbegin).2 hdepth
  refine Reads.either_right (Reads.either_left ?_) ((rejects_enclosed hbegin).mapped _).enclosed
  rw [Spelling.shift, Spelling.shifted]
  cases horder : spelling.amountFirst with
  | true =>
      simp only [horder, ↓reduceIte, String.length_append] at hbetween hend hinner ⊢
      have hboth := (hamount inner (by omega)).separated spelling.addDays.2.1
        (h inner (by omega)) (follows_append hbetween)
      exact (hboth.enclosed _ _ _ (follows_append hend)).mapped fun (n, x) => x + n * dayLength
  | false =>
      simp only [horder, Bool.false_eq_true, ↓reduceIte, String.length_append]
        at hbetween hend hinner ⊢
      have hboth := (h inner (by omega)).separated spelling.addDays.2.1
        (hamount inner (by omega)) (follows_append hbetween)
      exact (hboth.enclosed _ _ _ (follows_append hend)).mapped fun (x, n) => x + n * dayLength

/-! ## Whole texts -/

theorem ReadsTime.time?_eq (h : spelling.ReadsTime operand s x) :
    spelling.time? operand s = some x := by
  have hread := h (s.length + 1) (Nat.lt_succ_self _) [] nofun
  rw [List.append_nil] at hread
  rw [time?, hread]
  rfl

theorem ReadsSum.number?_eq (h : spelling.ReadsSum operand s x) :
    spelling.number? operand s = some x := by
  have hread := h (s.length + 1) (Nat.lt_succ_self _) [] nofun
  rw [List.append_nil] at hread
  rw [number?, hread]
  rfl

/-! ## Operands -/

/-- One text that stands for one point in time. -/
def constant (text : String) (x : Int) : Reader Int := mapped (fun _ => x) (expect text)

theorem readsTime_constant {text : String} (hcut : differ spelling.midnight.1.toList text.toList = true)
    (hshift : differ spelling.addDays.1.toList text.toList = true) (x : Int) :
    spelling.ReadsTime (constant text x) text x := by
  intro depth hdepth
  obtain ⟨inner, rfl⟩ := Nat.exists_eq_add_of_lt hdepth
  have htext : Reads (constant text x) (Follows isStop) text x := by
    intro rest _
    rw [constant, mapped, expect_append]
    rfl
  refine (htext.either_right ?_).either_right ((rejects_enclosed hcut).mapped _)
  rw [Spelling.shift]
  split
  · exact (rejects_enclosed hshift).mapped _
  · exact (rejects_enclosed hshift).mapped _

end Spelling

end Sluice.Arithmetic
