import Sluice.Proofs.Translation.Arithmetic

/-!
# Chains of operators

Sums and products of any length, read from the left: every operator takes all that stands before it
for its first operand. Products bind their operands first.
-/

namespace Sluice.Arithmetic

open Calendar (Reader)

/-! ## Chains -/

/-- The operators that follow a first operand, with their second ones. At most so many are read. -/
def links (ops : List Operator) (p : Reader Int) : Nat → Int → Reader Int
  | 0, x, cs => some (x, cs)
  | n + 1, x, cs =>
    match operator ops cs with
    | none => some (x, cs)
    | some (op, cs) => do
      let (y, cs) ← p cs
      links ops p n (op x y) cs

/-- Operands with operators between them. There are not more operators than characters. -/
def chain (ops : List Operator) (p : Reader Int) : Reader Int := fun cs => do
  let (x, cs) ← p cs
  links ops p cs.length x cs

/-- A chain and its value. -/
inductive Chains (ops : List Operator) (p : Reader Int) (stops : List Char → Prop) :
    String → Int → Prop where
  | first {s x} : Reads p stops s x → Chains ops p stops s x
  | next {s x token op t y} : Chains ops p stops s x →
      (∀ rest, operator ops (token.toList ++ rest) = some (op, rest)) →
      (∀ rest, stops (token.toList ++ rest)) → 0 < token.length → Reads p stops t y →
      Chains ops p stops (s ++ token ++ t) (op x y)

section

variable {ops : List Operator} {p : Reader Int} {stops stops' : List Char → Prop} {s : String}
  {x : Int}

theorem links_of_noOperator {rest : List Char} (h : NoOperator ops rest) (n : Nat) :
    links ops p n x rest = some (x, rest) := by
  cases n with
  | zero => rfl
  | succ n =>
      have hnone : operator ops rest = none := h
      simp only [links, hnone]

/-- A chain leaves its value to what follows it, and enough links to read all of that. -/
theorem Chains.exists_links (h : Chains ops p stops s x) {rest : List Char} (hrest : stops rest) :
    ∃ n, rest.length ≤ n ∧ chain ops p (s.toList ++ rest) = links ops p n x rest := by
  -- what follows a part of the chain begins with the next operator, so the rest is general
  induction h generalizing rest with
  | @first s x hs =>
      refine ⟨rest.length, le_rfl, ?_⟩
      simp only [chain, hs rest hrest, Option.bind_eq_bind, Option.bind_some]
  | @next s x token op t y _ hop hstops hlength ht ih =>
      obtain ⟨n, hn, hchain⟩ := ih (hstops (t.toList ++ rest))
      rw [← String.length_toList] at hlength
      simp only [List.length_append] at hn
      obtain ⟨m, rfl⟩ := Nat.exists_eq_succ_of_ne_zero (n := n) (by omega)
      refine ⟨m, by omega, ?_⟩
      simp only [String.toList_append, List.append_assoc, hchain, links, hop, ht rest hrest,
        Option.bind_eq_bind, Option.bind_some]

theorem Chains.reads (h : Chains ops p stops s x) (hstops : ∀ rest, stops' rest → stops rest)
    (hops : ∀ rest, stops' rest → NoOperator ops rest) : Reads (chain ops p) stops' s x := by
  intro rest hrest
  obtain ⟨n, -, hchain⟩ := h.exists_links (hstops rest hrest)
  rw [hchain, links_of_noOperator (hops rest hrest)]

end

/-- No operator begins as the text does. -/
theorem noOperator_append {ops : List Operator} {text : String}
    (h : ∀ o ∈ ops, differ o.1.toList text.toList = true) (rest : List Char) :
    NoOperator ops (text.toList ++ rest) := by
  induction ops with
  | nil => rfl
  | cons o ops ih =>
      obtain ⟨ho, hops⟩ := List.forall_mem_cons.mp h
      rw [NoOperator, operator_cons_of_rejects (rejects_expect ho)]
      exact ih hops

theorem length_pos_of_head {kind : Char → Bool} {text : String}
    (h : text.toList.head?.any kind = true) : 0 < text.length := by
  rw [← String.length_toList, List.length_pos_iff]
  intro hnil
  rw [hnil] at h
  exact nomatch h

/-! ## Integer arithmetic -/

/-- Operators that bind more than addition; division drops the fraction. -/
def multiplication : List Operator :=
  [(" * ", (· * ·)), (" / ", Int.tdiv), (" % ", Int.tmod)]

/-- An operand: digits, a sum in parentheses, or what the backend adds to these. -/
def factor (call : Reader Int) : (depth : Nat) → Reader Int
  | 0 => fun _ => none
  | depth + 1 =>
    either digits <|
      either (enclosed "(" (chain addition (chain multiplication (factor call depth))) ")") call

def number (call : Reader Int) (depth : Nat) : Reader Int :=
  chain addition (chain multiplication (factor call depth))

/-- The end of a product. -/
structure EndsProduct (rest : List Char) : Prop where
  stop : Follows isStop rest
  multiplication : NoOperator multiplication rest

/-- The end of a sum. -/
structure EndsSum (rest : List Char) : Prop extends EndsProduct rest where
  addition : NoOperator addition rest

/-- The text is an operand of any operator, read with any depth from its length on. -/
def IsFactor (call : Reader Int) (s : String) (x : Int) : Prop :=
  ∀ depth, s.length < depth → Reads (factor call depth) (Follows isStop) s x

def IsProduct (call : Reader Int) (s : String) (x : Int) : Prop :=
  ∀ depth, s.length < depth →
    Chains multiplication (factor call depth) (Follows isStop) s x

def IsSum (call : Reader Int) (s : String) (x : Int) : Prop :=
  ∀ depth, s.length < depth →
    Chains addition (chain multiplication (factor call depth)) EndsProduct s x

def IsNumber (call : Reader Int) (s : String) (x : Int) : Prop :=
  ∀ depth, s.length < depth → Reads (number call depth) EndsSum s x

theorem endsProduct_append {text : String} (hstop : text.toList.head?.any isStop = true)
    (hops : ∀ o ∈ multiplication, differ o.1.toList text.toList = true) (rest : List Char) :
    EndsProduct (text.toList ++ rest) :=
  ⟨follows_append hstop rest, noOperator_append hops rest⟩

theorem endsSum_append {text : String} (hstop : text.toList.head?.any isStop = true)
    (hops : ∀ o ∈ multiplication ++ addition, differ o.1.toList text.toList = true)
    (rest : List Char) : EndsSum (text.toList ++ rest) :=
  ⟨endsProduct_append hstop (fun o ho => hops o (List.mem_append_left _ ho)) rest,
    noOperator_append (fun o ho => hops o (List.mem_append_right _ ho)) rest⟩

section

variable {call : Reader Int} {s t before after : String} {x y : Int}

theorem isFactor_digits (n : Nat) : IsFactor call (toString n) n := by
  intro depth hdepth
  obtain ⟨inner, rfl⟩ := Nat.exists_eq_add_of_lt hdepth
  exact (reads_digits n).either_left

/-- What the backend adds is told from the rest by its beginning. -/
theorem isFactor_call (h : Reads call (Follows isStop) (before ++ s ++ after) x)
    (hdigits : before.toList.head?.any (!·.isDigit) = true)
    (hparen : differ "(".toList before.toList = true) :
    IsFactor call (before ++ s ++ after) x := by
  intro depth hdepth
  obtain ⟨inner, rfl⟩ := Nat.exists_eq_add_of_lt hdepth
  refine (h.either_right ?_).either_right (rejects_digits hdigits).enclosed
  exact Rejects.enclosed (rejects_enclosed hparen)

theorem IsNumber.paren (h : IsNumber call s x) : IsFactor call ("(" ++ s ++ ")") x := by
  intro depth hdepth
  obtain ⟨inner, rfl, hinner⟩ := Spelling.exists_depth (by decide) hdepth
  have hparen := (h inner hinner).enclosed "(" ")" (Follows isStop)
    (endsSum_append (by decide) (by decide))
  have hdigits : Rejects digits "(" := rejects_digits (by decide)
  exact hparen.either_left.either_right hdigits.enclosed

theorem IsFactor.product (h : IsFactor call s x) : IsProduct call s x :=
  fun depth hdepth => .first (h depth hdepth)

/-- One more factor behind a product. -/
theorem IsProduct.step {token : String} {op : Int → Int → Int} (h : IsProduct call s x)
    (h' : IsFactor call t y) (htoken : token.toList.head?.any isStop = true)
    (hop : ∀ rest, operator multiplication (token.toList ++ rest) = some (op, rest)) :
    IsProduct call (s ++ token ++ t) (op x y) := by
  intro depth hdepth
  simp only [String.length_append] at hdepth
  exact .next (h depth (by omega)) hop (follows_append htoken)
    (length_pos_of_head htoken) (h' depth (by omega))

theorem IsProduct.times (h : IsProduct call s x) (h' : IsFactor call t y) :
    IsProduct call (s ++ " * " ++ t) (x * y) :=
  h.step h' (by decide) (operator_cons_append _ _ _)

theorem IsProduct.div (h : IsProduct call s x) (h' : IsFactor call t y) :
    IsProduct call (s ++ " / " ++ t) (x.tdiv y) := by
  refine h.step h' (by decide) fun rest => ?_
  have htimes : Rejects (expect " * ") " / " := rejects_expect (by decide)
  rw [multiplication, operator_cons_of_rejects htimes, operator_cons_append]

theorem IsProduct.reads (h : IsProduct call s x) {depth : Nat} (hdepth : s.length < depth) :
    Reads (chain multiplication (factor call depth)) EndsProduct s x :=
  (h depth hdepth).reads (fun _ hrest => hrest.stop) fun _ hrest => hrest.multiplication

theorem IsProduct.sum (h : IsProduct call s x) : IsSum call s x :=
  fun _ hdepth => .first (h.reads hdepth)

/-- One more product behind a sum. -/
theorem IsSum.step {token : String} {op : Int → Int → Int} (h : IsSum call s x)
    (h' : IsProduct call t y) (htoken : token.toList.head?.any isStop = true)
    (hdiffer : ∀ o ∈ multiplication, differ o.1.toList token.toList = true)
    (hop : ∀ rest, operator addition (token.toList ++ rest) = some (op, rest)) :
    IsSum call (s ++ token ++ t) (op x y) := by
  intro depth hdepth
  simp only [String.length_append] at hdepth
  exact .next (h depth (by omega)) hop (endsProduct_append htoken hdiffer)
    (length_pos_of_head htoken) (h'.reads (by omega))

theorem IsSum.add (h : IsSum call s x) (h' : IsProduct call t y) :
    IsSum call (s ++ " + " ++ t) (x + y) :=
  h.step h' (by decide) (by decide) (operator_cons_append _ _ _)

theorem IsSum.sub (h : IsSum call s x) (h' : IsProduct call t y) :
    IsSum call (s ++ " - " ++ t) (x - y) := by
  refine h.step h' (by decide) (by decide) fun rest => ?_
  have hplus : Rejects (expect " + ") " - " := rejects_expect (by decide)
  rw [addition, operator_cons_of_rejects hplus, operator_cons_append]

theorem IsSum.number (h : IsSum call s x) : IsNumber call s x :=
  fun depth hdepth => (h depth hdepth).reads (fun _ hrest => hrest.toEndsProduct)
    fun _ hrest => hrest.addition

end

end Sluice.Arithmetic
