import Sluice.Proofs.Number
import Sluice.Proofs.Translation.FramedDrivers

/-!
# Expressions that a driver admits

Whether a driver can translate an expression is decided node by node. The nodes are visited in the
order in which a translation comes to them. An amount that is put in other units is visited in the
form in which the driver gets it, so that a literal may overflow on the way.
-/

namespace Sluice

/-! ## Spellings -/

/-- An ASCII letter or an underscore, then ASCII letters, digits and underscores. -/
def IsPlain (name : String) : Prop :=
  ∃ c rest, name.toList = c :: rest ∧ (c.isAlpha = true ∨ c = '_') ∧
    ∀ x ∈ rest, x.isAlphanum = true ∨ x = '_'

theorem isPlainIdentifier_iff {name : String} : isPlainIdentifier name = true ↔ IsPlain name := by
  rw [isPlainIdentifier, IsPlain]
  cases name.toList with
  | nil => simp
  | cons c rest =>
      simp only [Bool.and_eq_true, Bool.or_eq_true, decide_eq_true_eq, List.all_eq_true,
        Text.isWordChar, beq_iff_eq, List.cons.injEq, ↓existsAndEq, true_and, and_true]

/-- Digits, with a point before, behind or among them, or with none. -/
def IsDigits (l : List Char) : Prop :=
  ∃ whole point fraction, l = whole ++ point ++ fraction ∧ (point = [] ∨ point = ['.']) ∧
    (∀ c ∈ whole ++ fraction, c.isDigit = true) ∧ whole ++ fraction ≠ []

/-- An optional minus, then digits with at most one point. -/
def IsDecimal (s : String) : Prop :=
  ∃ sign digits, s.toList = sign ++ digits ∧ (sign = [] ∨ sign = ['-']) ∧ IsDigits digits

theorem isDigit_of_ne_point {l : List Char} (h : ∀ c ∈ l, c.isDigit = true ∨ c = '.')
    (hpoint : '.' ∉ l) : ∀ c ∈ l, c.isDigit = true :=
  fun c hc => (h c hc).resolve_right fun heq => hpoint (heq ▸ hc)

theorem isDigits_of_isDecimalBody {l : List Char} (h : isDecimalBody l = true) : IsDigits l := by
  simp only [isDecimalBody, Bool.and_eq_true, decide_eq_true_eq, List.all_eq_true,
    List.any_eq_true, Bool.or_eq_true] at h
  obtain ⟨⟨hcount, hall⟩, digit, hmem, hdigit⟩ := h
  by_cases hpoint : '.' ∈ l
  · obtain ⟨whole, fraction, rfl, hwhole⟩ := List.eq_append_cons_of_mem hpoint
    have hfraction : '.' ∉ fraction := by
      intro hagain
      have hpos : 0 < fraction.countP (· = '.') := List.countP_pos_iff.mpr ⟨'.', hagain, by decide⟩
      rw [List.countP_append, List.countP_cons_of_pos (by decide)] at hcount
      omega
    have hpoints : '.' ∉ whole ++ fraction := by
      rw [List.mem_append]
      exact not_or.mpr ⟨hwhole, hfraction⟩
    have hdigits : ∀ c ∈ whole ++ fraction, c.isDigit = true ∨ c = '.' := fun c hc =>
      hall c (List.mem_append.mpr ((List.mem_append.mp hc).imp_right (List.mem_cons_of_mem _)))
    refine ⟨whole, ['.'], fraction, by simp, .inr rfl, isDigit_of_ne_point hdigits hpoints, ?_⟩
    intro hempty
    obtain ⟨rfl, rfl⟩ := List.append_eq_nil_iff.mp hempty
    obtain rfl := List.mem_singleton.mp hmem
    exact absurd hdigit (by decide)
  · refine ⟨l, [], [], by simp, .inl rfl, ?_, ?_⟩
    · rw [List.append_nil]
      exact isDigit_of_ne_point hall hpoint
    · rw [List.append_nil]
      exact List.ne_nil_of_mem hmem

theorem isDecimalBody_of_isDigits {l : List Char} (h : IsDigits l) : isDecimalBody l = true := by
  obtain ⟨whole, point, fraction, rfl, hpoint, hdigits, hne⟩ := h
  have hwhole : ∀ c ∈ whole, c.isDigit = true := fun c hc =>
    hdigits c (List.mem_append_left fraction hc)
  have hfraction : ∀ c ∈ fraction, c.isDigit = true := fun c hc =>
    hdigits c (List.mem_append_right whole hc)
  have hcount : (whole ++ point ++ fraction).countP (· = '.') ≤ 1 := by
    rw [List.countP_append, List.countP_append, countP_point hwhole, countP_point hfraction]
    obtain rfl | rfl := hpoint <;> decide
  have hpoints : ∀ c ∈ point, c = '.' := by
    obtain rfl | rfl := hpoint <;> simp
  have hall : ∀ c ∈ whole ++ point ++ fraction, (c.isDigit || c = '.') = true := by
    intro c hc
    rw [Bool.or_eq_true, decide_eq_true_eq]
    simp only [List.mem_append] at hc
    obtain (hc | hc) | hc := hc
    · exact .inl (hwhole c hc)
    · exact .inr (hpoints c hc)
    · exact .inl (hfraction c hc)
  obtain ⟨digit, hmem⟩ := List.exists_mem_of_ne_nil _ hne
  have hplace : digit ∈ whole ++ point ++ fraction := by
    simp only [List.mem_append] at hmem ⊢
    exact hmem.imp_left .inl
  rw [isDecimalBody, decide_eq_true hcount, List.all_eq_true.mpr hall,
    List.any_eq_true.mpr ⟨digit, hplace, hdigits digit hmem⟩]
  rfl

theorem isDecimalBody_iff {l : List Char} : isDecimalBody l = true ↔ IsDigits l :=
  ⟨isDigits_of_isDecimalBody, isDecimalBody_of_isDigits⟩

theorem IsDigits.head?_ne {l : List Char} (h : IsDigits l) : l.head? ≠ some '-' := by
  intro hhead
  have hmem := List.mem_of_mem_head? hhead
  rw [← isDecimalBody_iff] at h
  simp only [isDecimalBody, Bool.and_eq_true, List.all_eq_true] at h
  exact absurd (h.1.2 _ hmem) (by decide)

theorem isDecimalLiteral_iff {s : String} : isDecimalLiteral s = true ↔ IsDecimal s := by
  obtain ⟨l, rfl⟩ : ∃ l, s = String.ofList l := ⟨s.toList, String.ofList_toList.symm⟩
  rw [IsDecimal, String.toList_ofList]
  constructor
  · intro h
    by_cases hminus : l.head? = some '-'
    · obtain ⟨rest, rfl⟩ := List.head?_eq_some_iff.mp hminus
      rw [isDecimalLiteral_minus, isDecimalBody_iff] at h
      exact ⟨['-'], rest, rfl, .inr rfl, h⟩
    · rw [isDecimalLiteral_unsigned hminus, isDecimalBody_iff] at h
      exact ⟨[], l, rfl, .inl rfl, h⟩
  · rintro ⟨sign, digits, rfl, rfl | rfl, hdigits⟩
    · rw [List.nil_append, isDecimalLiteral_unsigned hdigits.head?_ne]
      exact isDecimalBody_iff.mpr hdigits
    · exact (isDecimalLiteral_minus digits).trans (isDecimalBody_iff.mpr hdigits)

/-! ## Nodes -/

/-- What a translation looks at before it writes. -/
inductive Node where
  | literal (value : Value)
  | call (function : String)
  | cast (target : SemanticType)
  | regexMatch
  | interval (unit : IntervalUnit) (amount : Expr)

/-- The nodes of an amount in the form that a driver gets, from those of the amount itself. -/
def AmountForm.nodes : AmountForm → List Node → List Node
  | same, amount => amount
  | literal value, _ => [.literal value]
  | times factor, amount => amount ++ [.literal (.int factor)]

/-- An error, unless a condition holds. -/
def errorUnless (condition : Bool) (error : Error) : Option Error :=
  if condition then none else some error

theorem errorUnless_eq_some {condition : Bool} {error error' : Error} :
    errorUnless condition error = some error' ↔ ¬ condition = true ∧ error = error' := by
  cases condition <;> simp [errorUnless]

theorem errorUnless_eq_none {condition : Bool} {error : Error} :
    errorUnless condition error = none ↔ condition = true := by
  cases condition <;> simp [errorUnless]

namespace Driver

/-- Why a driver refuses a node. -/
inductive Refuses (d : Driver) : Node → Error → Prop where
  | nonFinite {x : Binary64} : x.isFinite = false →
      Refuses d (.literal (.float x)) (.translation (.nonFiniteNumber x))
  | decimal {digits : String} : ¬ IsDecimal digits →
      Refuses d (.literal (.decimal digits)) (.translation (.invalidDecimal digits))
  | call {function : String} : ¬ IsPlain function →
      Refuses d (.call function) (.translation (.invalidFunctionName function))
  | cast {target : SemanticType} : (∀ e ∈ d.chain, ∀ native, (target, native) ∉ e.casts) →
      Refuses d (.cast target) (.translation (.noNativeType d.displayName target))
  | regexMatch : d.capability .regex = false →
      Refuses d .regexMatch (.notSupported (.regularExpressions d.displayName))
  | interval {unit : IntervalUnit} {amount : Expr} {error : Error} :
      Interval.normalize d unit amount = .error error → Refuses d (.interval unit amount) error

/-- The driver has no reason to refuse the node. -/
def Admissible (d : Driver) (node : Node) : Prop := ∀ error, ¬ d.Refuses node error

/-- The error with which a driver refuses a node. -/
def objection? (d : Driver) : Node → Option Error
  | .literal (.float x) => errorUnless x.isFinite (.translation (.nonFiniteNumber x))
  | .literal (.decimal digits) =>
    errorUnless (isDecimalLiteral digits) (.translation (.invalidDecimal digits))
  | .literal _ => none
  | .call function =>
    errorUnless (isPlainIdentifier function) (.translation (.invalidFunctionName function))
  | .cast target =>
    errorUnless (d.nativeType? target).isSome (.translation (.noNativeType d.displayName target))
  | .regexMatch =>
    errorUnless (d.capability .regex) (.notSupported (.regularExpressions d.displayName))
  | .interval unit amount =>
    match Interval.normalForm d unit amount with
    | .ok _ => none
    | .error error => some error

/-- The nodes of an expression in the order in which a translation comes to them. -/
def visits (d : Driver) : Expr → List Node
  | .literal value => [.literal value]
  | .column _ _ => []
  | .truncate _ expr => d.visits expr
  | .intervalAdd unit amount expr =>
    .interval unit amount ::
      match Interval.normalForm d unit amount with
      | .ok (_, form) =>
        if d.AmountFirst then form.nodes (d.visits amount) ++ d.visits expr
        else d.visits expr ++ form.nodes (d.visits amount)
      | .error _ => []
  | .cast target expr => .cast target :: d.visits expr
  | .unary function arg => .call function :: d.visits arg
  | .binary op left right =>
    (if op = .regexMatch then [.regexMatch] else []) ++ (d.visits left ++ d.visits right)

/-- Every node of the expression is one that the driver translates. -/
def Admits (d : Driver) : Expr → Prop
  | .literal (.float x) => x.isFinite = true
  | .literal (.decimal digits) => IsDecimal digits
  | .literal _ | .column _ _ => True
  | .truncate _ expr => d.Admits expr
  | .intervalAdd unit amount expr =>
    (∃ unit' amount', Interval.normalize d unit amount = .ok (unit', amount') ∧
      ∀ x, amount' = .literal (.float x) → x.isFinite = true) ∧
    d.Admits amount ∧ d.Admits expr
  | .cast target expr => (∃ e ∈ d.chain, ∃ native, (target, native) ∈ e.casts) ∧ d.Admits expr
  | .unary function arg => IsPlain function ∧ d.Admits arg
  | .binary op left right =>
    (op = .regexMatch → d.capability .regex = true) ∧ d.Admits left ∧ d.Admits right

variable {d : Driver}

/-! ### Single nodes -/

theorem nativeType?_isSome {target : SemanticType} :
    (d.nativeType? target).isSome = true ↔
      ∃ e ∈ d.chain, ∃ native, (target, native) ∈ e.casts := by
  simp only [nativeType?, nearest, List.findSome?_isSome_iff, Descriptor.cast?,
    List.lookup_isSome_iff, List.mem_reverse, beq_iff_eq, Prod.exists, ↓existsAndEq, and_true]

theorem normalize_eq_error {unit : IntervalUnit} {amount : Expr} {error : Error} :
    Interval.normalize d unit amount = .error error ↔
      Interval.normalForm d unit amount = .error error := by
  rw [Interval.normalize]
  cases Interval.normalForm d unit amount with
  | ok normal => exact ⟨nofun, nofun⟩
  | error e => simp only [Except.map, Except.error.injEq]

/-- A driver refuses a node with one error, and exactly if it is not admissible. -/
theorem objection?_eq_some {node : Node} {error : Error} :
    d.objection? node = some error ↔ d.Refuses node error := by
  constructor
  · intro h
    cases node with
    | literal value =>
        cases value with
        | float x =>
            obtain ⟨hfinite, rfl⟩ := errorUnless_eq_some.mp h
            exact .nonFinite (Bool.eq_false_iff.mpr hfinite)
        | decimal digits =>
            obtain ⟨hdecimal, rfl⟩ := errorUnless_eq_some.mp h
            exact .decimal (mt isDecimalLiteral_iff.mpr hdecimal)
        | _ => exact nomatch h
    | call function =>
        obtain ⟨hplain, rfl⟩ := errorUnless_eq_some.mp h
        exact .call (mt isPlainIdentifier_iff.mpr hplain)
    | cast target =>
        obtain ⟨hnative, rfl⟩ := errorUnless_eq_some.mp h
        rw [nativeType?_isSome] at hnative
        exact .cast fun e he native hmem => hnative ⟨e, he, native, hmem⟩
    | regexMatch =>
        obtain ⟨hregex, rfl⟩ := errorUnless_eq_some.mp h
        exact .regexMatch (Bool.eq_false_iff.mpr hregex)
    | interval unit amount =>
        rw [objection?] at h
        split at h
        · exact nomatch h
        · next hnormal =>
            obtain rfl := Option.some.inj h
            exact .interval (normalize_eq_error.mpr hnormal)
  · intro h
    cases h with
    | nonFinite hfinite => exact errorUnless_eq_some.mpr ⟨Bool.eq_false_iff.mp hfinite, rfl⟩
    | decimal hdecimal => exact errorUnless_eq_some.mpr ⟨mt isDecimalLiteral_iff.mp hdecimal, rfl⟩
    | call hplain => exact errorUnless_eq_some.mpr ⟨mt isPlainIdentifier_iff.mp hplain, rfl⟩
    | cast hnative =>
        refine errorUnless_eq_some.mpr ⟨fun hsome => ?_, rfl⟩
        obtain ⟨e, he, native, hmem⟩ := nativeType?_isSome.mp hsome
        exact hnative e he native hmem
    | regexMatch hregex => exact errorUnless_eq_some.mpr ⟨Bool.eq_false_iff.mp hregex, rfl⟩
    | interval hnormal => rw [objection?, normalize_eq_error.mp hnormal]

theorem objection?_eq_none {node : Node} : d.objection? node = none ↔ d.Admissible node := by
  simp only [Option.eq_none_iff_forall_ne_some, ne_eq, objection?_eq_some, Admissible]

theorem admissible_literal {value : Value} :
    d.Admissible (.literal value) ↔ d.Admits (.literal value) := by
  rw [← objection?_eq_none]
  cases value with
  | float x => exact errorUnless_eq_none
  | decimal digits => exact errorUnless_eq_none.trans isDecimalLiteral_iff
  | _ => exact ⟨fun _ => trivial, fun _ => rfl⟩

theorem admissible_call {function : String} : d.Admissible (.call function) ↔ IsPlain function :=
  objection?_eq_none.symm.trans (errorUnless_eq_none.trans isPlainIdentifier_iff)

theorem admissible_cast {target : SemanticType} :
    d.Admissible (.cast target) ↔ ∃ e ∈ d.chain, ∃ native, (target, native) ∈ e.casts :=
  objection?_eq_none.symm.trans (errorUnless_eq_none.trans nativeType?_isSome)

theorem admissible_regexMatch : d.Admissible .regexMatch ↔ d.capability .regex = true :=
  objection?_eq_none.symm.trans errorUnless_eq_none

/-! ### Whole trees -/

theorem visits_apply (form : AmountForm) (amount : Expr) :
    d.visits (form.apply amount) = form.nodes (d.visits amount) := by
  cases form <;> rfl

/-- Of an interval the nodes are those of the amount that the driver gets in place of its own. -/
theorem visits_intervalAdd {unit unit' : IntervalUnit} {amount amount' : Expr}
    (h : Interval.normalize d unit amount = .ok (unit', amount')) (expr : Expr) :
    d.visits (.intervalAdd unit amount expr) = .interval unit amount ::
      if d.AmountFirst then d.visits amount' ++ d.visits expr
      else d.visits expr ++ d.visits amount' := by
  obtain ⟨⟨unit', form⟩, hnormal, hpair⟩ := exists_of_map_eq_ok h
  obtain ⟨-, rfl⟩ := Prod.mk.inj hpair
  simp only [visits, hnormal, visits_apply]

theorem admissible_nodes_iff {unit unit' : IntervalUnit} {amount : Expr} {form : AmountForm}
    (hnormal : Interval.normalForm d unit amount = .ok (unit', form))
    (ih : d.Admits amount ↔ ∀ node ∈ d.visits amount, d.Admissible node) :
    ((∀ x, form.apply amount = .literal (.float x) → x.isFinite = true) ∧ d.Admits amount) ↔
      ∀ node ∈ form.nodes (d.visits amount), d.Admissible node := by
  cases form with
  | same =>
      refine Iff.trans ⟨fun h => h.2, fun h => ⟨?_, h⟩⟩ ih
      rintro x rfl
      exact h
  | times factor =>
      have hfactor : d.Admissible (.literal (.int factor)) := admissible_literal.mpr trivial
      simp only [AmountForm.nodes, List.forall_mem_append, List.forall_mem_singleton, hfactor,
        and_true, ← ih]
      exact ⟨fun h => h.2, fun h => ⟨nofun, h⟩⟩
  | literal value =>
      rw [AmountForm.nodes, List.forall_mem_singleton, admissible_literal]
      cases Interval.normalForm_rescaled hnormal with
      | int n m => exact ⟨fun _ => trivial, fun _ => ⟨nofun, trivial⟩⟩
      | float hfinite =>
          refine ⟨fun h => h.1 _ rfl, fun h => ⟨?_, hfinite h⟩⟩
          rintro _ ⟨⟩
          exact h
      | whole n hfinite => exact ⟨fun _ => trivial, fun _ => ⟨nofun, hfinite⟩⟩

/-- A driver admits an expression exactly if each node that a translation comes to is admissible. -/
theorem admits_iff (e : Expr) : d.Admits e ↔ ∀ node ∈ d.visits e, d.Admissible node := by
  induction e with
  | literal value => rw [visits, List.forall_mem_singleton, admissible_literal]
  | column table name => exact ⟨fun _ => nofun, fun _ => trivial⟩
  | truncate unit expr ih => exact ih
  | cast target expr ih => rw [Admits, visits, List.forall_mem_cons, admissible_cast, ih]
  | unary function arg ih => rw [Admits, visits, List.forall_mem_cons, admissible_call, ih]
  | binary op left right ihLeft ihRight =>
      have hop : (op = .regexMatch → d.capability .regex = true) ↔
          ∀ node ∈ (if op = .regexMatch then [Node.regexMatch] else []), d.Admissible node := by
        by_cases hop : op = .regexMatch
        · rw [if_pos hop, List.forall_mem_singleton, admissible_regexMatch]
          exact ⟨fun h => h hop, fun h _ => h⟩
        · rw [if_neg hop]
          exact ⟨fun _ => nofun, fun _ h => absurd h hop⟩
      rw [Admits, visits, List.forall_mem_append, List.forall_mem_append, hop, ihLeft, ihRight]
  | intervalAdd unit amount expr ihAmount ihExpr =>
      rw [Admits, visits, List.forall_mem_cons, Interval.normalize]
      cases hnormal : Interval.normalForm d unit amount with
      | error error =>
          have hrefused : ¬ d.Admissible (.interval unit amount) := fun h =>
            h error (.interval (normalize_eq_error.mpr hnormal))
          simp [hrefused, Except.map]
      | ok normal =>
          obtain ⟨unit', form⟩ := normal
          have hinterval : d.Admissible (.interval unit amount) := by
            rw [← objection?_eq_none, objection?, hnormal]
          have hnodes : (∀ node ∈ if d.AmountFirst then form.nodes (d.visits amount) ++ d.visits expr
              else d.visits expr ++ form.nodes (d.visits amount), d.Admissible node) ↔
              (∀ node ∈ form.nodes (d.visits amount), d.Admissible node) ∧
                ∀ node ∈ d.visits expr, d.Admissible node := by
            split
            · exact List.forall_mem_append
            · exact List.forall_mem_append.trans and_comm
          simp only [hinterval, true_and, hnodes, ← ihExpr, ← admissible_nodes_iff hnormal ihAmount,
            Except.map, Except.ok.injEq, Prod.mk.injEq, ↓existsAndEq, and_assoc]

end Driver

end Sluice
