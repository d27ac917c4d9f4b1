import Sluice.Backend.H2
import Sluice.Backend.Postgres
import Sluice.Backend.Sqlite
import Sluice.Proofs.Outcome
import Sluice.Proofs.Translation.Emission

/-!
# Slots that are never missed

A translation looks the slots of a dialect up by their names. If the chain of a driver fills them
all, no lookup fails, and a translation reports an empty slot only where an operation of the dialect
does so by itself.
-/

namespace Sluice

/-- The slots of a dialect with the names under which they are reported. -/
inductive IsSlot : {α : Type} → String → (Dialect → Option α) → Prop where
  | truncate : IsSlot "truncate" (·.truncate)
  | extract : IsSlot "extract" (·.extract)
  | intervalAdd : IsSlot "interval_add" (·.intervalAdd)
  | dayOfWeek : IsSlot "day_of_week" (·.dayOfWeek)
  | cast : IsSlot "cast" (·.cast)
  | placeholder : IsSlot "placeholder" (·.placeholder)
  | quoteIdentifier : IsSlot "quote_identifier" (·.quoteIdentifier)
  | regexMatch : IsSlot "regex_match" (·.regexMatch)
  | sessionSetup : IsSlot "session_setup" (·.sessionSetup)

/-- No slot is missing exactly if all are filled. -/
theorem Dialect.missingSlots_eq_nil {d : Dialect} :
    d.missingSlots = [] ↔
      ∀ {α : Type} {name : String} {slot : Dialect → Option α}, IsSlot name slot →
        (slot d).isSome = true := by
  constructor
  · intro h α name slot hslot
    simp only [missingSlots, List.filterMap_eq_nil_iff, List.forall_mem_cons, ite_eq_left_iff,
      reduceCtorEq, imp_false, Decidable.not_not] at h
    obtain ⟨h₁, h₂, h₃, h₄, h₅, h₆, h₇, h₈, h₉, -⟩ := h
    cases hslot <;> assumption
  · intro h
    simp only [missingSlots, h .truncate, h .extract, h .intervalAdd, h .dayOfWeek, h .cast,
      h .placeholder, h .quoteIdentifier, h .regexMatch, h .sessionSetup, List.filterMap_cons,
      if_true, List.filterMap_nil]

namespace Driver

/-- Every slot is filled somewhere along the chain. -/
def FillsSlots (d : Driver) : Prop :=
  ∀ {α : Type} {name : String} {slot : Dialect → Option α}, IsSlot name slot →
    ∃ e ∈ d.chain, (slot e.dialect).isSome = true

variable {d : Driver}

theorem fillsSlots_of_mem {e : Descriptor} (he : e ∈ d.chain) (h : e.dialect.missingSlots = []) :
    d.FillsSlots :=
  fun hslot => ⟨e, he, Dialect.missingSlots_eq_nil.mp h hslot⟩

theorem FillsSlots.slot (hd : d.FillsSlots) {α : Type} {name : String} {slot : Dialect → Option α}
    (h : IsSlot name slot) :
    ∃ a, d.slot name slot = .ok a ∧ ∃ e ∈ d.chain, a ∈ slot e.dialect := by
  have hsome : (d.chain.findSome? fun e => slot e.dialect).isSome := by
    obtain ⟨e, he, hfilled⟩ := hd h
    exact List.findSome?_isSome_iff.mpr ⟨e, he, hfilled⟩
  obtain ⟨a, ha⟩ := Option.isSome_iff_exists.mp hsome
  obtain ⟨e, he, hslot⟩ := List.exists_of_findSome?_eq_some ha
  exact ⟨a, by simp only [Driver.slot, slot?, nearest, ha], e, he, hslot⟩

end Driver

/-! ## Steps -/

namespace TranslateM

variable {α β : Type}

/-- A step that never reports an empty slot. -/
def Supplied (step : TranslateM α) : Prop :=
  ∀ bound driver name, (step.after bound).1 ≠ .error (.notSupported (.slot driver name))

theorem supplied_pure (a : α) : Supplied (pure a) := nofun

theorem supplied_throw {error : Error}
    (h : ∀ driver name, error ≠ .notSupported (.slot driver name)) :
    Supplied (throw error : TranslateM α) :=
  fun _ driver name heq => h driver name (Except.error.inj heq)

theorem supplied_issue (issue : TranslationIssue) :
    Supplied (throw (.translation issue) : TranslateM α) :=
  supplied_throw fun _ _ heq => nomatch heq

theorem supplied_lift {x : Except Error α}
    (h : ∀ driver name, x ≠ .error (.notSupported (.slot driver name))) :
    Supplied (liftM x : TranslateM α) := by
  cases x with
  | ok a => exact supplied_pure a
  | error error => exact supplied_throw fun driver name heq => h driver name (congrArg _ heq)

theorem Supplied.bind {step : TranslateM α} {f : α → TranslateM β} (hstep : Supplied step)
    (hf : ∀ a, Supplied (f a)) : Supplied (step >>= f) := by
  intro bound driver name
  have hhere := hstep bound driver name
  rcases hafter : step.after bound with ⟨error | a, bound'⟩
  · rw [after_bind_error hafter]
    rw [hafter] at hhere
    exact fun heq => hhere (congrArg Except.error (Except.error.inj heq))
  · rw [after_bind_ok hafter]
    exact hf a bound' driver name

theorem supplied_mapM {f : α → TranslateM β} (hf : ∀ a, Supplied (f a)) (l : List α) :
    Supplied (l.mapM f) := by
  induction l with
  | nil => exact supplied_pure []
  | cons a l ih =>
      rw [List.mapM_cons]
      exact (hf a).bind fun b => ih.bind fun bs => supplied_pure (b :: bs)

end TranslateM

open TranslateM

/-! ## Operations -/

/-- An operation that reports an empty slot only if its operand does. -/
def Operation.Supplied (op : Operation) : Prop :=
  ∀ x, TranslateM.Supplied x → TranslateM.Supplied (op x)

/-- An operation that reports an empty slot only if one of its two operands does. -/
def SuppliedBoth (op : TranslateM String → TranslateM String → TranslateM String) : Prop :=
  ∀ x y, Supplied x → Supplied y → Supplied (op x y)

theorem supplied_around (before after : String) : (Operation.around before after).Supplied :=
  fun _ hx => hx.bind fun _ => supplied_pure _

/-- Two operands, put together whatever their texts are. -/
theorem supplied_pair (form : String → String → String) : SuppliedBoth fun x y => do
    let a ← x
    let b ← y
    return form a b :=
  fun _ _ hx hy => hx.bind fun a => hy.bind fun b => supplied_pure (form a b)

/-- The operations of the dialect report no empty slots of their own. -/
structure Dialect.Supplied (d : Dialect) : Prop where
  truncate : ∀ op ∈ d.truncate, ∀ unit, (op unit).Supplied
  extract : ∀ op ∈ d.extract, ∀ field, (op field).Supplied
  intervalAdd : ∀ op ∈ d.intervalAdd, ∀ unit, SuppliedBoth (op unit)
  dayOfWeek : ∀ op ∈ d.dayOfWeek, op.Supplied
  cast : ∀ op ∈ d.cast, ∀ native, (op native).Supplied

theorem dialect_empty_supplied : Dialect.Supplied {} := ⟨nofun, nofun, nofun, nofun, nofun⟩

/-! ## Amounts of intervals -/

namespace Interval

variable {α β : Type}

/-- What can be wrong with an amount. -/
inductive IsAmountIssue : TranslationIssue → Prop where
  | outOfRange (n : Int64) : IsAmountIssue (.amountOutOfRange n)
  | fractional (driver : String) (unit : IntervalUnit) (x : Binary64) :
      IsAmountIssue (.fractionalAmount driver unit x)

/-- A step on an amount that fails only for what the amount is. -/
def FailsByAmount (x : Except Error α) : Prop :=
  ∀ error, x = .error error → ∃ issue, error = .translation issue ∧ IsAmountIssue issue

theorem failsByAmount_ok (a : α) : FailsByAmount (.ok a) := fun _ h => nomatch h

theorem failsByAmount_issue {issue : TranslationIssue} (hissue : IsAmountIssue issue) :
    FailsByAmount (.error (.translation issue) : Except Error α) :=
  fun _ h => ⟨issue, (Except.error.inj h).symm, hissue⟩

theorem FailsByAmount.map {x : Except Error α} (h : FailsByAmount x) (f : α → β) :
    FailsByAmount (x.map f) := by
  cases x with
  | ok a => exact failsByAmount_ok (f a)
  | error e => exact fun error herror => h error (congrArg _ (Except.error.inj herror))

theorem FailsByAmount.bind {x : Except Error α} {f : α → Except Error β} (h : FailsByAmount x)
    (hf : ∀ a, FailsByAmount (f a)) : FailsByAmount (x >>= f) := by
  cases x with
  | ok a => exact hf a
  | error e => exact fun error herror => h error (congrArg _ (Except.error.inj herror))

theorem scale_failsByAmount (amount : Expr) (factor : Nat) :
    FailsByAmount (scale amount factor) := by
  rw [scale.eq_def]
  split
  · dsimp only
    split
    · exact failsByAmount_ok _
    · exact failsByAmount_issue (.outOfRange _)
  · exact failsByAmount_ok _
  · exact failsByAmount_ok _

theorem wholeAmount_failsByAmount (driver : String) (unit : IntervalUnit) (amount : Binary64) :
    FailsByAmount (wholeAmount driver unit amount) := by
  fun_induction wholeAmount driver unit amount with
  | case1 => exact failsByAmount_ok _
  | case2 _ _ _ _ _ _ ih => exact ih
  | case3 => exact failsByAmount_issue (.fractional _ _ _)

theorem plainForm_failsByAmount (unit : IntervalUnit) (amount : Expr) :
    FailsByAmount (plainForm unit amount) := by
  cases unit with
  | quarter => exact (scale_failsByAmount amount 3).map _
  | week => exact (scale_failsByAmount amount 7).map _
  | millisecond | second | minute | hour | day | month | year => exact failsByAmount_ok _

theorem integralForm_failsByAmount (driver : String) (amount : Expr) (unit : IntervalUnit)
    (form : AmountForm) : FailsByAmount (integralForm driver amount unit form) := by
  rw [integralForm]
  split
  · exact (wholeAmount_failsByAmount _ _ _).map _
  · split
    · exact (scale_failsByAmount _ _).map _
    · exact failsByAmount_ok _

theorem normalForm_failsByAmount (d : Driver) (unit : IntervalUnit) (amount : Expr) :
    FailsByAmount (normalForm d unit amount) := by
  refine (plainForm_failsByAmount unit amount).bind fun plain => ?_
  dsimp only
  split
  · exact integralForm_failsByAmount _ _ _ _
  · exact failsByAmount_ok plain

theorem normalForm_supplied (d : Driver) (unit : IntervalUnit) (amount : Expr) :
    TranslateM.Supplied (liftM (normalForm d unit amount)) := by
  refine supplied_lift fun driver name h => ?_
  obtain ⟨issue, hissue, -⟩ := normalForm_failsByAmount d unit amount _ h
  exact nomatch hissue

end Interval

/-! ## Translations -/

/-- The chain fills every slot, and by operations that report no empty slots of their own. -/
structure Driver.Supplied (d : Driver) : Prop where
  fills : d.FillsSlots
  dialects : ∀ e ∈ d.chain, e.dialect.Supplied

namespace Driver

variable {d : Driver}

theorem Supplied.slot (hd : d.Supplied) {α : Type} {name : String} {slot : Dialect → Option α}
    (h : IsSlot name slot) :
    ∃ a, d.slot name slot = .ok a ∧ ∃ e : Descriptor, e.dialect.Supplied ∧ a ∈ slot e.dialect := by
  obtain ⟨a, ha, e, he, hslot⟩ := FillsSlots.slot hd.fills h
  exact ⟨a, ha, e, hd.dialects e he, hslot⟩

theorem supplied_slot (hd : d.Supplied) {α : Type} {name : String} {slot : Dialect → Option α}
    (h : IsSlot name slot) : TranslateM.Supplied (liftM (d.slot name slot)) := by
  obtain ⟨a, ha, -⟩ := hd.slot h
  rw [ha]
  exact supplied_pure a

section

variable (hd : d.Supplied)

include hd

theorem bind_supplied (value : Value) : TranslateM.Supplied (d.bind value) := by
  refine (supplied_slot hd .placeholder).bind fun placeholder => ?_
  exact fun _ _ _ => nofun

theorem writeName_supplied (name : String) : TranslateM.Supplied (d.writeName name) :=
  (supplied_slot hd .quoteIdentifier).bind fun quote => supplied_pure (quote name)

theorem writeColumn_supplied (table : Option String) (name : String) :
    TranslateM.Supplied (d.writeColumn table name) := by
  refine (writeName_supplied hd name).bind fun column => ?_
  cases table with
  | none => exact supplied_pure column
  | some table => exact (writeName_supplied hd table).bind fun _ => supplied_pure _

theorem writeDayOfWeek_supplied (options : TranslateOptions) :
    (d.writeDayOfWeek options).Supplied := by
  intro x hx
  obtain ⟨op, hslot, e, he, hop⟩ := hd.slot .dayOfWeek
  rw [writeDayOfWeek, hslot]
  refine (he.dayOfWeek op hop x hx).bind fun iso => ?_
  cases options.weekStart <;> exact supplied_pure _

theorem writeIntervalAdd_supplied (unit : IntervalUnit) :
    SuppliedBoth (d.writeIntervalAdd unit) := by
  intro x y hx hy
  obtain ⟨op, hslot, e, he, hop⟩ := hd.slot .intervalAdd
  rw [writeIntervalAdd, hslot]
  exact he.intervalAdd op hop unit x y hx hy

theorem writeTruncateSlot_supplied (unit : TruncateUnit) : (d.writeTruncateSlot unit).Supplied := by
  intro x hx
  obtain ⟨op, hslot, e, he, hop⟩ := hd.slot .truncate
  rw [writeTruncateSlot, hslot]
  exact he.truncate op hop unit x hx

theorem writeExtract_supplied (field : DateField) : (d.writeExtract field).Supplied := by
  intro x hx
  obtain ⟨op, hslot, e, he, hop⟩ := hd.slot .extract
  rw [writeExtract, hslot]
  exact he.extract op hop field x hx

theorem writeCast_supplied (target : SemanticType) : (d.writeCast target).Supplied := by
  intro x hx
  cases hnative : d.nativeType? target with
  | none =>
      rw [writeCast, hnative]
      exact supplied_issue _
  | some name =>
      obtain ⟨op, hslot, e, he, hop⟩ := hd.slot .cast
      rw [writeCast, hnative]
      simp only [hslot]
      exact he.cast op hop name x hx

theorem writeRegexMatch_supplied : SuppliedBoth d.writeRegexMatch := by
  intro x y hx hy
  rw [writeRegexMatch]
  split
  · exact (supplied_slot hd .regexMatch).bind fun form => supplied_pair form x y hx hy
  · exact supplied_throw fun _ _ heq => nomatch heq

theorem writeBinary_supplied (op : BinaryOperator) : SuppliedBoth (d.writeBinary op) := by
  intro x y hx hy
  rw [writeBinary]
  split
  · exact writeRegexMatch_supplied hd x y hx hy
  · split
    · exact supplied_pair _ x y hx hy
    · exact supplied_issue _

theorem writeWeekStart_supplied (options : TranslateOptions) :
    (d.writeWeekStart options).Supplied := by
  intro x hx
  have hdays := writeBinary_supplied hd .minus _ _ (supplied_pure (toString (1 : Int64).toInt))
    (writeDayOfWeek_supplied hd options x hx)
  exact writeIntervalAdd_supplied hd .day _ _ hdays (writeTruncateSlot_supplied hd .day x hx)

theorem writeTruncate_supplied (options : TranslateOptions) (unit : TruncateUnit) :
    (d.writeTruncate options unit).Supplied := by
  cases unit with
  | week => exact writeWeekStart_supplied hd options
  | dayOfWeek => exact writeDayOfWeek_supplied hd options
  | minute | hour | day | month | quarter | year => exact writeTruncateSlot_supplied hd _
  | minuteOfHour | hourOfDay | dayOfMonth | monthOfYear | quarterOfYear =>
      exact writeExtract_supplied hd _

end

theorem writeCall_supplied (function : String) : (writeCall function).Supplied := by
  intro x hx
  rw [writeCall]
  split
  · exact supplied_around _ _ x hx
  · exact supplied_issue _

theorem writeLiteral_supplied {put : Value → TranslateM String}
    (hput : ∀ v, TranslateM.Supplied (put v)) (value : Value) :
    TranslateM.Supplied (writeLiteral put value) := by
  cases value with
  | null | bool | int => exact supplied_pure _
  | float x =>
      rw [writeLiteral]
      split
      · exact supplied_pure _
      · exact supplied_issue _
  | decimal digits =>
      rw [writeLiteral]
      split
      · exact supplied_pure digits
      · exact supplied_issue _
  | text | bytes | date | time | dateTime | instant => exact hput _

section

variable (hd : d.Supplied) {put : Value → TranslateM String}
  (hput : ∀ v, TranslateM.Supplied (put v)) (options : TranslateOptions)

include hd hput

theorem writeAmount_supplied (form : AmountForm) : (d.writeAmount put form).Supplied := by
  intro x hx
  cases form with
  | same => exact hx
  | literal value => exact writeLiteral_supplied hput value
  | times factor =>
      exact writeBinary_supplied hd .multiply _ _ hx (writeLiteral_supplied hput (.int factor))

/-! ### Whole trees -/

/-- Expressions are translated without a report of an empty slot. -/
theorem write_supplied (e : Expr) : TranslateM.Supplied (d.write options put e) := by
  induction e with
  | literal value => exact writeLiteral_supplied hput value
  | column table name => exact writeColumn_supplied hd table name
  | truncate unit expr ih => exact writeTruncate_supplied hd options unit _ ih
  | cast target expr ih => exact writeCast_supplied hd target _ ih
  | unary function arg ih => exact writeCall_supplied function _ ih
  | binary op left right ihLeft ihRight => exact writeBinary_supplied hd op _ _ ihLeft ihRight
  | intervalAdd unit amount expr ihAmount ihExpr =>
      rw [write]
      refine (Interval.normalForm_supplied d unit amount).bind fun normal => ?_
      exact writeIntervalAdd_supplied hd normal.1 _ _
        (writeAmount_supplied hd hput normal.2 _ ihAmount) ihExpr

theorem writeProjection_supplied (p : Projection) :
    TranslateM.Supplied (d.writeProjection options put p) := by
  refine (write_supplied hd hput options p.expr).bind fun text => ?_
  cases p.label with
  | none => exact supplied_pure text
  | some label => exact (writeName_supplied hd label).bind fun _ => supplied_pure _

theorem writeColumns_supplied (ps : List Projection) :
    TranslateM.Supplied (d.writeColumns options put ps) := by
  rw [writeColumns]
  split
  · exact supplied_pure "*"
  · exact (supplied_mapM (writeProjection_supplied hd hput options) ps).bind fun _ =>
      supplied_pure _

theorem writeFilter_supplied (filter : Option Expr) :
    TranslateM.Supplied (d.writeFilter options put filter) := by
  cases filter with
  | none => exact supplied_pure ""
  | some condition => exact (write_supplied hd hput options condition).bind fun _ => supplied_pure _

theorem writeGroups_supplied (groupBy : List Expr) :
    TranslateM.Supplied (d.writeGroups options put groupBy) := by
  rw [writeGroups]
  split
  · exact supplied_pure ""
  · exact (supplied_mapM (write_supplied hd hput options) groupBy).bind fun _ => supplied_pure _

omit hput in
theorem writeSource_supplied (t : TableRef) : TranslateM.Supplied (d.writeSource t) := by
  rw [writeSource]
  split
  · exact writeName_supplied hd t.name
  · exact (writeName_supplied hd _).bind fun _ => (writeName_supplied hd _).bind fun _ =>
      supplied_pure _

/-- Plans are translated without a report of an empty slot. -/
theorem writePlan_supplied (p : Plan) : TranslateM.Supplied (d.writePlan options put p) := by
  refine (writeColumns_supplied hd hput options p.projections).bind fun columns => ?_
  refine (writeSource_supplied hd p.source).bind fun source => ?_
  refine (writeFilter_supplied hd hput options p.filter).bind fun filter => ?_
  exact (writeGroups_supplied hd hput options p.groupBy).bind fun groups => supplied_pure _

end

/-! ### Translators -/

/-- No translation with the driver reports an empty slot. -/
structure MissesNoSlot (d : Driver) : Prop where
  translate : ∀ options parameters e driver name,
    (Translator.translate ⟨d, options, parameters⟩ e).1 ≠ .error (.notSupported (.slot driver name))
  bind : ∀ options parameters value driver name,
    (Translator.bind ⟨d, options, parameters⟩ value).1 ≠ .error (.notSupported (.slot driver name))
  quoteName : ∀ options parameters text driver name,
    Translator.quoteName ⟨d, options, parameters⟩ text ≠ .error (.notSupported (.slot driver name))
  expression : ∀ options (e : Expr) driver name,
    e.compile d options ≠ .error (.notSupported (.slot driver name))
  query : ∀ options (q : Query) driver name,
    q.compile d options ≠ .error (.notSupported (.slot driver name))

theorem statement_supplied {step : TranslateM String} (h : TranslateM.Supplied step)
    (driver name : String) : d.statement step ≠ .error (.notSupported (.slot driver name)) := by
  have hhere := h [] driver name
  rw [statement, Translator.take]
  rcases hafter : step.after [] with ⟨error | text, parameters⟩
  · rw [hafter] at hhere
    exact fun heq => hhere (congrArg Except.error (Except.error.inj heq))
  · exact nofun

/-- A driver misses no slot if its chain fills them all and its operations report none. -/
theorem Supplied.missesNoSlot (hd : d.Supplied) : d.MissesNoSlot where
  translate options parameters e := write_supplied hd (bind_supplied hd) options e parameters
  bind _ parameters value := bind_supplied hd value parameters
  quoteName options parameters text driver name := by
    obtain ⟨quote, hslot, -⟩ := hd.slot .quoteIdentifier
    rw [Translator.quoteName, hslot]
    exact nofun
  expression options e := statement_supplied (write_supplied hd (bind_supplied hd) options e)
  query options q := by
    cases q with
    | native sql parameters => exact fun _ _ => nofun
    | plan p => exact statement_supplied (writePlan_supplied hd (bind_supplied hd) options p)

end Driver

/-! ## Backends -/

theorem supplied_refuse {issue : TranslationIssue} :
    Operation.Supplied fun _ => throw (.translation issue) :=
  fun _ _ => supplied_issue _

/-- One operand that is taken twice. -/
theorem supplied_twice (form : String → String → String) : Operation.Supplied fun x => do
    let a ← x
    let b ← x
    return form a b :=
  fun x hx => supplied_pair form x x hx hx

/-- Two operands of which the second is taken first. -/
theorem suppliedBoth_swapped {op : TranslateM String → TranslateM String → TranslateM String}
    (h : SuppliedBoth op) : SuppliedBoth fun x y => op y x :=
  fun x y hx hy => h y x hy hx

theorem Ansi.truncate_supplied (unit : TruncateUnit) : (truncate unit).Supplied := by
  intro x hx
  refine TranslateM.Supplied.bind (supplied_lift ?_) fun name => supplied_around _ _ x hx
  cases unit <;> exact nofun

theorem Ansi.dialect_supplied : dialect.Supplied where
  truncate := by
    rintro _ ⟨⟩
    exact truncate_supplied
  extract := by
    rintro _ ⟨⟩ field
    exact supplied_around _ _
  intervalAdd := by
    rintro _ ⟨⟩ unit
    exact suppliedBoth_swapped (supplied_pair _)
  dayOfWeek := by
    rintro _ ⟨⟩
    exact supplied_around _ _
  cast := by
    rintro _ ⟨⟩ native
    exact supplied_around _ _

theorem H2.truncate_supplied (unit : TruncateUnit) : (truncate unit).Supplied := by
  cases unit with
  | quarter => exact supplied_twice _
  | year => exact fun x hx => supplied_around _ _ _ (supplied_around _ _ x hx)
  | minute | hour | day | month => exact supplied_around _ _
  | week | minuteOfHour | hourOfDay | dayOfWeek | dayOfMonth | monthOfYear | quarterOfYear =>
      exact supplied_refuse

theorem H2.dialect_supplied : dialect.Supplied where
  truncate := by
    rintro _ ⟨⟩
    exact truncate_supplied
  extract := by
    rintro _ ⟨⟩ field
    exact supplied_around _ _
  intervalAdd := by
    rintro _ ⟨⟩ unit
    exact supplied_pair _
  dayOfWeek := by
    rintro _ ⟨⟩
    exact supplied_around _ _
  cast := nofun

theorem Postgres.dialect_supplied : dialect.Supplied where
  truncate := nofun
  extract := by
    rintro _ ⟨⟩ field
    exact supplied_around _ _
  intervalAdd := nofun
  dayOfWeek := by
    rintro _ ⟨⟩
    exact supplied_around _ _
  cast := nofun

theorem Sqlite.truncate_supplied (unit : TruncateUnit) : (truncate unit).Supplied := by
  cases unit with
  | quarter => exact supplied_twice _
  | minute | hour | day | month | year => exact supplied_around _ _
  | week | minuteOfHour | hourOfDay | dayOfWeek | dayOfMonth | monthOfYear | quarterOfYear =>
      exact supplied_refuse

theorem Sqlite.extract_supplied (field : DateField) : (extract field).Supplied := by
  cases field <;> exact supplied_around _ _

theorem Sqlite.cast_supplied (native : String) : (cast native).Supplied := by
  rw [cast.eq_def]
  split <;> exact supplied_around _ _

theorem Sqlite.dialect_supplied : dialect.Supplied where
  truncate := by
    rintro _ ⟨⟩
    exact truncate_supplied
  extract := by
    rintro _ ⟨⟩
    exact extract_supplied
  intervalAdd := by
    rintro _ ⟨⟩ unit
    exact suppliedBoth_swapped (supplied_pair _)
  dayOfWeek := by
    rintro _ ⟨⟩
    exact supplied_around _ _
  cast := by
    rintro _ ⟨⟩
    exact cast_supplied

end Sluice
