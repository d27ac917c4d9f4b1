import Sluice.Proofs.Translation.Admissible
import Sluice.Proofs.Translation.Parameters

/-!
# Translations fail at the first node that is not admissible

The operations of a framed driver take their operands in order and fail only if one of these does.
So a translation fails with the error of the first node that the driver refuses, and succeeds if it
refuses none.
-/

namespace Sluice

open TranslateM

/-! ## Where a step stops -/

/-- A step that fails with the error of the first node that the driver refuses, and only then. -/
def Driver.StopsAt (d : Driver) {α : Type} (nodes : List Node) (step : TranslateM α) : Prop :=
  ∀ bound, failureOf (step.after bound).1 = nodes.findSome? d.objection?

section

variable {d : Driver} {α β : Type} {nodes nodes' : List Node} {node : Node}

theorem stopsAt_pure (a : α) : d.StopsAt [] (pure a : TranslateM α) := fun _ => rfl

theorem stopsAt_throw {error : Error} (h : d.objection? node = some error) :
    d.StopsAt (node :: nodes) (throw error : TranslateM α) := by
  intro bound
  rw [List.findSome?_cons, h]
  rfl

theorem Driver.StopsAt.cons {step : TranslateM α} (h : d.objection? node = none)
    (hstep : d.StopsAt nodes step) : d.StopsAt (node :: nodes) step := by
  intro bound
  rw [List.findSome?_cons, h]
  exact hstep bound

theorem Driver.StopsAt.bind {step : TranslateM α} {f : α → TranslateM β}
    (hstep : d.StopsAt nodes step) (hf : ∀ a, d.StopsAt nodes' (f a)) :
    d.StopsAt (nodes ++ nodes') (step >>= f) := by
  intro bound
  rw [List.findSome?_append, ← hstep bound]
  rcases hafter : step.after bound with ⟨error | a, bound'⟩
  · rw [after_bind_error hafter]
    rfl
  · rw [after_bind_ok hafter]
    exact hf a bound'

/-- What is made of the result of a step does not stop it. -/
theorem Driver.StopsAt.map {step : TranslateM α} (h : d.StopsAt nodes step) (f : α → β) :
    d.StopsAt nodes (do return f (← step)) := by
  have hmap := h.bind fun a => stopsAt_pure (f a)
  rw [List.append_nil] at hmap
  exact hmap

/-! ### Frames -/

theorem FramedBoth.stopsAt {op : TranslateM String → TranslateM String → TranslateM String}
    (h : FramedBoth op) {x y : TranslateM String} (hx : d.StopsAt nodes x)
    (hy : d.StopsAt nodes' y) : d.StopsAt (nodes ++ nodes') (op x y) := by
  cases h with
  | @inOrder form _ _ _ _ _ _ _ => exact hx.bind fun a => hy.map (form a)

/-- What stops an operand stops the operation, however often it takes the operand. -/
theorem Operation.Framed.stopsAt {op : Operation} (h : op.Framed) {x : TranslateM String}
    (hx : d.StopsAt nodes x) : d.StopsAt nodes (op x) := by
  induction h generalizing x with
  | operand => exact hx
  | @around before after _ _ => exact hx.map fun text => before ++ text ++ after
  | both hop _ _ ihFirst ihSecond =>
      intro bound
      rw [hop.stopsAt (ihFirst hx) (ihSecond hx) bound, List.findSome?_append, Option.or_self]
  | comp _ _ ihOuter ihInner => exact ihOuter (ihInner hx)

end

namespace Driver

variable {d : Driver} {nodes nodes' : List Node} {x y : TranslateM String}

/-! ## Leaves -/

section

variable (hd : d.Framed)

include hd

theorem bind_stopsAt (value : Value) : d.StopsAt [] (d.bind value) := by
  obtain ⟨placeholder, hslot, -⟩ := hd.slot .placeholder
  intro bound
  rw [after_bind hslot]
  rfl

theorem writeName_stopsAt (name : String) : d.StopsAt [] (d.writeName name) := by
  obtain ⟨quote, hslot, -⟩ := hd.slot .quoteIdentifier
  rw [writeName, hslot]
  exact stopsAt_pure (quote name)

theorem writeColumn_stopsAt (table : Option String) (name : String) :
    d.StopsAt [] (d.writeColumn table name) := by
  have hname := writeName_stopsAt hd name
  cases table with
  | none => exact hname.bind fun column => stopsAt_pure column
  | some table =>
      exact hname.bind fun column => (writeName_stopsAt hd table).bind fun _ => stopsAt_pure _

theorem writeLiteral_stopsAt (value : Value) :
    d.StopsAt [.literal value] (writeLiteral d.bind value) := by
  cases value with
  | null | bool | int => exact (stopsAt_pure _).cons rfl
  | float x =>
      by_cases hfinite : x.isFinite = true
      · rw [writeLiteral, if_pos hfinite]
        exact (stopsAt_pure _).cons (errorUnless_eq_none.mpr hfinite)
      · rw [writeLiteral, if_neg hfinite]
        exact stopsAt_throw (errorUnless_eq_some.mpr ⟨hfinite, rfl⟩)
  | decimal digits =>
      by_cases hdecimal : isDecimalLiteral digits = true
      · rw [writeLiteral, if_pos hdecimal]
        exact (stopsAt_pure _).cons (errorUnless_eq_none.mpr hdecimal)
      · rw [writeLiteral, if_neg hdecimal]
        exact stopsAt_throw (errorUnless_eq_some.mpr ⟨hdecimal, rfl⟩)
  | text | bytes | date | time | dateTime | instant => exact (bind_stopsAt hd _).cons rfl

end

/-! ## Operations -/

theorem writeCall_stopsAt (function : String) (hx : d.StopsAt nodes x) :
    d.StopsAt (.call function :: nodes) (writeCall function x) := by
  by_cases hplain : isPlainIdentifier function = true
  · exact ((writeCall_framed hplain).stopsAt hx).cons (errorUnless_eq_none.mpr hplain)
  · rw [writeCall, if_neg hplain]
    exact stopsAt_throw (errorUnless_eq_some.mpr ⟨hplain, rfl⟩)

section

variable (hd : d.Framed)

include hd

theorem writeCast_stopsAt (target : SemanticType) (hx : d.StopsAt nodes x) :
    d.StopsAt (.cast target :: nodes) (d.writeCast target x) := by
  cases hnative : d.nativeType? target with
  | none =>
      rw [writeCast, hnative]
      exact stopsAt_throw (errorUnless_eq_some.mpr ⟨by rw [hnative]; exact Bool.false_ne_true, rfl⟩)
  | some native =>
      have hsome : (d.nativeType? target).isSome = true := by rw [hnative]; rfl
      exact ((writeCast_framed hd hnative).stopsAt hx).cons (errorUnless_eq_none.mpr hsome)

theorem writeBinary_stopsAt (op : BinaryOperator) (hx : d.StopsAt nodes x)
    (hy : d.StopsAt nodes' y) :
    d.StopsAt ((if op = .regexMatch then [.regexMatch] else []) ++ (nodes ++ nodes'))
      (d.writeBinary op x y) := by
  by_cases hop : op = .regexMatch
  · rw [writeBinary, if_pos hop, if_pos hop, List.singleton_append]
    by_cases hregex : d.capability .regex = true
    · exact ((writeRegexMatch_framed hd hregex).stopsAt hx hy).cons
        (errorUnless_eq_none.mpr hregex)
    · rw [writeRegexMatch, if_neg hregex]
      exact stopsAt_throw (errorUnless_eq_some.mpr ⟨hregex, rfl⟩)
  · rw [if_neg hop, List.nil_append]
    exact (writeBinary_framed hop).stopsAt hx hy

theorem writeIntervalAdd_stopsAt (unit : IntervalUnit) (hx : d.StopsAt nodes x)
    (hy : d.StopsAt nodes' y) :
    d.StopsAt (if d.AmountFirst then nodes ++ nodes' else nodes' ++ nodes)
      (d.writeIntervalAdd unit x y) := by
  obtain ⟨hfirst, hlast⟩ := writeIntervalAdd_framed hd unit
  split
  · next h => exact (hfirst h).stopsAt hx hy
  · next h => exact (hlast h).stopsAt hy hx

theorem writeAmount_stopsAt (form : AmountForm) (hx : d.StopsAt nodes x) :
    d.StopsAt (form.nodes nodes) (d.writeAmount d.bind form x) := by
  cases form with
  | same => exact hx
  | literal value => exact writeLiteral_stopsAt hd value
  | times factor =>
      exact writeBinary_stopsAt hd .multiply hx (writeLiteral_stopsAt hd (.int factor))

/-! ## Whole trees -/

/-- The translation of an expression fails at the first node that the driver refuses. -/
theorem write_stopsAt (options : TranslateOptions) (e : Expr) :
    d.StopsAt (d.visits e) (d.write options d.bind e) := by
  induction e with
  | literal value => exact writeLiteral_stopsAt hd value
  | column table name => exact writeColumn_stopsAt hd table name
  | truncate unit expr ih => exact (writeTruncate_framed hd options unit).stopsAt ih
  | cast target expr ih => exact writeCast_stopsAt hd target ih
  | unary function arg ih => exact writeCall_stopsAt function ih
  | binary op left right ihLeft ihRight => exact writeBinary_stopsAt hd op ihLeft ihRight
  | intervalAdd unit amount expr ihAmount ihExpr =>
      rw [visits, write]
      cases hnormal : Interval.normalForm d unit amount with
      | error error =>
          have hrefused : d.objection? (.interval unit amount) = some error := by
            rw [objection?, hnormal]
          exact stopsAt_throw hrefused
      | ok normal =>
          have hadmitted : d.objection? (.interval unit amount) = none := by
            rw [objection?, hnormal]
          exact (writeIntervalAdd_stopsAt hd normal.1 (writeAmount_stopsAt hd normal.2 ihAmount)
            ihExpr).cons hadmitted

end

/-! ## Translators -/

/-- An operation, a slot or an infix form that a dialect lacks. -/
inductive LacksForm : Error → Prop where
  | truncate (backend : String) (unit : TruncateUnit) :
      LacksForm (.translation (.cannotTruncate backend unit))
  | extract (unit : TruncateUnit) : LacksForm (.translation (.extractionUnit unit))
  | operator (op : BinaryOperator) : LacksForm (.translation (.noInfixForm op))
  | slot (driver name : String) : LacksForm (.notSupported (.slot driver name))

/-- A translation error, or the driver has no regular expressions. -/
inductive Complains (d : Driver) : Error → Prop where
  | translation (issue : TranslationIssue) : Complains d (.translation issue)
  | regexMatch : d.capability .regex = false →
      Complains d (.notSupported (.regularExpressions d.displayName))

theorem Refuses.amountIssue {unit : IntervalUnit} {amount : Expr} {error : Error}
    (h : d.Refuses (.interval unit amount) error) :
    ∃ issue, error = .translation issue ∧ Interval.IsAmountIssue issue := by
  cases h with
  | interval hnormal =>
      exact Interval.normalForm_failsByAmount d unit amount error (normalize_eq_error.mp hnormal)

theorem Refuses.complains {node : Node} {error : Error} (h : d.Refuses node error) :
    d.Complains error := by
  cases node with
  | interval unit amount =>
      obtain ⟨issue, rfl, -⟩ := h.amountIssue
      exact .translation issue
  | regexMatch =>
      cases h with
      | regexMatch hregex => exact .regexMatch hregex
  | literal | call | cast =>
      cases h
      all_goals exact .translation _

theorem Refuses.not_lacksForm {node : Node} {error : Error} (h : d.Refuses node error) :
    ¬ LacksForm error := by
  cases node with
  | interval unit amount =>
      obtain ⟨issue, rfl, hissue⟩ := h.amountIssue
      cases hissue <;> exact nofun
  | literal | call | cast | regexMatch =>
      cases h
      all_goals exact nofun

/-- A node that the driver refuses, behind nodes that are admissible. -/
def FirstRefused (d : Driver) (nodes : List Node) (error : Error) : Prop :=
  ∃ before node after, nodes = before ++ node :: after ∧ d.Refuses node error ∧
    ∀ n ∈ before, d.Admissible n

theorem firstRefused_iff {error : Error} :
    d.FirstRefused nodes error ↔ nodes.findSome? d.objection? = some error := by
  simp only [List.findSome?_eq_some_iff, FirstRefused, objection?_eq_some, objection?_eq_none]

/-- Exactly the expressions that the driver admits are translated, whatever was bound before. For
any other the error is that of the first node that is not admissible. -/
structure TranslatesAdmissible (d : Driver) (options : TranslateOptions) : Prop where
  succeeds : ∀ bound e,
    (∃ text, (Translator.translate ⟨d, options, bound⟩ e).1 = .ok text) ↔ d.Admits e
  fails : ∀ bound e error, (Translator.translate ⟨d, options, bound⟩ e).1 = .error error ↔
    d.FirstRefused (d.visits e) error
  complains : ∀ bound e error, (Translator.translate ⟨d, options, bound⟩ e).1 = .error error →
    d.Complains error
  lacksNoForm : ∀ bound e error, (Translator.translate ⟨d, options, bound⟩ e).1 = .error error →
    ¬ LacksForm error

theorem Framed.translatesAdmissible (hd : d.Framed) (options : TranslateOptions) :
    d.TranslatesAdmissible options := by
  have hstops : ∀ bound e, failureOf (Translator.translate ⟨d, options, bound⟩ e).1 =
      (d.visits e).findSome? d.objection? := fun bound e => write_stopsAt hd options e bound
  have hfails : ∀ bound e error,
      (Translator.translate ⟨d, options, bound⟩ e).1 = .error error ↔
        d.FirstRefused (d.visits e) error := by
    intro bound e error
    rw [firstRefused_iff, ← hstops bound, failureOf_eq_some]
  have hrefused : ∀ bound e error,
      (Translator.translate ⟨d, options, bound⟩ e).1 = .error error → ∃ n, d.Refuses n error := by
    intro bound e error herror
    obtain ⟨before, node, after, -, hrefuses, -⟩ := (hfails bound e error).mp herror
    exact ⟨node, hrefuses⟩
  refine ⟨fun bound e => ?_, hfails, fun bound e error herror => ?_, fun bound e error herror => ?_⟩
  · rw [← failureOf_eq_none, hstops, List.findSome?_eq_none_iff, admits_iff]
    simp only [objection?_eq_none]
  · obtain ⟨node, hrefuses⟩ := hrefused bound e error herror
    exact hrefuses.complains
  · obtain ⟨node, hrefuses⟩ := hrefused bound e error herror
    exact hrefuses.not_lacksForm

end Driver

/-- Every driver of a configured registry translates the expressions that it admits, and no others. -/
theorem configured_driver_translatesAdmissible {c : Config} {r : Registry} {d : Driver}
    (hr : Registry.ofConfig c = .ok r) (hd : d ∈ r.drivers) (options : TranslateOptions) :
    d.TranslatesAdmissible options :=
  (Registry.ofConfig_framed hr hd).translatesAdmissible options

/-- SQLite has no regular expressions, and says so before it comes to the name of the function. -/
theorem sqlite_translatesAdmissible :
    Registry.ofConfig {} = .ok Registry.builtin ∧
      ⟨Sqlite.descriptor, [Ansi.descriptor]⟩ ∈ Registry.builtin.drivers ∧
      Driver.TranslatesAdmissible ⟨Sqlite.descriptor, [Ansi.descriptor]⟩ ⟨.sunday⟩ ∧
      (Translator.translate ⟨⟨Sqlite.descriptor, [Ansi.descriptor]⟩, ⟨.sunday⟩, []⟩
        (.binary .regexMatch (.column none "name") (.unary "no name" (.int 1)))).1 =
        .error (.notSupported (.regularExpressions "SQLite")) := by
  have hr : Registry.ofConfig {} = .ok Registry.builtin := rfl
  have hd : ⟨Sqlite.descriptor, [Ansi.descriptor]⟩ ∈ Registry.builtin.drivers := by
    simp [Registry.builtin, Registry.drivers]
  have htranslates := configured_driver_translatesAdmissible hr hd ⟨.sunday⟩
  refine ⟨hr, hd, htranslates, ?_⟩
  rw [htranslates.fails]
  exact ⟨[], .regexMatch, _, rfl, .regexMatch (by decide), List.forall_mem_nil _⟩

end Sluice
