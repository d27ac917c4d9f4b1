import Mathlib.Data.List.Forall2
import Sluice.Proofs.Translation.FramedDrivers
import Sluice.Proofs.Translation.Masking
import Sluice.Proofs.Translation.Parameters

/-!
# Names and bound values do not shape a statement

Two plans that differ only in their names and in what their bound values hold are translated by the
same steps. Both translations fail with the same error, or both succeed with texts that are one and
the same once the names are masked, and with parameters of the same kinds.
-/

namespace Sluice

open TranslateM

/-! ## Alike plans -/

/-- One value twice, or two values of a kind that is bound to a placeholder. -/
inductive Value.SameKind : Value → Value → Prop where
  | same (v : Value) : SameKind v v
  | text (s s' : String) : SameKind (.text s) (.text s')
  | bytes (bs bs' : List UInt8) : SameKind (.bytes bs) (.bytes bs')
  | date (d d' : Date) : SameKind (.date d) (.date d')
  | time (t t' : TimeOfDay) : SameKind (.time t) (.time t')
  | dateTime (t t' : DateTime) : SameKind (.dateTime t) (.dateTime t')
  | instant (t t' : DateTime) : SameKind (.instant t) (.instant t')

/-- Expressions that differ only in the names of tables and columns and in bound values. -/
inductive Expr.Alike : Expr → Expr → Prop where
  | literal {v v' : Value} : v.SameKind v' → Alike (.literal v) (.literal v')
  | column {table table' : Option String} (name name' : String) :
      table.isSome = table'.isSome → Alike (.column table name) (.column table' name')
  | truncate (unit : TruncateUnit) {e e' : Expr} : Alike e e' →
      Alike (.truncate unit e) (.truncate unit e')
  | intervalAdd (unit : IntervalUnit) {a a' e e' : Expr} : Alike a a' → Alike e e' →
      Alike (.intervalAdd unit a e) (.intervalAdd unit a' e')
  | cast (target : SemanticType) {e e' : Expr} : Alike e e' →
      Alike (.cast target e) (.cast target e')
  | unary (function : String) {e e' : Expr} : Alike e e' →
      Alike (.unary function e) (.unary function e')
  | binary (op : BinaryOperator) {l l' r r' : Expr} : Alike l l' → Alike r r' →
      Alike (.binary op l r) (.binary op l' r')

/-- Projections of alike expressions, both of them labelled or neither. -/
structure Projection.Alike (p p' : Projection) : Prop where
  expr : p.expr.Alike p'.expr
  label : p.label.isSome = p'.label.isSome

/-- Plans that differ only in names of schemas, tables, columns and labels, and in bound values. -/
structure Plan.Alike (p p' : Plan) : Prop where
  schema : p.source.schema.isSome = p'.source.schema.isSome
  projections : List.Forall₂ Projection.Alike p.projections p'.projections
  filter : Option.Rel Expr.Alike p.filter p'.filter
  groupBy : List.Forall₂ Expr.Alike p.groupBy p'.groupBy
  limit : p.limit = p'.limit

/-- Parameters of the same kinds, position by position. -/
abbrev SameKinds : List Value → List Value → Prop := List.Forall₂ Value.SameKind

/-! ## Steps that run alike -/

namespace TranslateM

variable {α β : Type} {R : α → α → Prop} {S : β → β → Prop}

/-- The same failure, or related results; either way with parameters of the same kinds. -/
inductive SameOutcome (R : α → α → Prop) :
    Except Error α × List Value → Except Error α × List Value → Prop where
  | ok {a a' bound bound'} : R a a' → SameKinds bound bound' →
      SameOutcome R (.ok a, bound) (.ok a', bound')
  | error {bound bound'} (e : Error) : SameKinds bound bound' →
      SameOutcome R (.error e, bound) (.error e, bound')

/-- Two steps that have the same outcome behind parameters of the same kinds. -/
def Uniform (R : α → α → Prop) (x x' : TranslateM α) : Prop :=
  ∀ bound bound', SameKinds bound bound' → SameOutcome R (x.after bound) (x'.after bound')

theorem uniform_pure {a a' : α} (h : R a a') : Uniform R (pure a) (pure a') :=
  fun _ _ hbound => .ok h hbound

theorem uniform_throw (e : Error) : Uniform R (throw e) (throw e) :=
  fun _ _ hbound => .error e hbound

theorem Uniform.bind {x x' : TranslateM α} {f f' : α → TranslateM β} (hx : Uniform R x x')
    (hf : ∀ a a', R a a' → Uniform S (f a) (f' a')) : Uniform S (x >>= f) (x' >>= f') := by
  intro bound bound' hbound
  have hhere := hx bound bound' hbound
  generalize hrun : x.after bound = run at hhere
  generalize hrun' : x'.after bound' = run' at hhere
  cases hhere with
  | ok ha hbound₁ =>
      rw [after_bind_ok hrun, after_bind_ok hrun']
      exact hf _ _ ha _ _ hbound₁
  | error e hbound₁ =>
      rw [after_bind_error hrun, after_bind_error hrun']
      exact .error e hbound₁

theorem uniform_mapM {γ : Type} {Q : γ → γ → Prop} {f : γ → TranslateM β}
    (hf : ∀ a a', Q a a' → Uniform S (f a) (f a')) {l l' : List γ} (h : List.Forall₂ Q l l') :
    Uniform (List.Forall₂ S) (l.mapM f) (l'.mapM f) := by
  induction h with
  | nil => exact uniform_pure .nil
  | cons ha _ ih =>
      rw [List.mapM_cons, List.mapM_cons]
      exact (hf _ _ ha).bind fun b b' hb => ih.bind fun bs bs' hbs => uniform_pure (.cons hb hbs)

end TranslateM

variable {token : List Char} {x x' y y' : TranslateM String}

/-! ## Frames -/

theorem FramedBoth.uniform {op : TranslateM String → TranslateM String → TranslateM String}
    (h : FramedBoth op) (hx : Uniform (Twin token) x x') (hy : Uniform (Twin token) y y') :
    Uniform (Twin token) (op x y) (op x' y') := by
  cases h with
  | inOrder before between after hbefore hbetween hafter hform =>
      refine hx.bind fun a a' ha => hy.bind fun b b' hb => uniform_pure ?_
      rw [hform, hform]
      have hrest := (hb.append (twinTail_separator hafter)).prependTail hbetween
      exact (ha.append hrest).prepend hbefore

theorem Operation.Framed.uniform {op : Operation} (h : op.Framed)
    (hx : Uniform (Twin token) x x') : Uniform (Twin token) (op x) (op x') := by
  induction h generalizing x x' with
  | operand => exact hx
  | around hbefore hafter =>
      refine hx.bind fun a a' ha => uniform_pure ?_
      rw [String.append_assoc, String.append_assoc]
      exact (ha.append (twinTail_separator hafter)).prepend hbefore
  | both hop _ _ ihFirst ihSecond => exact hop.uniform (ihFirst hx) (ihSecond hx)
  | comp _ _ ihOuter ihInner => exact ihOuter (ihInner hx)

theorem twin_commaSeparated {texts texts' : List String}
    (h : List.Forall₂ (Twin token) texts texts') :
    Twin token (commaSeparated texts) (commaSeparated texts') := by
  have hcons : ∀ (s r : String) (rest : List String),
      commaSeparated (s :: r :: rest) = s ++ (", " ++ commaSeparated (r :: rest)) :=
    fun _ _ _ => String.append_assoc
  induction h with
  | nil => exact twin_of_inert .nil
  | cons ha hrest ih =>
      cases hrest with
      | nil => exact ha
      | cons _ _ =>
          rw [hcons, hcons]
          exact ha.append (ih.prependTail separator_comma)

theorem twinTail_limitText (limit : Option UInt64) :
    TwinTail token (Driver.limitText limit) (Driver.limitText limit) := by
  cases limit with
  | none => exact twinTail_empty
  | some n =>
      have hlimit : Separator " LIMIT " := separator_of_check (by decide)
      exact twinTail_separator (hlimit.append (firm_natText n.toNat))

/-! ## Amounts of intervals -/

namespace Interval

variable {amount amount' : Expr}

theorem scale_alike (h : amount.Alike amount') (factor : Nat) :
    scale amount factor = scale amount' factor := by
  cases h with
  | literal hv => cases hv <;> rfl
  | _ => rfl

theorem toNumber?_alike (h : amount.Alike amount') (form : AmountForm) :
    (form.apply amount).toNumber? = (form.apply amount').toNumber? := by
  cases form with
  | same =>
      cases h with
      | literal hv => cases hv <;> rfl
      | _ => rfl
  | literal v => rfl
  | times factor => rfl

theorem plainForm_alike (h : amount.Alike amount') (unit : IntervalUnit) :
    plainForm unit amount = plainForm unit amount' := by
  cases unit with
  | quarter => rw [plainForm, plainForm, scale_alike h]
  | week => rw [plainForm, plainForm, scale_alike h]
  | millisecond | second | minute | hour | day | month | year => rfl

theorem integralForm_alike (h : amount.Alike amount') (driver : String) (unit : IntervalUnit)
    (form : AmountForm) :
    integralForm driver amount unit form = integralForm driver amount' unit form := by
  rw [integralForm, integralForm, toNumber?_alike h, scale_alike h]

/-- The amounts of alike expressions have the same unit and form. -/
theorem normalForm_alike (h : amount.Alike amount') (d : Driver) (unit : IntervalUnit) :
    normalForm d unit amount = normalForm d unit amount' := by
  simp only [normalForm, plainForm_alike h, integralForm_alike h]

end Interval

/-! ## Translations -/

namespace Driver

variable {d : Driver}

/-! ### Names and values -/

theorem writeName_uniform (hd : d.Framed) (name name' : String) :
    Uniform (Twin token) (d.writeName name) (d.writeName name') := by
  obtain ⟨quote, hslot, e, he, hquote⟩ := hd.slot .quoteIdentifier
  rw [writeName, writeName, hslot, he.dialect.quoteIdentifier quote hquote]
  exact uniform_pure (twin_quoteName name name')

theorem writeColumn_uniform (hd : d.Framed) {table table' : Option String}
    (h : table.isSome = table'.isSome) (name name' : String) :
    Uniform (Twin token) (d.writeColumn table name) (d.writeColumn table' name') := by
  have hdot : Separator "." := separator_of_check (by decide)
  have hname : Uniform (Twin token) _ _ := writeName_uniform hd name name'
  rw [writeColumn, writeColumn]
  refine hname.bind fun column column' hcolumn => ?_
  cases table with
  | none =>
      cases table' with
      | none => exact uniform_pure hcolumn
      | some table' => exact Bool.noConfusion h
  | some table =>
      cases table' with
      | none => exact Bool.noConfusion h
      | some table' =>
          have howner : Uniform (Twin token) _ _ := writeName_uniform hd table table'
          refine howner.bind fun owner owner' howner => uniform_pure ?_
          rw [String.append_assoc, String.append_assoc]
          exact howner.append (hcolumn.prependTail hdot)

theorem writeSource_uniform (hd : d.Framed) {t t' : TableRef} (h : t.schema.isSome = t'.schema.isSome) :
    Uniform (Twin token) (d.writeSource t) (d.writeSource t') := by
  have hdot : Separator "." := separator_of_check (by decide)
  have htable : Uniform (Twin token) _ _ := writeName_uniform hd t.name t'.name
  rw [writeSource, writeSource]
  cases ht : t.schema with
  | none =>
      cases ht' : t'.schema with
      | none => exact htable
      | some schema' =>
          rw [ht, ht'] at h
          exact Bool.noConfusion h
  | some schema =>
      cases ht' : t'.schema with
      | none =>
          rw [ht, ht'] at h
          exact Bool.noConfusion h
      | some schema' =>
          have hschema : Uniform (Twin token) _ _ := writeName_uniform hd schema schema'
          refine hschema.bind fun owner owner' howner => htable.bind fun name name' hname => ?_
          rw [String.append_assoc, String.append_assoc]
          exact uniform_pure (howner.append (hname.prependTail hdot))

section

variable (hf : d.Faithful)

include hf

theorem bind_uniform {v v' : Value} (h : v.SameKind v') :
    Uniform (Twin token) (d.bind v) (d.bind v') := by
  obtain ⟨placeholder, hslot, hmark⟩ := exists_placeholder hf
  intro bound bound' hbound
  rw [after_bind hslot, after_bind hslot, hbound.length_eq]
  exact .ok (twin_mark (hmark _)) (List.rel_append hbound (.cons h .nil))

theorem writeLiteral_uniform {v v' : Value} (h : v.SameKind v') :
    Uniform (Twin token) (writeLiteral d.bind v) (writeLiteral d.bind v') := by
  have htext : ∀ s : String, Inert s.toList →
      Uniform (Twin token) (return s : TranslateM String) (return s) :=
    fun _ hs => uniform_pure (twin_of_inert hs)
  cases h with
  | same v =>
      cases v with
      | null => exact htext "NULL" (inert_of_check (by decide))
      | bool b => cases b <;> exact htext _ (inert_of_check (by decide))
      | int n => exact htext _ (inert_intText n.toInt)
      | float x =>
          rw [writeLiteral]
          split
          · exact htext _ (Binary64.inert_floatText x)
          · exact uniform_throw _
      | decimal digits =>
          rw [writeLiteral]
          split
          · rename_i hdecimal
            exact htext _ (inert_of_isDecimalLiteral hdecimal)
          · exact uniform_throw _
      | text | bytes | date | time | dateTime | instant => exact bind_uniform hf (.same _)
  | text s s' => exact bind_uniform hf (.text s s')
  | bytes bs bs' => exact bind_uniform hf (.bytes bs bs')
  | date t t' => exact bind_uniform hf (.date t t')
  | time t t' => exact bind_uniform hf (.time t t')
  | dateTime t t' => exact bind_uniform hf (.dateTime t t')
  | instant t t' => exact bind_uniform hf (.instant t t')

end

/-! ### Operations -/

theorem writeCall_uniform (function : String) (hx : Uniform (Twin token) x x') :
    Uniform (Twin token) (writeCall function x) (writeCall function x') := by
  by_cases hname : isPlainIdentifier function = true
  · exact (writeCall_framed hname).uniform hx
  · simp only [writeCall, if_neg hname]
    exact uniform_throw _

section

variable (hd : d.Framed)

include hd

theorem writeCast_uniform (target : SemanticType) (hx : Uniform (Twin token) x x') :
    Uniform (Twin token) (d.writeCast target x) (d.writeCast target x') := by
  cases hnative : d.nativeType? target with
  | none =>
      rw [writeCast, writeCast, hnative]
      exact uniform_throw _
  | some native => exact (writeCast_framed hd hnative).uniform hx

theorem writeBinary_uniform (op : BinaryOperator) (hx : Uniform (Twin token) x x')
    (hy : Uniform (Twin token) y y') :
    Uniform (Twin token) (d.writeBinary op x y) (d.writeBinary op x' y') := by
  by_cases hop : op = .regexMatch
  · subst hop
    rw [writeBinary, writeBinary, if_pos rfl, if_pos rfl]
    by_cases hregex : d.capability .regex = true
    · exact (writeRegexMatch_framed hd hregex).uniform hx hy
    · rw [writeRegexMatch, writeRegexMatch, if_neg hregex, if_neg hregex]
      exact uniform_throw _
  · exact (writeBinary_framed hop).uniform hx hy

theorem writeIntervalAdd_uniform (unit : IntervalUnit) (hx : Uniform (Twin token) x x')
    (hy : Uniform (Twin token) y y') :
    Uniform (Twin token) (d.writeIntervalAdd unit x y) (d.writeIntervalAdd unit x' y') := by
  obtain ⟨hfirst, hlast⟩ := writeIntervalAdd_framed hd unit
  by_cases h : d.AmountFirst
  · exact (hfirst h).uniform hx hy
  · exact (hlast h).uniform hy hx

end

/-! ### Whole trees -/

section

variable (hd : d.Framed) (hf : d.Faithful) (options : TranslateOptions)

include hd hf

theorem writeAmount_uniform (form : AmountForm) (hx : Uniform (Twin token) x x') :
    Uniform (Twin token) (d.writeAmount d.bind form x) (d.writeAmount d.bind form x') := by
  cases form with
  | same => exact hx
  | literal value => exact writeLiteral_uniform hf (.same value)
  | times factor =>
      exact writeBinary_uniform hd .multiply hx (writeLiteral_uniform hf (.same (.int factor)))

/-- Alike expressions are translated alike. -/
theorem write_uniform {e e' : Expr} (h : e.Alike e') :
    Uniform (Twin token) (d.write options d.bind e) (d.write options d.bind e') := by
  induction h with
  | literal hv => exact writeLiteral_uniform hf hv
  | column name name' htable => exact writeColumn_uniform hd htable name name'
  | truncate unit _ ih => exact (writeTruncate_framed hd options unit).uniform ih
  | cast target _ ih => exact writeCast_uniform hd target ih
  | unary function _ ih => exact writeCall_uniform function ih
  | binary op _ _ ihLeft ihRight => exact writeBinary_uniform hd op ihLeft ihRight
  | intervalAdd unit hamount _ ihAmount ihExpr =>
      rw [write, write, Interval.normalForm_alike hamount]
      cases hnormal : Interval.normalForm d unit _ with
      | error e => exact uniform_throw e
      | ok normal =>
          exact writeIntervalAdd_uniform hd normal.1 (writeAmount_uniform hd hf normal.2 ihAmount)
            ihExpr

theorem writeProjection_uniform {p p' : Projection} (h : p.Alike p') :
    Uniform (Twin token) (d.writeProjection options d.bind p)
      (d.writeProjection options d.bind p') := by
  have has : Separator " AS " := separator_of_check (by decide)
  have hexpr : Uniform (Twin token) _ _ := write_uniform hd hf options h.expr
  have hlabel := h.label
  rw [writeProjection, writeProjection]
  refine hexpr.bind fun text text' htext => ?_
  cases hp : p.label with
  | none =>
      cases hp' : p'.label with
      | none => exact uniform_pure htext
      | some label' =>
          rw [hp, hp'] at hlabel
          exact Bool.noConfusion hlabel
  | some label =>
      cases hp' : p'.label with
      | none =>
          rw [hp, hp'] at hlabel
          exact Bool.noConfusion hlabel
      | some label' =>
          have hname : Uniform (Twin token) _ _ := writeName_uniform hd label label'
          refine hname.bind fun name name' hname => uniform_pure ?_
          rw [String.append_assoc, String.append_assoc]
          exact htext.append (hname.prependTail has)

theorem writeColumns_uniform {ps ps' : List Projection} (h : List.Forall₂ Projection.Alike ps ps') :
    Uniform (Twin token) (d.writeColumns options d.bind ps) (d.writeColumns options d.bind ps') := by
  have hstar : Twin token "*" "*" := twin_of_inert (inert_of_check (by decide))
  have hall : Uniform (List.Forall₂ (Twin token)) _ _ :=
    uniform_mapM (f := d.writeProjection options d.bind)
      (fun _ _ => writeProjection_uniform hd hf options) h
  rw [writeColumns, writeColumns]
  cases h with
  | nil => exact uniform_pure hstar
  | cons _ _ => exact hall.bind fun texts texts' htexts => uniform_pure (twin_commaSeparated htexts)

theorem writeFilter_uniform {filter filter' : Option Expr} (h : Option.Rel Expr.Alike filter filter') :
    Uniform (TwinTail token) (d.writeFilter options d.bind filter)
      (d.writeFilter options d.bind filter') := by
  have hwhere : Separator " WHERE " := separator_of_check (by decide)
  cases h with
  | none => exact uniform_pure twinTail_empty
  | some hcondition =>
      have htext : Uniform (Twin token) _ _ := write_uniform hd hf options hcondition
      exact htext.bind fun text text' htext => uniform_pure (htext.prependTail hwhere)

theorem writeGroups_uniform {groupBy groupBy' : List Expr}
    (h : List.Forall₂ Expr.Alike groupBy groupBy') :
    Uniform (TwinTail token) (d.writeGroups options d.bind groupBy)
      (d.writeGroups options d.bind groupBy') := by
  have hgroup : Separator " GROUP BY " := separator_of_check (by decide)
  have hall : Uniform (List.Forall₂ (Twin token)) _ _ :=
    uniform_mapM (f := d.write options d.bind) (fun _ _ => write_uniform hd hf options) h
  rw [writeGroups, writeGroups]
  cases h with
  | nil => exact uniform_pure twinTail_empty
  | cons _ _ =>
      exact hall.bind fun texts texts' htexts =>
        uniform_pure ((twin_commaSeparated htexts).prependTail hgroup)

/-- Alike plans are translated alike. -/
theorem writePlan_uniform {p p' : Plan} (h : p.Alike p') :
    Uniform (Twin token) (d.writePlan options d.bind p) (d.writePlan options d.bind p') := by
  have hselect : Firm "SELECT " := firm_of_check (by decide)
  have hfrom : Separator " FROM " := separator_of_check (by decide)
  have hcolumns : Uniform (Twin token) _ _ := writeColumns_uniform hd hf options h.projections
  have hsource : Uniform (Twin token) _ _ := writeSource_uniform hd h.schema
  have hfilter : Uniform (TwinTail token) _ _ := writeFilter_uniform hd hf options h.filter
  have hgroups : Uniform (TwinTail token) _ _ := writeGroups_uniform hd hf options h.groupBy
  rw [writePlan, writePlan, h.limit]
  refine hcolumns.bind fun columns columns' hc => hsource.bind fun source source' hs => ?_
  refine hfilter.bind fun filter filter' hw => hgroups.bind fun groups groups' hg => uniform_pure ?_
  simp only [String.append_assoc]
  have hend := hw.append (hg.append (twinTail_limitText p'.limit))
  exact (hc.append ((hs.append hend).prependTail hfrom)).prepend hselect

end

end Driver

/-! ## Statements -/

/-- Statements that are the same once their names are masked, with parameters of the same kinds. -/
structure Statement.SameShape (s s' : Statement) : Prop where
  text : ∀ token, maskNames token s.sql = maskNames token s'.sql
  parameters : SameKinds s.parameters s'.parameters

theorem Driver.statement_of_after {d : Driver} {step : TranslateM String}
    {result : Except Error String} {bound : List Value} (h : step.after [] = (result, bound)) :
    d.statement step = result.map fun text => ⟨text, bound⟩ := by
  rw [statement, Translator.take, h]
  rfl

theorem statements_sameShape {d : Driver} {x x' : TranslateM String}
    (h : ∀ token, Uniform (Twin token) x x') :
    (∃ e, d.statement x = .error e ∧ d.statement x' = .error e) ∨
      ∃ s s', d.statement x = .ok s ∧ d.statement x' = .ok s' ∧ s.SameShape s' := by
  have hhere := fun token => h token [] [] .nil
  generalize hrun : x.after [] = run at hhere
  generalize hrun' : x'.after [] = run' at hhere
  cases hhere [] with
  | error e _ => exact .inl ⟨e, Driver.statement_of_after hrun, Driver.statement_of_after hrun'⟩
  | @ok text text' bound bound' _ hbound =>
      refine .inr ⟨⟨text, bound⟩, ⟨text', bound'⟩, Driver.statement_of_after hrun,
        Driver.statement_of_after hrun', fun token => ?_, hbound⟩
      cases hhere token.toList with
      | ok htwin _ => exact htwin.maskNames_eq

/-- For every driver of a configured registry, plans that differ only in names and in what bound
values hold compile to statements of one shape, or fail with the same error. -/
theorem configured_plans_sameShape {c : Config} {r : Registry} {d : Driver}
    (hr : Registry.ofConfig c = .ok r) (hd : d ∈ r.drivers) (options : TranslateOptions)
    {p p' : Plan} (h : p.Alike p') :
    (∃ e, p.compile d options = .error e ∧ p'.compile d options = .error e) ∨
      ∃ s s', p.compile d options = .ok s ∧ p'.compile d options = .ok s' ∧ s.SameShape s' :=
  statements_sameShape fun _ =>
    Driver.writePlan_uniform (Registry.ofConfig_framed hr hd)
      (Registry.ofConfig_faithful hr d hd) options h

/-- A plan with names and bound values to be filled in; the operand of its truncation is written
twice, and its interval is scaled. -/
def quarterlyPlan (schema table column label amount pattern : String) (bytes : List UInt8) : Plan where
  source := ⟨some schema, table⟩
  projections := [⟨.truncate .quarter (.intervalAdd .week (.literal (.text amount))
    (.column (some table) column)), some label⟩]
  filter := some (.binary .regexMatch (.column none column) (.literal (.text pattern)))
  groupBy := [.literal (.bytes bytes)]
  limit := some 5

theorem quarterlyPlan_alike (schema table column label amount pattern : String)
    (bytes : List UInt8) (schema' table' column' label' amount' pattern' : String)
    (bytes' : List UInt8) :
    (quarterlyPlan schema table column label amount pattern bytes).Alike
      (quarterlyPlan schema' table' column' label' amount' pattern' bytes') where
  schema := rfl
  projections := .cons ⟨.truncate _ (.intervalAdd _ (.literal (.text amount amount'))
    (.column column column' rfl)), rfl⟩ .nil
  filter := .some (.binary _ (.column column column' rfl) (.literal (.text pattern pattern')))
  groupBy := .cons (.literal (.bytes bytes bytes')) .nil
  limit := rfl

theorem hostile_plan_sameShape :
    let d : Driver := ⟨H2.descriptor, [Ansi.descriptor]⟩
    let p := quarterlyPlan "s" "t" "c" "l" "1" "x" [1]
    let p' := quarterlyPlan "'" "t\"; DROP TABLE t; --" "\"\"" "/*" "' OR '" "" []
    let s : Statement := {
      sql := "SELECT PARSEDATETIME(CONCAT(YEAR(DATEADD('DAY', (? * 7), \"t\".\"c\")), " ++
        "LPAD(CAST(QUARTER(DATEADD('DAY', (? * 7), \"t\".\"c\")) * 3 - 2 AS VARCHAR), 2, '0')), " ++
        "'yyyyMM') AS \"l\" FROM \"s\".\"t\" WHERE REGEXP_LIKE(\"c\", ?) GROUP BY ? LIMIT 5"
      parameters := [.text "1", .text "1", .text "x", .bytes [1]] }
    Registry.ofConfig {} = .ok Registry.builtin ∧ d ∈ Registry.builtin.drivers ∧ p.Alike p' ∧
      p.compile d {} = .ok s ∧ ∃ s', p'.compile d {} = .ok s' ∧ s.SameShape s' := by
  intro d p p' s
  have hr : Registry.ofConfig {} = .ok Registry.builtin := rfl
  have hd : d ∈ Registry.builtin.drivers := List.mem_cons_of_mem _ List.mem_cons_self
  have halike : p.Alike p' := quarterlyPlan_alike _ _ _ _ _ _ _ _ _ _ _ _ _ _
  have hs : p.compile d {} = .ok s := by decide +kernel
  obtain ⟨e, herror, -⟩ | ⟨s₁, s', hok, hok', hshape⟩ := configured_plans_sameShape hr hd {} halike
  · exact nomatch hs.symm.trans herror
  · obtain rfl := Except.ok.inj (hs.symm.trans hok)
    exact ⟨hr, hd, halike, hs, s', hok', hshape⟩

end Sluice
