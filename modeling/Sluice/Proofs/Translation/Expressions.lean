import Sluice.Proofs.Translation.Amounts
import Sluice.Proofs.Translation.Faithful

/-!
# Expressions and plans are emitted

A faithful driver writes every expression and every plan as a tidy emission of the values that the
expression or plan leaves to parameters.
-/

namespace Sluice

open Text Scan

/-! ## Bound values -/

/-- Values that are never written out: texts, bytes and points in time. -/
def Value.isBound : Value → Bool
  | null | bool _ | int _ | float _ | decimal _ => false
  | text _ | bytes _ | date _ | time _ | dateTime _ | instant _ => true

/-- The literals of an expression that are not written out. -/
def Expr.boundValues : Expr → List Value
  | literal value => if value.isBound then [value] else []
  | column _ _ => []
  | truncate _ expr => expr.boundValues
  | intervalAdd _ amount expr => amount.boundValues ++ expr.boundValues
  | cast _ expr => expr.boundValues
  | unary _ arg => arg.boundValues
  | binary _ left right => left.boundValues ++ right.boundValues

/-- The literals of a plan that are not written out. -/
def Plan.boundValues (p : Plan) : List Value :=
  p.projections.flatMap (·.expr.boundValues) ++
    (p.filter.elim [] Expr.boundValues ++ p.groupBy.flatMap Expr.boundValues)

theorem Expr.isBound_of_mem_boundValues {e : Expr} {v : Value} (h : v ∈ e.boundValues) :
    v.isBound = true := by
  induction e with
  | literal value =>
      rw [boundValues] at h
      split at h
      · rename_i hbound
        rw [List.mem_singleton.mp h]
        exact hbound
      · exact (List.not_mem_nil h).elim
  | column => exact (List.not_mem_nil h).elim
  | truncate _ _ ih => exact ih h
  | cast _ _ ih => exact ih h
  | unary _ _ ih => exact ih h
  | intervalAdd _ _ _ ihAmount ihExpr =>
      rcases List.mem_append.mp h with h | h
      · exact ihAmount h
      · exact ihExpr h
  | binary _ _ _ ihLeft ihRight =>
      rcases List.mem_append.mp h with h | h
      · exact ihLeft h
      · exact ihRight h

theorem Plan.isBound_of_mem_boundValues {p : Plan} {v : Value} (h : v ∈ p.boundValues) :
    v.isBound = true := by
  rcases List.mem_append.mp h with h | h
  · obtain ⟨projection, -, hv⟩ := List.mem_flatMap.mp h
    exact Expr.isBound_of_mem_boundValues hv
  · rcases List.mem_append.mp h with h | h
    · cases hfilter : p.filter with
      | none =>
          rw [hfilter] at h
          exact (List.not_mem_nil h).elim
      | some condition =>
          rw [hfilter] at h
          exact Expr.isBound_of_mem_boundValues h
    · obtain ⟨e, -, hv⟩ := List.mem_flatMap.mp h
      exact Expr.isBound_of_mem_boundValues hv

namespace Driver

/-! ## Steps of a faithful driver -/

theorem lift_ok {α : Type} (a : α) (f : α → TranslateM String) :
    (liftM (.ok a : Except Error α) : TranslateM α) >>= f = f a := rfl

theorem lift_error {α : Type} (error : Error) (f : α → TranslateM String) :
    (liftM (.error error : Except Error α) : TranslateM α) >>= f = throw error := rfl

variable {d : Driver}

section

variable (hd : d.Faithful)

include hd

theorem writeName_eq (name : String) :
    ∃ text : String, Inert text.toList ∧ d.writeName name = return text := by
  obtain ⟨quote, hslot, e, he, hquote⟩ := hd.slot (·.quoteIdentifier) rfl "quote_identifier"
  refine ⟨quote name, he.dialect.quoteIdentifier quote hquote name, ?_⟩
  rw [writeName, hslot, lift_ok]

theorem writeColumn_emits (table : Option String) (name : String) :
    Emits [] fun _ => d.writeColumn table name := by
  obtain ⟨column, hcolumn, hname⟩ := writeName_eq hd name
  cases table with
  | none =>
      refine (emits_text hcolumn).of_eq fun _ => ?_
      rw [writeColumn, hname, pure_bind]
  | some table =>
      obtain ⟨owner, htable, hname'⟩ := writeName_eq hd table
      have hall : Inert (owner ++ "." ++ column).toList := by
        rw [String.toList_append, String.toList_append]
        exact (htable.append (inert_of_check (by decide))).append hcolumn
      refine (emits_text hall).of_eq fun _ => ?_
      simp only [writeColumn, hname, hname', pure_bind]

theorem writeDayOfWeek_faithful (options : TranslateOptions) :
    (d.writeDayOfWeek options).Faithful := by
  intro vs x hx
  obtain ⟨op, hslot, e, he, hop⟩ := hd.slot (·.dayOfWeek) rfl "day_of_week"
  have hiso := he.dialect.dayOfWeek op hop vs x hx
  have hshift : ∀ k : Nat, Emits vs fun put =>
      Operation.around "(((" (") + " ++ toString k ++ ") % 7 + 1)") (op (x put)) := by
    intro k
    have hopen : Joint ") + " := joint_of_check (by decide)
    have hclose : Inert ") % 7 + 1)".toList := inert_of_check (by decide)
    exact hiso.around (inert_of_check (by decide)) ((hopen.append (inert_natText k)).append hclose)
  cases hday : options.weekStart with
  | monday =>
      refine hiso.of_eq fun put => ?_
      rw [writeDayOfWeek, hslot, lift_ok]
      simp only [hday, bind_pure]
  | tuesday | wednesday | thursday | friday | saturday | sunday =>
      refine (hshift (7 - options.weekStart.number)).of_eq fun put => ?_
      rw [writeDayOfWeek, hslot, lift_ok]
      simp only [hday, Operation.around, String.append_assoc]

theorem writeIntervalAdd_faithful (unit : IntervalUnit) : FaithfulBoth (d.writeIntervalAdd unit) := by
  intro vs ws x y hx hy
  obtain ⟨op, hslot, e, he, hop⟩ := hd.slot (·.intervalAdd) rfl "interval_add"
  refine (he.dialect.intervalAdd op hop unit vs ws x y hx hy).of_eq fun put => ?_
  rw [writeIntervalAdd, hslot, lift_ok]

theorem writeTruncateSlot_faithful (unit : TruncateUnit) : (d.writeTruncateSlot unit).Faithful := by
  intro vs x hx
  obtain ⟨op, hslot, e, he, hop⟩ := hd.slot (·.truncate) rfl "truncate"
  refine (he.dialect.truncate op hop unit vs x hx).of_eq fun put => ?_
  rw [writeTruncateSlot, hslot, lift_ok]

theorem writeExtract_faithful (field : DateField) : (d.writeExtract field).Faithful := by
  intro vs x hx
  obtain ⟨op, hslot, e, he, hop⟩ := hd.slot (·.extract) rfl "extract"
  refine (he.dialect.extract op hop field vs x hx).of_eq fun put => ?_
  rw [writeExtract, hslot, lift_ok]

theorem writeCast_faithful (target : SemanticType) : (d.writeCast target).Faithful := by
  intro vs x hx
  cases hnative : d.nativeType? target with
  | none =>
      refine (emits_throw (.translation (.noNativeType d.displayName target)) vs).of_eq fun put => ?_
      rw [writeCast, hnative]
  | some name =>
      obtain ⟨op, hslot, e, he, hop⟩ := hd.slot (·.cast) rfl "cast"
      refine (he.dialect.cast op hop name (hd.nativeType hnative) vs x hx).of_eq fun put => ?_
      simp only [writeCast, hnative, hslot, lift_ok]

theorem writeRegexMatch_faithful : FaithfulBoth d.writeRegexMatch := by
  intro vs ws x y hx hy
  by_cases hregex : d.capability .regex = true
  · obtain ⟨form, hslot, e, he, hform⟩ := hd.slot (·.regexMatch) rfl "regex_match"
    refine (he.dialect.regexMatch form hform vs ws x y hx hy).of_eq fun put => ?_
    rw [writeRegexMatch, if_pos hregex, hslot, lift_ok]
  · refine (emits_throw (.notSupported (.regularExpressions d.displayName)) _).of_eq fun put => ?_
    rw [writeRegexMatch, if_neg hregex]

end

/-! ## Operators -/

theorem writeInfix_faithful {token : String} (h : Inert (token ++ " ").toList) :
    FaithfulBoth (writeInfix token) := by
  have hblank : Joint " " := joint_of_check (by decide)
  refine faithfulBoth_inOrder "(" _ ")" (inert_of_check (by decide)) (hblank.append h)
    joint_close fun a b => ?_
  simp only [String.append_assoc]

theorem writeBinary_faithful (hd : d.Faithful) (op : BinaryOperator) :
    FaithfulBoth (d.writeBinary op) := by
  have hinfix : ∀ token : String, isInertIn none (token ++ " ").toList = true →
      FaithfulBoth (writeInfix token) := fun _ h => writeInfix_faithful (inert_of_check h)
  cases op with
  | regexMatch => exact writeRegexMatch_faithful hd
  | eq => exact hinfix "=" (by decide)
  | notEq => exact hinfix "<>" (by decide)
  | lt => exact hinfix "<" (by decide)
  | ltEq => exact hinfix "<=" (by decide)
  | gt => exact hinfix ">" (by decide)
  | gtEq => exact hinfix ">=" (by decide)
  | and => exact hinfix "AND" (by decide)
  | or => exact hinfix "OR" (by decide)
  | plus => exact hinfix "+" (by decide)
  | minus => exact hinfix "-" (by decide)
  | multiply => exact hinfix "*" (by decide)
  | divide => exact hinfix "/" (by decide)
  | modulo => exact hinfix "%" (by decide)
  | concat => exact hinfix "||" (by decide)

theorem writeWeekStart_faithful (hd : d.Faithful) (options : TranslateOptions) :
    (d.writeWeekStart options).Faithful := by
  intro vs x hx
  have hone : Emits [] fun _ => return toString (1 : Int64).toInt := emits_text (inert_intText _)
  have hdays := writeBinary_faithful hd .minus [] vs _ _ hone (writeDayOfWeek_faithful hd options vs x hx)
  have hstart := writeTruncateSlot_faithful hd .day vs x hx
  refine (writeIntervalAdd_faithful hd .day _ _ _ _ hdays hstart).congr fun v => ?_
  rw [List.nil_append, List.mem_append]
  exact or_self_iff

theorem writeTruncate_faithful (hd : d.Faithful) (options : TranslateOptions) (unit : TruncateUnit) :
    (d.writeTruncate options unit).Faithful := by
  cases unit with
  | week => exact writeWeekStart_faithful hd options
  | dayOfWeek => exact writeDayOfWeek_faithful hd options
  | minute | hour | day | month | quarter | year => exact writeTruncateSlot_faithful hd _
  | minuteOfHour | hourOfDay | dayOfMonth | monthOfYear | quarterOfYear =>
      exact writeExtract_faithful hd _

theorem writeCall_faithful (function : String) : (writeCall function).Faithful := by
  intro vs x hx
  by_cases hname : isPlainIdentifier function = true
  · have hopen : Inert (function ++ "(").toList := by
      rw [String.toList_append]
      exact (inert_of_isPlainIdentifier hname).append (inert_of_check (by decide))
    refine (hx.around hopen joint_close).of_eq fun put => ?_
    rw [writeCall, if_pos hname]
  · refine (emits_throw (.translation (.invalidFunctionName function)) vs).of_eq fun put => ?_
    rw [writeCall, if_neg hname]

theorem writeLiteral_emits (value : Value) :
    Emits (if value.isBound then [value] else []) fun put => writeLiteral put value := by
  have hword : ∀ word : String, isInertIn none word.toList = true →
      Emits [] fun _ => return word := fun _ h => emits_text (inert_of_check h)
  cases value with
  | null => exact hword "NULL" (by decide)
  | bool b =>
      cases b with
      | true => exact hword "TRUE" (by decide)
      | false => exact hword "FALSE" (by decide)
  | int n => exact emits_text (inert_intText n.toInt)
  | float x =>
      by_cases hfinite : x.isFinite = true
      · refine (emits_text (Binary64.inert_floatText x)).of_eq fun put => ?_
        rw [writeLiteral, if_pos hfinite]
      · refine (emits_throw (.translation (.nonFiniteNumber x)) _).of_eq fun put => ?_
        rw [writeLiteral, if_neg hfinite]
  | decimal digits =>
      by_cases hdecimal : isDecimalLiteral digits = true
      · refine (emits_text (inert_of_isDecimalLiteral hdecimal)).of_eq fun put => ?_
        rw [writeLiteral, if_pos hdecimal]
      · refine (emits_throw (.translation (.invalidDecimal digits)) _).of_eq fun put => ?_
        rw [writeLiteral, if_neg hdecimal]
  | text | bytes | date | time | dateTime | instant => exact emits_value _

/-! ## Intervals -/

/-- An amount becomes a literal only if it was a number to begin with. -/
structure NumberForm (amount : Expr) (value : Value) : Prop where
  amount : amount.boundValues = []
  value : value.isBound = false

theorem numberForm_of_rescaled {amount : Expr} {value : Value} (h : Rescaled amount value) :
    NumberForm amount value := by
  cases h <;> exact ⟨rfl, rfl⟩

/-- The amount that a driver gets is a literal only if it was one. -/
theorem normalForm_literal {unit unit' : IntervalUnit} {amount : Expr} {value : Value}
    (h : Interval.normalForm d unit amount = .ok (unit', .literal value)) :
    NumberForm amount value :=
  numberForm_of_rescaled (Interval.normalForm_rescaled h)

theorem writeAmount_emits (hd : d.Faithful) {form : AmountForm} {amount : Expr}
    (hform : ∀ value, form = .literal value → NumberForm amount value) {x : Writer}
    (hx : Emits amount.boundValues x) :
    Emits amount.boundValues fun put => d.writeAmount put form (x put) := by
  cases form with
  | same => exact hx
  | literal value =>
      have hnumber := hform value rfl
      have hliteral := writeLiteral_emits value
      rw [if_neg (by rw [hnumber.value]; exact Bool.false_ne_true)] at hliteral
      rw [hnumber.amount]
      exact hliteral
  | times factor =>
      have hfactor : Emits [] fun put => writeLiteral put (.int factor) :=
        writeLiteral_emits (.int factor)
      have hproduct := writeBinary_faithful hd .multiply _ _ _ _ hx hfactor
      rw [List.append_nil] at hproduct
      exact hproduct

/-! ## Whole trees -/

/-- A faithful driver emits the bound values of every expression. -/
theorem write_emits (hd : d.Faithful) (options : TranslateOptions) (e : Expr) :
    Emits e.boundValues fun put => d.write options put e := by
  induction e with
  | literal value => exact writeLiteral_emits value
  | column table name => exact writeColumn_emits hd table name
  | truncate unit expr ih => exact writeTruncate_faithful hd options unit _ _ ih
  | cast target expr ih => exact writeCast_faithful hd target _ _ ih
  | unary function arg ih => exact writeCall_faithful function _ _ ih
  | binary op left right ihLeft ihRight =>
      exact writeBinary_faithful hd op _ _ _ _ ihLeft ihRight
  | intervalAdd unit amount expr ihAmount ihExpr =>
      cases hnormal : Interval.normalForm d unit amount with
      | error error =>
          refine (emits_throw error _).of_eq fun put => ?_
          rw [write, hnormal, lift_error]
      | ok normal =>
          obtain ⟨unit', form⟩ := normal
          have hform : ∀ value, form = .literal value → NumberForm amount value := by
            rintro value rfl
            exact normalForm_literal hnormal
          have hamount := writeAmount_emits hd hform ihAmount
          refine (writeIntervalAdd_faithful hd unit' _ _ _ _ hamount ihExpr).of_eq fun put => ?_
          rw [write, hnormal, lift_ok]

theorem writeProjection_emits (hd : d.Faithful) (options : TranslateOptions) (p : Projection) :
    Emits p.expr.boundValues fun put => d.writeProjection options put p := by
  have htext := write_emits hd options p.expr
  cases hlabel : p.label with
  | none =>
      refine htext.of_eq fun put => ?_
      simp only [writeProjection, hlabel, bind_pure]
  | some label =>
      obtain ⟨name, hname, hwrite⟩ := writeName_eq hd label
      have has : Joint (" AS " ++ name) := (joint_of_check (by decide)).append hname
      have hall := htext.append (emitsApart_text has)
      rw [List.append_nil] at hall
      refine hall.of_eq fun put => ?_
      simp only [writeProjection, hlabel, hwrite, pure_bind, String.append_assoc]

theorem writeColumns_emits (hd : d.Faithful) (options : TranslateOptions) (ps : List Projection) :
    Emits (ps.flatMap (·.expr.boundValues)) fun put => d.writeColumns options put ps := by
  cases ps with
  | nil => exact emits_text (inert_of_check (by decide))
  | cons p ps => exact emits_commaSeparated (writeProjection_emits hd options) (p :: ps)

theorem writeSource_eq (hd : d.Faithful) (t : TableRef) :
    ∃ text : String, Inert text.toList ∧ d.writeSource t = return text := by
  obtain ⟨name, hname, hwrite⟩ := writeName_eq hd t.name
  cases hschema : t.schema with
  | none => exact ⟨name, hname, by rw [writeSource, hschema, hwrite]⟩
  | some schema =>
      obtain ⟨owner, howner, hwrite'⟩ := writeName_eq hd schema
      refine ⟨owner ++ "." ++ name, ?_, ?_⟩
      · rw [String.toList_append, String.toList_append]
        exact (howner.append (inert_of_check (by decide))).append hname
      · simp only [writeSource, hschema, hwrite, hwrite', pure_bind]

theorem writeFilter_emits (hd : d.Faithful) (options : TranslateOptions) (filter : Option Expr) :
    EmitsApart (filter.elim [] Expr.boundValues) fun put => d.writeFilter options put filter := by
  cases filter with
  | none => exact emitsApart_nothing
  | some condition =>
      exact (write_emits hd options condition).prependApart (joint_of_check (by decide))

theorem writeGroups_emits (hd : d.Faithful) (options : TranslateOptions) (groupBy : List Expr) :
    EmitsApart (groupBy.flatMap Expr.boundValues) fun put => d.writeGroups options put groupBy := by
  cases groupBy with
  | nil => exact emitsApart_nothing
  | cons e es =>
      have hkeyword : Joint " GROUP BY " := joint_of_check (by decide)
      have hlist := emits_commaSeparated (write_emits hd options) (e :: es)
      refine (hlist.prependApart hkeyword).of_eq fun put => ?_
      simp only [writeGroups, List.isEmpty_cons, Bool.false_eq_true, ↓reduceIte, bind_assoc,
        pure_bind]

theorem limitText_emits (limit : Option UInt64) : EmitsApart [] fun _ => return limitText limit := by
  cases limit with
  | none => exact emitsApart_nothing
  | some n =>
      have hkeyword : Joint " LIMIT " := joint_of_check (by decide)
      exact emitsApart_text (hkeyword.append (inert_natText n.toNat))

/-- A faithful driver spells every plan, starting with its keyword. -/
theorem writePlan_spells (hd : d.Faithful) (options : TranslateOptions) (p : Plan) :
    ∃ e, Spells (fun put => d.writePlan options put p) p.boundValues (.text "SELECT " e) := by
  obtain ⟨source, hsource, hwrite⟩ := writeSource_eq hd p.source
  have hselect : Inert "SELECT ".toList := inert_of_check (by decide)
  have hfrom : Joint (" FROM " ++ source) := (joint_of_check (by decide)).append hsource
  have hlimit := (writeGroups_emits hd options p.groupBy).append (limitText_emits p.limit)
  have hclauses := (emitsApart_text hfrom).append
    ((writeFilter_emits hd options p.filter).append hlimit)
  have hrest := (writeColumns_emits hd options p.projections).append hclauses
  rw [List.nil_append, List.append_nil] at hrest
  obtain ⟨e, hspells⟩ := hrest
  refine ⟨e, (spells_prepend hselect hspells).of_eq fun put => ?_⟩
  simp only [writePlan, hwrite, pure_bind, bind_assoc, String.append_assoc]

/-- A faithful driver emits the bound values of every plan. -/
theorem writePlan_emits (hd : d.Faithful) (options : TranslateOptions) (p : Plan) :
    Emits p.boundValues fun put => d.writePlan options put p := by
  obtain ⟨e, hspells⟩ := writePlan_spells hd options p
  exact ⟨.text "SELECT " e, hspells⟩

end Driver

end Sluice
