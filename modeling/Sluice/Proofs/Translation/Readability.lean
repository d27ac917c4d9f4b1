import Sluice.Proofs.Translation.Pieces
import Sluice.Proofs.Translation.Rejection

/-!
# Statements can be read back

An expression of columns, literals, unary functions and infix operators is written in pieces that
show how it is put together: calls and infix operators keep their operands in parentheses, and names
are quoted. Two such expressions with the same text and the same parameters are one and the same.
-/

namespace Sluice

open Piece TranslateM

/-! ## Elementary expressions -/

/-- Numbers with a fraction, which may be written like an integer. -/
def Value.isFractional : Value → Bool
  | float _ | decimal _ => true
  | null | bool _ | int _ | text _ | bytes _ | date _ | time _ | dateTime _ | instant _ => false

/-- Expressions of columns, literals, unary functions and infix operators. -/
inductive Expr.Elementary : Expr → Prop where
  | literal {value : Value} : value.isFractional = false → Elementary (.literal value)
  | column (table : Option String) (name : String) : Elementary (.column table name)
  | unary (function : String) {arg : Expr} : Elementary arg → Elementary (.unary function arg)
  | binary {op : BinaryOperator} {left right : Expr} : op.token?.isSome = true →
      Elementary left → Elementary right → Elementary (.binary op left right)

/-! ## Expressions in pieces -/

/-- The piece that a literal is written as. -/
def Value.piece? : Value → Option Piece
  | null => some (.word "NULL")
  | bool b => some (.word (if b then "TRUE" else "FALSE"))
  | int n => some (.number n.toInt)
  | float _ | decimal _ => none
  | text s => some (.value (.text s))
  | bytes bs => some (.value (.bytes bs))
  | date d => some (.value (.date d))
  | time t => some (.value (.time t))
  | dateTime t => some (.value (.dateTime t))
  | instant t => some (.value (.instant t))

/-- The pieces that an expression is written in. -/
inductive Expr.InPieces : Expr → List Piece → Prop where
  | literal {value : Value} {piece : Piece} : value.piece? = some piece →
      InPieces (.literal value) [piece]
  | column (name : String) : InPieces (.column none name) [.name name]
  | qualified (table name : String) :
      InPieces (.column (some table) name) [.name table, .point, .name name]
  | unary {function : String} {arg : Expr} {pieces : List Piece} : IsPlain function →
      InPieces arg pieces →
      InPieces (.unary function arg) (.word function :: .opening :: (pieces ++ [.closing]))
  | binary {op : BinaryOperator} {token : String} {left right : Expr} {lefts rights : List Piece} :
      op.token? = some token → InPieces left lefts → InPieces right rights →
      InPieces (.binary op left right)
        (.opening :: (lefts ++ .operator token :: (rights ++ [.closing])))

/-- A literal is a word, a number or a value. -/
theorem Value.piece?_spec {value : Value} {piece : Piece} (h : value.piece? = some piece) :
    piece.Plain ∧ piece.isJoint = false ∧ ∀ s, piece ≠ .name s := by
  have hword : ∀ s : String, isPlainIdentifier s = true → (Piece.word s).Plain :=
    fun _ hs => isPlainIdentifier_iff.mp hs
  cases value with
  | null =>
      obtain rfl := Option.some.inj h
      exact ⟨hword _ (by decide), rfl, nofun⟩
  | bool b =>
      obtain rfl := Option.some.inj h
      exact ⟨hword _ (by cases b <;> decide), rfl, nofun⟩
  | float | decimal => exact nomatch h
  | int | text | bytes | date | time | dateTime | instant =>
      obtain rfl := Option.some.inj h
      exact ⟨trivial, rfl, nofun⟩

/-- The literal that is written as a piece. -/
def Piece.literal : Piece → Value
  | word s => if s = "NULL" then .null else .bool (s = "TRUE")
  | number n => .int (Int64.ofInt n)
  | value v => v
  | name _ | operator _ | point | opening | closing => .null

theorem Value.literal_of_piece? {value : Value} {piece : Piece} (h : value.piece? = some piece) :
    piece.literal = value := by
  cases value with
  | bool b =>
      obtain rfl := Option.some.inj h
      cases b <;> rfl
  | int n =>
      obtain rfl := Option.some.inj h
      exact congrArg Value.int (Int64.ofInt_toInt n)
  | float | decimal => exact nomatch h
  | null | text | bytes | date | time | dateTime | instant =>
      obtain rfl := Option.some.inj h
      rfl

theorem BinaryOperator.blank_not_mem_token {op : BinaryOperator} {token : String}
    (h : op.token? = some token) : ' ' ∉ token.toList := by
  cases op <;> cases h <;> decide

/-- An operator is known by its token. -/
theorem BinaryOperator.find?_token {op : BinaryOperator} {token : String}
    (h : op.token? = some token) : all.find? (·.token? == some token) = some op := by
  cases op <;> cases h <;> rfl

namespace Expr

theorem InPieces.wellSet {e : Expr} {pieces : List Piece} (h : e.InPieces pieces) :
    WellSet pieces := by
  have hname : ∀ s, WellSet [.name s] := fun s => wellSet_singleton trivial
  have hclosed : ∀ {pieces : List Piece}, WellSet pieces → WellSet (pieces ++ [.closing]) :=
    fun h => h.join wellSet_nil trivial rfl
  induction h with
  | literal hvalue => exact wellSet_singleton (Value.piece?_spec hvalue).1
  | column name => exact hname name
  | qualified table name => exact (hname table).join (hname name) trivial rfl
  | @unary function _ _ hfunction _ ih =>
      have hword : WellSet [.word function] := wellSet_singleton hfunction
      exact hword.join (hclosed ih) trivial rfl
  | binary htoken _ _ ihLeft ihRight =>
      have hblank := BinaryOperator.blank_not_mem_token htoken
      exact wellSet_nil.join (ihLeft.join (hclosed ihRight) hblank rfl) trivial rfl

/-- What may stand behind the pieces of an expression. -/
structure Follows (pieces : List Piece) : Prop where
  ne_opening : ∀ rest, pieces ≠ .opening :: rest
  ne_point : ∀ rest, pieces ≠ .point :: rest

/-- The pieces of an expression show the expression and where it ends. -/
theorem InPieces.append_inj {e e' : Expr} {pieces pieces' rest rest' : List Piece}
    (h : e.InPieces pieces) (h' : e'.InPieces pieces') (hrest : Follows rest)
    (hrest' : Follows rest') (heq : pieces ++ rest = pieces' ++ rest') : e = e' ∧ rest = rest' := by
  have hclosing : ∀ row, Follows (.closing :: row) := fun _ => ⟨nofun, nofun⟩
  have hoperator : ∀ token row, Follows (.operator token :: row) := fun _ _ => ⟨nofun, nofun⟩
  -- The first piece tells the forms apart, but for words, which begin literals and calls, and for
  -- names, which may be qualified: there the piece behind it decides.
  induction h generalizing e' pieces' rest rest' with
  | literal hvalue =>
      obtain ⟨-, hjoint, hname⟩ := Value.piece?_spec hvalue
      cases h' with
      | literal hvalue' =>
          obtain ⟨rfl, hrow⟩ := List.cons.inj heq
          rw [← Value.literal_of_piece? hvalue, Value.literal_of_piece? hvalue']
          exact ⟨rfl, hrow⟩
      | column name => exact absurd (List.head_eq_of_cons_eq heq) (hname name)
      | qualified table name => exact absurd (List.head_eq_of_cons_eq heq) (hname table)
      | unary => exact absurd (List.tail_eq_of_cons_eq heq) (hrest.ne_opening _)
      | binary =>
          rw [List.head_eq_of_cons_eq heq] at hjoint
          exact nomatch hjoint
  | column name =>
      cases h' with
      | literal hvalue' =>
          obtain ⟨-, -, hname⟩ := Value.piece?_spec hvalue'
          exact absurd (List.head_eq_of_cons_eq heq).symm (hname name)
      | column name' =>
          obtain ⟨hname, hrow⟩ := List.cons.inj heq
          rw [Piece.name.inj hname]
          exact ⟨rfl, hrow⟩
      | qualified => exact absurd (List.tail_eq_of_cons_eq heq) (hrest.ne_point _)
      | unary | binary => exact nomatch heq
  | qualified table name =>
      cases h' with
      | literal hvalue' =>
          obtain ⟨-, -, hname⟩ := Value.piece?_spec hvalue'
          exact absurd (List.head_eq_of_cons_eq heq).symm (hname table)
      | column => exact absurd (List.tail_eq_of_cons_eq heq).symm (hrest'.ne_point _)
      | qualified table' name' =>
          obtain ⟨htable, hrow⟩ := List.cons.inj heq
          obtain ⟨hname, hrow⟩ := List.cons.inj (List.tail_eq_of_cons_eq hrow)
          rw [Piece.name.inj htable, Piece.name.inj hname]
          exact ⟨rfl, hrow⟩
      | unary | binary => exact nomatch heq
  | unary _ _ ih =>
      cases h' with
      | literal => exact absurd (List.tail_eq_of_cons_eq heq).symm (hrest'.ne_opening _)
      | column | qualified | binary => exact nomatch heq
      | unary _ harg' =>
          simp only [List.cons_append, List.append_assoc] at heq
          obtain ⟨hfunction, hrow⟩ := List.cons.inj heq
          obtain ⟨rfl, hends⟩ := ih harg' (hclosing _) (hclosing _) (List.tail_eq_of_cons_eq hrow)
          rw [Piece.word.inj hfunction]
          exact ⟨rfl, List.tail_eq_of_cons_eq hends⟩
  | binary htoken _ _ ihLeft ihRight =>
      cases h' with
      | literal hvalue' =>
          obtain ⟨-, hjoint, -⟩ := Value.piece?_spec hvalue'
          rw [← List.head_eq_of_cons_eq heq] at hjoint
          exact nomatch hjoint
      | column | qualified | unary => exact nomatch heq
      | binary htoken' hleft' hright' =>
          simp only [List.cons_append, List.append_assoc] at heq
          obtain ⟨rfl, hop⟩ :=
            ihLeft hleft' (hoperator _ _) (hoperator _ _) (List.tail_eq_of_cons_eq heq)
          obtain ⟨htokens, hrights⟩ := List.cons.inj hop
          obtain ⟨rfl, hends⟩ := ihRight hright' (hclosing _) (hclosing _) hrights
          obtain rfl := Piece.operator.inj htokens
          have hops := (BinaryOperator.find?_token htoken).symm.trans
            (BinaryOperator.find?_token htoken')
          rw [Option.some.inj hops]
          exact ⟨rfl, List.tail_eq_of_cons_eq hends⟩

/-- An elementary expression that is translated can be put in pieces. -/
theorem Elementary.exists_pieces {d : Driver} {e : Expr} (h : e.Elementary) (hadmits : d.Admits e) :
    ∃ pieces, e.InPieces pieces := by
  induction h with
  | @literal value hvalue =>
      cases value with
      | float | decimal => exact nomatch hvalue
      | null | bool | int | text | bytes | date | time | dateTime | instant =>
          exact ⟨_, .literal rfl⟩
  | column table name =>
      cases table with
      | none => exact ⟨_, .column name⟩
      | some table => exact ⟨_, .qualified table name⟩
  | unary function _ ih =>
      obtain ⟨hfunction, harg⟩ := hadmits
      obtain ⟨pieces, hpieces⟩ := ih harg
      exact ⟨_, .unary hfunction hpieces⟩
  | binary hop _ _ ihLeft ihRight =>
      obtain ⟨-, hleft, hright⟩ := hadmits
      obtain ⟨token, htoken⟩ := Option.isSome_iff_exists.mp hop
      obtain ⟨lefts, hlefts⟩ := ihLeft hleft
      obtain ⟨rights, hrights⟩ := ihRight hright
      exact ⟨_, .binary htoken hlefts hrights⟩

end Expr

/-! ## Writing in pieces -/

/-- A step that writes pieces and binds their values. -/
def TranslateM.Yields (mark : Nat → String) (step : TranslateM String) (pieces : List Piece) :
    Prop :=
  ∀ bound, step.after bound =
    (.ok (String.ofList (spell mark bound.length pieces)), bound ++ values pieces)

section

variable {mark : Nat → String} {step left right : TranslateM String}
  {pieces lefts rights : List Piece}

theorem yields_pure {piece : Piece} (hbound : piece.bound = []) {text : String}
    (htext : ∀ next, piece.text next = text) : Yields mark (pure text) [piece] := by
  intro bound
  rw [after_pure, spell, spell, values, List.flatMap_singleton, hbound, htext, List.append_nil,
    List.append_nil, String.ofList_toList]

theorem TranslateM.Yields.call (h : Yields mark step pieces) {function : String}
    (hfunction : IsPlain function) :
    Yields mark (Driver.writeCall function step)
      (.word function :: .opening :: (pieces ++ [.closing])) := by
  intro bound
  rw [Driver.writeCall, if_pos (isPlainIdentifier_iff.mpr hfunction), Operation.around,
    after_bind_ok (h bound), after_pure]
  simp only [spell, spell_append, values, List.flatMap_cons, List.flatMap_append, List.flatMap_nil,
    Piece.bound, Piece.text, List.nil_append, List.append_nil, List.length_nil, Nat.add_zero,
    String.ofList_append, String.ofList_toList, String.append_assoc]

theorem TranslateM.Yields.binary (hleft : Yields mark left lefts) (hright : Yields mark right rights)
    (token : String) :
    Yields mark (Driver.writeInfix token left right)
      (.opening :: (lefts ++ .operator token :: (rights ++ [.closing]))) := by
  intro bound
  rw [Driver.writeInfix, after_bind_ok (hleft bound), after_bind_ok (hright _), after_pure]
  simp only [spell, spell_append, values, List.flatMap_cons, List.flatMap_append, List.flatMap_nil,
    Piece.bound, Piece.text, List.nil_append, List.append_nil, List.length_nil, Nat.add_zero,
    List.length_append, String.ofList_append, String.ofList_toList, String.append_assoc,
    List.append_assoc]

end

namespace Driver

variable {d : Driver} {mark : Nat → String}

theorem bind_yields (hmark : d.slot "placeholder" (·.placeholder) = .ok mark) (v : Value) :
    Yields mark (d.bind v) [.value v] := by
  intro bound
  rw [after_bind hmark, spell, spell, Piece.text, List.append_nil, String.ofList_toList]
  rfl

theorem writeLiteral_yields (hmark : d.slot "placeholder" (·.placeholder) = .ok mark)
    {value : Value} {piece : Piece} (h : value.piece? = some piece) :
    Yields mark (writeLiteral d.bind value) [piece] := by
  cases value with
  | float | decimal => exact nomatch h
  | null | bool | int =>
      obtain rfl := Option.some.inj h
      exact yields_pure rfl fun _ => rfl
  | text | bytes | date | time | dateTime | instant =>
      obtain rfl := Option.some.inj h
      exact bind_yields hmark _

theorem writeName_eq_pure (hquote : d.slot "quote_identifier" (·.quoteIdentifier) = .ok quoteName)
    (name : String) : d.writeName name = pure (quoteName name) := by
  rw [writeName, hquote, lift_ok]

theorem writeColumn_yields (hquote : d.slot "quote_identifier" (·.quoteIdentifier) = .ok quoteName)
    (table name : String) :
    Yields mark (d.writeColumn none name) [.name name] ∧
      Yields mark (d.writeColumn (some table) name) [.name table, .point, .name name] := by
  have hname := writeName_eq_pure hquote
  refine ⟨?_, fun bound => ?_⟩
  · rw [writeColumn, hname, pure_bind]
    exact yields_pure rfl fun _ => rfl
  · simp only [writeColumn, hname, pure_bind, after_pure, spell, values, List.flatMap_cons,
      List.flatMap_nil, Piece.bound, Piece.text, List.append_nil, String.ofList_append,
      String.ofList_toList, String.append_assoc]

section

variable (hquote : d.slot "quote_identifier" (·.quoteIdentifier) = .ok quoteName)
  (hmark : d.slot "placeholder" (·.placeholder) = .ok mark)

include hquote hmark

/-- An expression is written in its pieces. -/
theorem write_yields (options : TranslateOptions) {e : Expr} {pieces : List Piece}
    (h : e.InPieces pieces) : Yields mark (d.write options d.bind e) pieces := by
  induction h with
  | literal hvalue => exact writeLiteral_yields hmark hvalue
  | column name => exact (writeColumn_yields hquote name name).1
  | qualified table name => exact (writeColumn_yields hquote table name).2
  | unary hfunction _ ih => exact ih.call hfunction
  | @binary op token left right _ _ htoken _ _ ihLeft ihRight =>
      have hregex : op ≠ .regexMatch := by
        rintro rfl
        exact nomatch htoken
      rw [write, writeBinary, if_neg hregex, htoken]
      exact ihLeft.binary ihRight token

theorem compile_pieces {options : TranslateOptions} {e : Expr} {pieces : List Piece}
    (h : e.InPieces pieces) {s : Statement} (hs : e.compile d options = .ok s) :
    spell mark 0 pieces = s.sql.toList ∧ values pieces = s.parameters := by
  obtain ⟨hsql, hparameters⟩ :=
    Prod.mk.inj ((write_yields hquote hmark options h []).symm.trans (statement_eq_ok hs))
  rw [← Except.ok.inj hsql, String.toList_ofList]
  exact ⟨rfl, hparameters⟩

end

end Driver

/-- On a driver of a configured registry, elementary expressions that compile to the same text with
the same parameters are the same, whatever the options. -/
theorem configured_driver_compile_injective {c : Config} {r : Registry} {d : Driver}
    (hr : Registry.ofConfig c = .ok r) (hd : d ∈ r.drivers) {options options' : TranslateOptions}
    {e e' : Expr} (he : e.Elementary) (he' : e'.Elementary) {s : Statement}
    (h : e.compile d options = .ok s) (h' : e'.compile d options' = .ok s) : e = e' := by
  have hframed := Registry.ofConfig_framed hr hd
  obtain ⟨mark, hmark, hform⟩ := Driver.exists_placeholder (Registry.ofConfig_faithful hr d hd)
  obtain ⟨quote, hquote, _, howner, hslot⟩ := hframed.slot .quoteIdentifier
  rw [howner.dialect.quoteIdentifier quote hslot] at hquote
  have hpieces : ∀ {options : TranslateOptions} {e : Expr}, e.Elementary →
      e.compile d options = .ok s → ∃ pieces, e.InPieces pieces ∧
        spell mark 0 pieces = s.sql.toList ∧ values pieces = s.parameters := by
    intro options e he hs
    have hadmits := ((hframed.translatesAdmissible options).succeeds [] e).mp
      ⟨s.sql, congrArg Prod.fst (Driver.statement_eq_ok hs)⟩
    obtain ⟨pieces, hpieces⟩ := he.exists_pieces hadmits
    exact ⟨pieces, hpieces, Driver.compile_pieces hquote hmark hpieces hs⟩
  obtain ⟨pieces, hin, htext, hvalues⟩ := hpieces he h
  obtain ⟨pieces', hin', htext', hvalues'⟩ := hpieces he' h'
  have hsame : pieces = pieces' := spell_injective hform hin.wellSet hin'.wellSet
    (hvalues.trans hvalues'.symm) (htext.trans htext'.symm)
  have hend : Expr.Follows [] := ⟨nofun, nofun⟩
  exact (hin.append_inj hin' hend hend (congrArg (· ++ []) hsame)).1

/-- Names that look like code, a function named like a keyword, and one integer in two spellings. -/
theorem postgres_compile_injective :
    let d : Driver := ⟨Postgres.descriptor, [Ansi.descriptor]⟩
    let difference (n : Int64) : Expr :=
      .binary .minus (.unary "NULL" (.column (some "a\".\"b") "($1"))
        (.binary .minus (.int n) (.literal (.text "x")))
    let e := difference (-5)
    let e' := difference (Int64.ofNat 18446744073709551611)
    let s : Statement :=
      { sql := "(NULL(\"a\"\".\"\"b\".\"($1\") - (-5 - $1))", parameters := [.text "x"] }
    Registry.ofConfig {} = .ok Registry.builtin ∧ d ∈ Registry.builtin.drivers ∧ e.Elementary ∧
      e'.Elementary ∧ e.compile d {} = .ok s ∧ e'.compile d ⟨.sunday⟩ = .ok s ∧ e = e' := by
  intro d difference e e' s
  have hr : Registry.ofConfig {} = .ok Registry.builtin := rfl
  have hd : d ∈ Registry.builtin.drivers := by simp [Registry.builtin, Registry.drivers, d]
  have helementary : ∀ n, (difference n).Elementary := fun n =>
    .binary rfl (.unary _ (.column _ _)) (.binary rfl (.literal rfl) (.literal rfl))
  have hs : e.compile d {} = .ok s := by decide +kernel
  have hs' : e'.compile d ⟨.sunday⟩ = .ok s := by decide +kernel
  exact ⟨hr, hd, helementary _, helementary _, hs, hs',
    configured_driver_compile_injective hr hd (helementary _) (helementary _) hs hs'⟩

end Sluice
