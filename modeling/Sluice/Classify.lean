import Sluice.Scan

/-!
# Classification of statements

A native query is cut into statements and each is put into a category. A parser is asked, at the
start of every statement, what the statement is and how many bytes it takes; it may answer
anything. Where it recognises nothing, the leading keyword still tells a schema mutation.
-/

namespace Sluice

open Text Scan

inductive StatementKind where
  /-- Schema mutation. -/
  | ddl
  /-- Data mutation. -/
  | dml
  /-- Read-only query. -/
  | dql
  /-- Nobody could tell. -/
  | unparseable
deriving DecidableEq, Inhabited

namespace StatementKind

def name : StatementKind → String
  | ddl => "DDL" | dml => "DML" | dql => "DQL" | unparseable => "Unparseable"

/-- First words of schema mutations. `RUNSCRIPT` executes a file that may hold any of them. -/
def ddlHeads : List String :=
  ["CREATE", "ALTER", "DROP", "TRUNCATE", "RENAME", "COMMENT", "GRANT", "REVOKE", "RUNSCRIPT"]

/-- First words of read-only classes. -/
def dqlHeads : List String := ["QUERY", "SELECT", "WITH", "VALUES", "SHOW", "EXPLAIN"]

/-- The category of a statement class, by its first word. -/
def ofClass (className : String) : StatementKind :=
  let head := upperAscii (String.ofList ((words className.toList).headD []))
  if ddlHeads.contains head then ddl
  else if dqlHeads.contains head then dql
  else dml

end StatementKind

/-- What a parser says about the statement at the start of a text. -/
inductive ParseOutcome where
  | parsed (className : String) (consumed : Nat)
  | failed (consumed : Nat)
deriving DecidableEq, Inhabited

/-- The number of bytes that a parser claims for the statement. -/
def ParseOutcome.consumed : ParseOutcome → Nat
  | parsed _ n => n
  | failed n => n

/-- A parser of statements. Its calls are numbered, because it need not answer alike twice. -/
structure StatementParser where
  name : String
  parse : (call : Nat) → List Char → ParseOutcome

/-- A classified statement: the bytes from `start` up to `stop`. -/
structure Classification where
  kind : StatementKind
  className : String
  start : Nat
  stop : Nat
deriving DecidableEq, Inhabited

namespace Classification

/-- Heads whose second word belongs to the class. -/
def takesObject (head : String) : Bool := head == "CREATE" || head == "ALTER" || head == "DROP"

/-- The first word, and for some heads the second too. -/
def classOfWords : List String → Option String
  | [] => none
  | [head] => some head
  | head :: object :: _ => some (if takesObject head then head ++ " " ++ object else head)

/-- The class of a text that starts with the keyword of a schema mutation. -/
def keywordClass? (text : List Char) : Option String :=
  let ws := (runs isWordChar text).map fun w => upperAscii (String.ofList w)
  match ws with
  | head :: _ => if StatementKind.ddlHeads.contains head then classOfWords ws else none
  | [] => none

/-- Kind and class of a statement, given the parser's answer and the statement's text. -/
def judge (outcome : ParseOutcome) (unit : List Char) : StatementKind × String :=
  match outcome with
  | .parsed className _ => (.ofClass className, className)
  | .failed _ =>
    match keywordClass? unit with
    | some className => (.ddl, className)
    | none => (.unparseable, "Unparseable")

end Classification

namespace StatementParser

/-- A parser that takes statements as the scanner cuts them and recognises each one by its text
without trailing semicolons. -/
def ofRecognizer (name : String) (recognize : List Char → Option String) : StatementParser where
  name
  parse _ text :=
    let consumed := statementEnd text
    let unit := (sliceTo? consumed text).getD text
    match recognize (unit.reverse.dropWhile (· = ';')).reverse with
    | some className => .parsed className consumed
    | none => .failed consumed

end StatementParser

/-! ## The loop over a query -/

/-- Classify what is left of a query from byte `offset` on, asking `parse` once for every statement.
A parser is free to keep a state between its answers. There is no result if the query would have to
be cut inside a character. -/
def classifyFrom {σ : Type} (parse : List Char → StateM σ ParseOutcome) (sql : List Char)
    (offset : Nat) : StateM σ (Option (List Classification)) :=
  match sliceFrom? offset sql with
  | none => return none
  | some text =>
    let start := offset + triviaLength text
    if _inside : start < byteLength sql then
      match sliceFrom? start sql with
      | none => return none
      | some rest => do
        let outcome ← parse rest
        let stuck := some [⟨.unparseable, "Unparseable", start, byteLength sql⟩]
        if _progress : 0 < outcome.consumed then
          match sliceTo? outcome.consumed rest with
          | none => return stuck
          | some unit =>
            let (kind, className) := Classification.judge outcome unit
            let stop := start + outcome.consumed
            let later ← classifyFrom parse sql stop
            return later.map (⟨kind, className, start, stop⟩ :: ·)
        else return stuck
    else return some []
termination_by byteLength sql - offset

/-- Classify every statement of a query with a parser that is in state `s`. -/
def classifyWith {σ : Type} (parse : List Char → StateM σ ParseOutcome) (sql : String) (s : σ) :
    List Classification :=
  (classifyFrom parse sql.toList 0 s).1.getD []

namespace StatementParser

/-- The next answer of a parser, given the number of the call. -/
def ask (parser : StatementParser) (text : List Char) : StateM Nat ParseOutcome :=
  fun call => (parser.parse call text, call + 1)

/-- Classify every statement of a query; the parser's calls are numbered from `call` on. -/
def classify (parser : StatementParser) (sql : String) (call : Nat := 0) : List Classification :=
  classifyWith parser.ask sql call

end StatementParser

/-- Whether any statement mutates the schema. -/
def Classification.hasDdl (cs : List Classification) : Bool := cs.any (·.kind == .ddl)

end Sluice
