import Sluice.Postgres.Target
import Sluice.Text.Blank

/-!
# Servers as a client sees them

A server greets, may ask for a password, prepares statements and runs them. What it remembers
between these is its own affair.
-/

namespace Sluice.Postgres

structure ServerError where
  code : String
  message : String
  detail : Option String := none
  hint : Option String := none
deriving DecidableEq, Inhabited

namespace ServerError

/-- A remark in parentheses, unless it is blank. -/
def remark (label : String) : Option String → String
  | none => ""
  | some text => if Text.isBlankText text then "" else " (" ++ label ++ ": " ++ text ++ ")"

/-- The error in words: message, detail and hint, introduced by the kind of error where users know
it by name, else followed by its code. -/
def explain (e : ServerError) : String :=
  let message := e.message ++ remark "detail" e.detail ++ remark "hint" e.hint
  match e.code with
  | "25006" => "read-only transaction: " ++ message
  | "22007" => "invalid datetime format: " ++ message
  | "22P02" => "invalid input syntax: " ++ message
  | code => message ++ " (code: " ++ code ++ ")"

end ServerError

/-- The first answer to a client. -/
inductive Greeting where
  | welcome
  | askPassword
  | refuse (e : ServerError)

/-- What a server says about a statement it has prepared. -/
structure Prepared where
  /-- The types of the parameter slots. -/
  slots : List String
  /-- Names and types of the columns. -/
  columns : List (String × String)

/-- A value in binary; null has no bytes. -/
abbrev Cell := Option (List UInt8)

/-- What a server answers to a statement that it ran. -/
structure Reply where
  rows : List (List Cell)
  /-- What was done, ending with the number of rows concerned. -/
  tag : String

/-- The number at the end of the tag, else zero. -/
def Reply.affected (r : Reply) : UInt64 :=
  let last := ((Text.splitChar ' ' r.tag.toList).getLast?).getD []
  UInt64.ofNat ((Target.unsigned? UInt64.size (String.ofList last)).getD 0)

/-- A server; `σ` is what it remembers. -/
structure Server (σ : Type) where
  greet : List (String × String) → σ → Greeting × σ
  /-- Check a password; an error is a refusal. -/
  login : List UInt8 → σ → Except ServerError Unit × σ
  prepare : String → σ → Except ServerError Prepared × σ
  /-- Run the statement that was prepared last. -/
  run : List Cell → σ → Except ServerError Reply × σ

/-- A server and the doors at which it answers. -/
structure Network (σ : Type) where
  server : Server σ
  /-- What the server remembers before anybody connects. -/
  initial : σ
  answersAt : Target.Door → Bool
  /-- The user that a client stands for if its target names none. -/
  account : String := "root"

def offline : Network Unit where
  server := {
    greet := fun _ s => (.welcome, s)
    login := fun _ s => (.ok (), s)
    prepare := fun _ s => (.ok ⟨[], []⟩, s)
    run := fun _ s => (.ok ⟨[], ""⟩, s) }
  initial := ()
  answersAt := fun _ => false

end Sluice.Postgres
