import Sluice.Json

/-!
# Records in documents

A record is written as an object, one field for each part. Read, the fields may come in any
order, fields of other names are ignored, and a repeated field is an error. A record may also be
given as an array of its parts in their declared order. A tagged record names its alternative in
one more field, or as the first element.
-/

namespace Sluice.Json

/-- The parts of a record by name; none for a repeated part or too many of them. -/
def record? (names : List String) : Json → Option (List (String × Json))
  | obj fields =>
    let known := fields.filter fun (k, _) => names.contains k
    if (known.map (·.1)).Nodup then some known else none
  | arr items => if items.length ≤ names.length then some (names.zip items) else none
  | _ => none

/-- The alternative of a tagged record and the record without its tag. -/
def tagged? (tag : String) : Json → Option (String × Json)
  | obj fields =>
    match fields.filter fun (k, _) => k == tag with
    | [(_, str name)] => some (name, obj (fields.filter fun (k, _) => k != tag))
    | _ => none
  | arr (str name :: rest) => some (name, arr rest)
  | _ => none

/-- A name standing alone, or as the only key of an object that gives it no content. -/
def bareName? : Json → Option String
  | str name => some name
  | obj [(name, null)] => some name
  | _ => none

def required? (parts : List (String × Json)) (name : String) (read : Json → Option α) : Option α :=
  (parts.lookup name).bind read

def defaulted? (parts : List (String × Json)) (name : String) (default : α)
    (read : Json → Option α) : Option α :=
  match parts.lookup name with
  | some j => read j
  | none => some default

mutual

/-- How deep a document is nested. -/
def depth : Json → Nat
  | arr items => depthItems items + 1
  | obj fields => depthFields fields + 1
  | _ => 0

def depthItems : List Json → Nat
  | [] => 0
  | j :: rest => max (depth j) (depthItems rest)

def depthFields : List (String × Json) → Nat
  | [] => 0
  | (_, j) :: rest => max (depth j) (depthFields rest)

end

end Sluice.Json
