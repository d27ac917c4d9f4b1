import Sluice.Calendar.Text
import Sluice.Int64
import Sluice.Toml

/-!
# Reading configuration documents

A reader takes what it recognises off the front of a text. Values nest, so their readers recurse
with a bound that the length of the text always suffices for.
-/

namespace Sluice.Toml

abbrev Reader (α : Type) := List Char → Option (α × List Char)

/-! ## Blanks and comments -/

def skipSpaces (cs : List Char) : List Char := cs.dropWhile fun c => c = ' ' || c = '\t'

/-- A character that may stand in a comment or a literal text. -/
def isPrintable (c : Char) : Bool := c = '\t' || (0x20 ≤ c.toNat && c.toNat ≠ 0x7F)

/-- Drop a comment, if there is one. -/
def skipComment : List Char → List Char
  | '#' :: rest => rest.dropWhile isPrintable
  | cs => cs

def lineEnd : Reader Unit
  | '\n' :: rest => some ((), rest)
  | '\r' :: '\n' :: rest => some ((), rest)
  | _ => none

/-- The rest of a line: blanks, a comment and the end of the line or text. -/
def restOfLine (cs : List Char) : Option (List Char) :=
  match skipComment (skipSpaces cs) with
  | [] => some []
  | cs => (lineEnd cs).map (·.2)

/-- Drop blanks, comments and ends of lines, at most `fuel` lines. -/
def skipLines : (fuel : Nat) → List Char → List Char
  | 0, cs => cs
  | fuel + 1, cs =>
    let here := skipComment (skipSpaces cs)
    match lineEnd here with
    | some (_, rest) => skipLines fuel rest
    | none => here

/-! ## Texts -/

def hexNumber (digits : List Char) : Option Nat :=
  digits.foldlM (fun n c =>
    if c.isDigit then some (n * 16 + (c.toNat - 48))
    else if 'a' ≤ c && c ≤ 'f' then some (n * 16 + (c.toNat - 87))
    else if 'A' ≤ c && c ≤ 'F' then some (n * 16 + (c.toNat - 55))
    else none) 0

def scalar (count : Nat) : Reader Char := fun cs => do
  if cs.length < count then failure
  let n ← hexNumber (cs.take count)
  if n.isValidChar then return (Char.ofNat n, cs.drop count) else failure

def escape : Reader Char
  | 'b' :: rest => some ('\x08', rest)
  | 't' :: rest => some ('\t', rest)
  | 'n' :: rest => some ('\n', rest)
  | 'f' :: rest => some ('\x0c', rest)
  | 'r' :: rest => some ('\r', rest)
  | '"' :: rest => some ('"', rest)
  | '\\' :: rest => some ('\\', rest)
  | 'u' :: rest => scalar 4 rest
  | 'U' :: rest => scalar 8 rest
  | _ => none

/-- The rest of a text in double quotes. -/
def basicText : (fuel : Nat) → Reader (List Char)
  | 0, _ => none
  | fuel + 1, cs =>
    match cs with
    | '"' :: rest => some ([], rest)
    | '\\' :: rest => do
      let (c, rest) ← escape rest
      let (s, rest) ← basicText fuel rest
      return (c :: s, rest)
    | c :: rest =>
      if isPrintable c then do
        let (s, rest) ← basicText fuel rest
        return (c :: s, rest)
      else none
    | [] => none

/-- The rest of a text in single quotes. -/
def literalText : Reader (List Char)
  | '\'' :: rest => some ([], rest)
  | c :: rest =>
    if isPrintable c then (literalText rest).map fun (s, rest) => (c :: s, rest) else none
  | [] => none

/-- Drop blanks and ends of lines after a backslash at the end of a line. -/
def skipContinuation (cs : List Char) : Option (List Char) :=
  match lineEnd (skipSpaces cs) with
  | some (_, rest) => some (rest.dropWhile fun c => c = ' ' || c = '\t' || c = '\n' || c = '\r')
  | none => none

/-- The rest of a text of several lines, closed by three of `mark`; up to two more marks before
the closing ones belong to the text. -/
def longText (mark : Char) (escapes : Bool) : (fuel : Nat) → Reader (List Char)
  | 0, _ => none
  | fuel + 1, cs =>
    let marks := cs.takeWhile (· = mark)
    if 3 ≤ marks.length then
      if marks.length ≤ 5 then some (marks.drop 3, cs.drop marks.length) else none
    else
      match cs with
      | [] => none
      | '\r' :: '\n' :: rest => do
        let (s, rest) ← longText mark escapes fuel rest
        return ('\n' :: s, rest)
      | c :: rest =>
        if escapes && c = '\\' then
          match skipContinuation rest with
          | some rest => longText mark escapes fuel rest
          | none => do
            let (d, rest) ← escape rest
            let (s, rest) ← longText mark escapes fuel rest
            return (d :: s, rest)
        else if isPrintable c || c = '\n' then do
          let (s, rest) ← longText mark escapes fuel rest
          return (c :: s, rest)
        else none

/-- A line end right after the opening marks is not part of a text. -/
def dropFirstLineEnd (cs : List Char) : List Char :=
  match lineEnd cs with
  | some (_, rest) => rest
  | none => cs

/-- A text in any of its four forms. -/
def text : Reader String := fun cs =>
  let result := match cs with
    | '"' :: '"' :: '"' :: rest => longText '"' true (rest.length + 1) (dropFirstLineEnd rest)
    | '\'' :: '\'' :: '\'' :: rest =>
      longText '\'' false (rest.length + 1) (dropFirstLineEnd rest)
    | '"' :: rest => basicText (rest.length + 1) rest
    | '\'' :: rest => literalText rest
    | _ => none
  result.map fun (s, rest) => (String.ofList s, rest)

/-! ## Keys -/

def isKeyChar (c : Char) : Bool := c.isAlphanum || c = '_' || c = '-'

def simpleKey : Reader String := fun cs =>
  match cs with
  | '"' :: rest =>
    (basicText (rest.length + 1) rest).map fun (s, rest) => (String.ofList s, rest)
  | '\'' :: rest => (literalText rest).map fun (s, rest) => (String.ofList s, rest)
  | cs =>
    let key := cs.takeWhile isKeyChar
    if key.isEmpty then none else some (String.ofList key, cs.drop key.length)

/-- A key: parts with points between them, the last apart from those before it. -/
def dottedKey : (fuel : Nat) → Reader (List String × String)
  | 0, _ => none
  | fuel + 1, cs => do
    let (key, rest) ← simpleKey (skipSpaces cs)
    match skipSpaces rest with
    | '.' :: rest =>
      let ((path, last), rest) ← dottedKey fuel rest
      return ((key :: path, last), rest)
    | _ => return (([], key), rest)

/-! ## Numbers and moments -/

def digitGroups (isDigit : Char → Bool) (cs : List Char) : Option (List Char) :=
  match cs with
  | [] => none
  | c :: rest =>
    if !isDigit c then none
    else
      match rest with
      | [] => some [c]
      | '_' :: rest => (digitGroups isDigit rest).map (c :: ·)
      | rest => (digitGroups isDigit rest).map (c :: ·)

/-- An integer in some base, without a sign. -/
def baseNumber (base : Nat) (isDigit : Char → Bool) (cs : List Char) : Option Toml := do
  let digits ← digitGroups isDigit cs
  let n ← digits.foldlM (fun n c => (hexNumber [c]).map fun d => n * base + d) 0
  if fitsInt64 n then return .int n else failure

/-- Decimal digits without a superfluous leading zero. -/
def decimalDigits (cs : List Char) : Option (List Char) := do
  let digits ← digitGroups Char.isDigit cs
  if digits.head? = some '0' && digits.length ≠ 1 then failure else return digits

def decimalValue (digits : List Char) : Nat :=
  digits.foldl (fun n c => n * 10 + (c.toNat - 48)) 0

def decimalNumber (negative : Bool) (cs : List Char) : Option Toml := do
  let whole := cs.takeWhile fun c => c.isDigit || c = '_'
  let rest := cs.drop whole.length
  let whole ← decimalDigits whole
  match rest with
  | [] =>
    let n : Int := if negative then -(decimalValue whole : Int) else decimalValue whole
    if fitsInt64 n then return .int n else failure
  | rest =>
    let (fraction, rest) ← match rest with
      | '.' :: rest =>
        let part := rest.takeWhile fun c => c.isDigit || c = '_'
        (digitGroups Char.isDigit part).map fun digits => (digits, rest.drop part.length)
      | rest => some ([], rest)
    let exponent : Int ← match rest with
      | [] => some 0
      | e :: rest =>
        if e ≠ 'e' && e ≠ 'E' then none
        else
          match rest with
          | '-' :: rest => (digitGroups Char.isDigit rest).map fun d => -(decimalValue d : Int)
          | '+' :: rest => (digitGroups Char.isDigit rest).map fun d => (decimalValue d : Int)
          | rest => (digitGroups Char.isDigit rest).map fun d => (decimalValue d : Int)
    let digits := decimalValue (whole ++ fraction)
    return .float (.ofDecimal negative digits (exponent - fraction.length))

/-- A number, given all its characters. -/
def number (cs : List Char) : Option Toml :=
  match cs with
  | '0' :: 'x' :: rest => baseNumber 16 (fun c => (hexNumber [c]).isSome) rest
  | '0' :: 'o' :: rest => baseNumber 8 (fun c => '0' ≤ c && c ≤ '7') rest
  | '0' :: 'b' :: rest => baseNumber 2 (fun c => c = '0' || c = '1') rest
  | _ =>
    let (negative, rest) := match cs with
      | '-' :: rest => (true, rest)
      | '+' :: rest => (false, rest)
      | cs => (false, cs)
    match rest with
    | ['i', 'n', 'f'] => some (.float (.infinity negative))
    | ['n', 'a', 'n'] => some (.float .nan)
    | rest => decimalNumber negative rest

def twoDigits : Reader Nat
  | a :: b :: rest =>
    if a.isDigit && b.isDigit then some ((a.toNat - 48) * 10 + (b.toNat - 48), rest) else none
  | _ => none

def fullDate : Reader Unit := fun cs => do
  let (century, cs) ← twoDigits cs
  let (y, cs) ← twoDigits cs
  let (_, cs) ← Calendar.char '-' cs
  let (m, cs) ← twoDigits cs
  let (_, cs) ← Calendar.char '-' cs
  let (d, cs) ← twoDigits cs
  let _ ← Date.ofCivil? (century * 100 + y : Nat) m d
  return ((), cs)

/-- A time of day with seconds. -/
def clock : Reader Unit := fun cs => do
  let (h, cs) ← twoDigits cs
  let (_, cs) ← Calendar.char ':' cs
  let (m, cs) ← twoDigits cs
  let (_, cs) ← Calendar.char ':' cs
  let (s, cs) ← twoDigits cs
  let (_, cs) ← Calendar.fraction cs
  let _ ← TimeOfDay.ofParts? h m s 0
  return ((), cs)

def zone (cs : List Char) : Option (List Char) :=
  match cs with
  | [] => some []
  | c :: rest =>
    if c = 'Z' || c = 'z' then some rest
    else if c = '+' || c = '-' then do
      let (h, rest) ← twoDigits rest
      let (_, rest) ← Calendar.char ':' rest
      let (m, rest) ← twoDigits rest
      if h ≤ 24 && m ≤ 59 then return rest else failure
    else none

/-- Whether all the characters are a date, a time or both. -/
def isMoment (cs : List Char) : Bool :=
  match fullDate cs with
  | some (_, []) => true
  | some (_, c :: rest) =>
    (c = 'T' || c = 't' || c = ' ') &&
      match clock rest with
      | some (_, rest) => zone rest == some []
      | none => false
  | none => (clock cs).any (·.2.isEmpty)

def isBareChar (c : Char) : Bool :=
  c.isAlphanum || c = '_' || c = '-' || c = '+' || c = '.' || c = ':'

/-- A truth value, number or moment. A space may separate date and time. -/
def bareValue : Reader Toml := fun cs =>
  let bare := cs.takeWhile isBareChar
  let rest := cs.drop bare.length
  match bare with
  | ['t', 'r', 'u', 'e'] => some (.bool true, rest)
  | ['f', 'a', 'l', 's', 'e'] => some (.bool false, rest)
  | _ =>
    match fullDate bare, rest with
    | some (_, []), ' ' :: d :: after =>
      let time := (d :: after).takeWhile isBareChar
      if d.isDigit then
        let whole := bare ++ ' ' :: time
        if isMoment whole then some (.moment (String.ofList whole), (d :: after).drop time.length)
        else none
      else some (.moment (String.ofList bare), rest)
    | _, _ =>
      if isMoment bare then some (.moment (String.ofList bare), rest)
      else (number bare).map fun v => (v, rest)

/-! ## Values -/

mutual

def readValue : (fuel : Nat) → Reader Toml
  | 0, _ => none
  | fuel + 1, cs =>
    match cs with
    | '"' :: _ => (text cs).map fun (s, rest) => (.str s, rest)
    | '\'' :: _ => (text cs).map fun (s, rest) => (.str s, rest)
    | '[' :: rest => (readItems fuel rest).map fun (items, rest) => (.arr items, rest)
    | '\x7b' :: rest =>
      match skipSpaces rest with
      | '\x7d' :: rest => some (.table [], rest)
      | rest => (readEntries fuel [] rest).map fun (es, rest) => (.table (finishEntries es), rest)
    | cs => bareValue cs

/-- The rest of an array; a comma may follow the last element. -/
def readItems : (fuel : Nat) → Reader (List Toml)
  | 0, _ => none
  | fuel + 1, cs =>
    match skipLines (cs.length + 1) cs with
    | ']' :: rest => some ([], rest)
    | cs => do
      let (v, rest) ← readValue fuel cs
      match skipLines (rest.length + 1) rest with
      | ',' :: rest =>
        let (items, rest) ← readItems fuel rest
        return (v :: items, rest)
      | ']' :: rest => return ([v], rest)
      | _ => failure

/-- The rest of an inline table. -/
def readEntries : (fuel : Nat) → Entries → Reader Entries
  | 0, _, _ => none
  | fuel + 1, entries, cs => do
    let ((path, key), rest) ← dottedKey (cs.length + 1) cs
    match skipSpaces rest with
    | '=' :: rest =>
      let (v, rest) ← readValue fuel (skipSpaces rest)
      let entries ← setKey path key v entries
      match skipSpaces rest with
      | ',' :: rest => readEntries fuel entries rest
      | '\x7d' :: rest => return (entries, rest)
      | _ => failure
    | _ => failure

end

/-! ## Documents -/

/-- What has been read of a document: all entries, and the table that keys now go to. -/
structure Building where
  root : Entries := []
  path : List String := []

def Building.set (b : Building) (path : List String) (key : String) (v : Toml) :
    Option Building := do
  let root ← descend false (fun _ entries => setKey path key v entries) b.path false b.root
  return { b with root }

/-- One header or key with its value, up to the end of its line. -/
def readLine (b : Building) (cs : List Char) : Option (Building × List Char) :=
  match cs with
  | '[' :: '[' :: rest => do
    let ((path, key), rest) ← dottedKey (rest.length + 1) rest
    match skipSpaces rest with
    | ']' :: ']' :: rest =>
      let root ← addTable path key b.root
      let rest ← restOfLine rest
      return (⟨root, path ++ [key]⟩, rest)
    | _ => failure
  | '[' :: rest => do
    let ((path, key), rest) ← dottedKey (rest.length + 1) rest
    match skipSpaces rest with
    | ']' :: rest =>
      let root ← openTable path key b.root
      let rest ← restOfLine rest
      return (⟨root, path ++ [key]⟩, rest)
    | _ => failure
  | cs => do
    let ((path, key), rest) ← dottedKey (cs.length + 1) cs
    match skipSpaces rest with
    | '=' :: rest =>
      let rest := skipSpaces rest
      let (v, rest) ← readValue (rest.length + 1) rest
      let b ← b.set path key v
      let rest ← restOfLine rest
      return (b, rest)
    | _ => failure

/-- All lines, at most `fuel` that are not blank. -/
def readLines : (fuel : Nat) → Building → List Char → Option Entries
  | 0, _, _ => none
  | fuel + 1, b, cs =>
    match skipLines (cs.length + 1) cs with
    | [] => some b.root
    | cs => do
      let (b, rest) ← readLine b cs
      readLines fuel b rest

/-- Read a document; a byte order mark may stand at its start. -/
def parse? (s : String) : Option (List (String × Toml)) :=
  let cs := match s.toList with
    | '\ufeff' :: rest => rest
    | cs => cs
  (readLines (cs.length + 1) {} cs).map finishEntries

end Sluice.Toml
