import Sluice.Text.Alphabetic
import Sluice.Text.Blank
import Sluice.Text.Upper

/-!
# Search patterns

Regular expressions for recognising messages: literals, classes, groups, alternatives,
repetitions, anchors and the flags `i` and `s`. A pattern is searched for anywhere in a text.
-/

namespace Sluice

open Text

inductive Pattern where
  | empty
  /-- One character that satisfies a test. -/
  | one (test : Char → Bool)
  | both (first second : Pattern)
  | either (first second : Pattern)
  /-- At least `min` and at most `max` times. -/
  | times (p : Pattern) (min : Nat) (max : Option Nat)
  /-- The start of the text. -/
  | textStart
  /-- The end of the text. -/
  | textEnd
  /-- Between a word character and another, or not so. -/
  | wordEdge (wanted : Bool)

namespace Pattern

/-! ## Matching -/

/-- A position in a text: the character before it and what follows. -/
structure Position where
  before : Option Char
  rest : List Char

/-- Word characters: letters, digits and the underscore. -/
def isWord (c : Char) : Bool := isAlphabetic c || c.isDigit || c = '_'

/-- Positions after further rounds of `next`; `fuel` bounds the rounds, `min` of them are still
required, and `max` bounds them too. -/
def rounds (next : Position → List Position) :
    (fuel min : Nat) → (max : Option Nat) → Position → List Position
  | 0, min, _, p => if min = 0 then [p] else []
  | fuel + 1, min, max, p =>
    let here := if min = 0 then [p] else []
    if max = some 0 then here
    else here ++ (next p).flatMap fun q =>
      if q.rest.length = p.rest.length then (if min ≤ 1 then [q] else rounds next fuel (min - 1)
        (max.map (· - 1)) q)
      else rounds next fuel (min - 1) (max.map (· - 1)) q

/-- The positions at which a match that starts here may end. -/
def ends : Pattern → Position → List Position
  | empty, p => [p]
  | one test, p =>
    match p.rest with
    | c :: rest => if test c then [⟨some c, rest⟩] else []
    | [] => []
  | both a b, p => (ends a p).flatMap (ends b)
  | either a b, p => ends a p ++ ends b p
  | times a min max, p => rounds (ends a) (p.rest.length + min + 1) min max p
  | textStart, p => if p.before.isNone then [p] else []
  | textEnd, p => if p.rest.isEmpty then [p] else []
  | wordEdge wanted, p =>
    let left := (p.before.map isWord).getD false
    let right := (p.rest.head?.map isWord).getD false
    if (left != right) = wanted then [p] else []

/-- Whether the pattern matches at this position or a later one. -/
def searchFrom (a : Pattern) (before : Option Char) : List Char → Bool
  | [] => !(ends a ⟨before, []⟩).isEmpty
  | c :: rest => !(ends a ⟨before, c :: rest⟩).isEmpty || searchFrom a (some c) rest

def occursIn (a : Pattern) (s : String) : Bool := searchFrom a none s.toList

/-! ## Building -/

def caseForms (c : Char) : List Char := c :: c.toLower :: upperChar c

/-- One character, whatever its case. -/
def anyCase (c : Char) : Pattern :=
  one fun d => (caseForms d).any fun x => (caseForms c).contains x

def literal (s : String) : Pattern := s.toList.foldr (fun c p => both (one (· = c)) p) empty

/-- A text in any case. -/
def literalAnyCase (s : String) : Pattern := s.toList.foldr (fun c p => both (anyCase c) p) empty

/-- Any number of characters other than one. -/
def without (c : Char) : Pattern := times (one (· ≠ c)) 0 none

/-! ## Reading -/

/-- Flags in force: ignore case, and let the dot match newlines. -/
structure Flags where
  ignoreCase : Bool := false
  dotAll : Bool := false

def Flags.test (flags : Flags) (test : Char → Bool) : Char → Bool :=
  if flags.ignoreCase then fun c => (caseForms c).any test else test

def Flags.literal (flags : Flags) (c : Char) : Pattern :=
  if flags.ignoreCase then anyCase c else one (· = c)

/-- The class that a backslash and a letter stand for. -/
def classTest? : Char → Option (Char → Bool)
  | 'd' => some Char.isDigit
  | 'D' => some (! ·.isDigit)
  | 'w' => some isWord
  | 'W' => some (! isWord ·)
  | 's' => some isBlank
  | 'S' => some (! isBlank ·)
  | _ => none

/-- The character that a backslash and a character stand for. -/
def escapedChar? (c : Char) : Option Char :=
  match c with
  | 'n' => some '\n' | 't' => some '\t' | 'r' => some '\r' | 'f' => some '\x0c'
  | 'v' => some '\x0b' | 'a' => some '\x07'
  | c => if c.toNat < 0x80 && !c.isAlphanum && !isBlank c then some c else none

/-- The members of a class up to its closing bracket, as tests. -/
def readClass : (fuel : Nat) → (first : Bool) → List Char →
    Option (List (Char → Bool) × List Char)
  | 0, _, _ => none
  | fuel + 1, first, cs => do
    let range (low : Char) (cs : List Char) : Option ((Char → Bool) × List Char) :=
      match cs with
      | '-' :: ']' :: _ => some ((· = low), cs)
      | '-' :: '\\' :: high :: rest => do
        let high ← escapedChar? high
        if low ≤ high then some (fun c => low ≤ c && c ≤ high, rest) else none
      | '-' :: high :: rest =>
        if low ≤ high then some (fun c => low ≤ c && c ≤ high, rest) else none
      | cs => some ((· = low), cs)
    match cs with
    | [] => none
    | ']' :: rest =>
      if first then do
        let (test, rest) ← range ']' rest
        let (tests, rest) ← readClass fuel false rest
        return (test :: tests, rest)
      else some ([], rest)
    | '\\' :: c :: rest =>
      match classTest? c with
      | some test => do
        let (tests, rest) ← readClass fuel false rest
        return (test :: tests, rest)
      | none => do
        let c ← escapedChar? c
        let (test, rest) ← range c rest
        let (tests, rest) ← readClass fuel false rest
        return (test :: tests, rest)
    | c :: rest => do
      let (test, rest) ← range c rest
      let (tests, rest) ← readClass fuel false rest
      return (test :: tests, rest)

def readCount (cs : List Char) : Option (Nat × List Char) :=
  let digits := cs.takeWhile Char.isDigit
  if digits.isEmpty || 6 < digits.length then none
  else some (digits.foldl (fun n c => n * 10 + (c.toNat - 48)) 0, cs.drop digits.length)

/-- The bounds of a counted repetition after its opening brace. -/
def readBounds (cs : List Char) : Option ((Nat × Option Nat) × List Char) := do
  let (min, cs) ← readCount cs
  match cs with
  | '\x7d' :: rest => return ((min, some min), rest)
  | ',' :: '\x7d' :: rest => return ((min, none), rest)
  | ',' :: rest =>
    let (max, rest) ← readCount rest
    match rest with
    | '\x7d' :: rest => if min ≤ max then return ((min, some max), rest) else failure
    | _ => failure
  | _ => failure

/-- A lazy mark changes which match is preferred, not whether there is one. -/
def skipLazy : List Char → List Char
  | '?' :: rest => rest
  | cs => cs

def readRepeats : (fuel : Nat) → Pattern → List Char → Option (Pattern × List Char)
  | 0, _, _ => none
  | fuel + 1, p, cs =>
    match cs with
    | '*' :: rest => readRepeats fuel (times p 0 none) (skipLazy rest)
    | '+' :: rest => readRepeats fuel (times p 1 none) (skipLazy rest)
    | '?' :: rest => readRepeats fuel (times p 0 (some 1)) (skipLazy rest)
    | '\x7b' :: rest => do
      let ((min, max), rest) ← readBounds rest
      readRepeats fuel (times p min max) (skipLazy rest)
    | cs => some (p, cs)

/-- The flags of a group up to the character that ends them; `on` until a minus sign. -/
def readFlags (flags : Flags) (on : Bool) : List Char → Option (Flags × Char × List Char)
  | 'i' :: rest => readFlags { flags with ignoreCase := on } on rest
  | 's' :: rest => readFlags { flags with dotAll := on } on rest
  | 'u' :: rest => readFlags flags on rest
  | '-' :: rest => if on then readFlags flags false rest else none
  | ')' :: rest => some (flags, ')', rest)
  | ':' :: rest => some (flags, ':', rest)
  | _ => none

mutual

/-- Alternatives up to the end of the text or a closing parenthesis. -/
def readAlternatives : (fuel : Nat) → Flags → List Char → Option (Pattern × List Char)
  | 0, _, _ => none
  | fuel + 1, flags, cs => do
    let (p, flags, rest) ← readSequence fuel flags cs
    match rest with
    | '|' :: rest =>
      let (q, rest) ← readAlternatives fuel flags rest
      return (either p q, rest)
    | rest => return (p, rest)

/-- Items up to a bar, a closing parenthesis or the end; flags set on the way stay in force. -/
def readSequence : (fuel : Nat) → Flags → List Char → Option (Pattern × Flags × List Char)
  | 0, _, _ => none
  | fuel + 1, flags, cs =>
    match cs with
    | [] => some (empty, flags, [])
    | '|' :: _ => some (empty, flags, cs)
    | ')' :: _ => some (empty, flags, cs)
    | '(' :: '?' :: 'P' :: '<' :: rest => do
      match rest.dropWhile (· ≠ '>') with
      | '>' :: rest => group fuel flags flags rest
      | _ => none
    | '(' :: '?' :: '<' :: rest => do
      match rest.dropWhile (· ≠ '>') with
      | '>' :: rest => group fuel flags flags rest
      | _ => none
    | '(' :: '?' :: rest => do
      let (inner, mark, rest) ← readFlags flags true rest
      if mark = ')' then readSequence fuel inner rest else group fuel flags inner rest
    | '(' :: rest => group fuel flags flags rest
    | c :: rest => do
      let (p, rest) ← readItem flags c rest
      let (p, rest) ← readRepeats (rest.length + 1) p rest
      let (q, flags, rest) ← readSequence fuel flags rest
      return (both p q, flags, rest)

/-- The inside of a group under its own flags, and what follows the group. -/
def group : (fuel : Nat) → (outer inner : Flags) → List Char →
    Option (Pattern × Flags × List Char)
  | 0, _, _, _ => none
  | fuel + 1, outer, inner, cs => do
    let (p, rest) ← readAlternatives fuel inner cs
    match rest with
    | ')' :: rest =>
      let (p, rest) ← readRepeats (rest.length + 1) p rest
      let (q, flags, rest) ← readSequence fuel outer rest
      return (both p q, flags, rest)
    | _ => none

def readItem (flags : Flags) (c : Char) (rest : List Char) : Option (Pattern × List Char) :=
  match c with
  | '*' | '+' | '?' | '\x7b' => none
  | '^' => some (textStart, rest)
  | '$' => some (textEnd, rest)
  | '.' => some (one fun c => flags.dotAll || c ≠ '\n', rest)
  | '[' => do
    let (negated, rest) := match rest with
      | '^' :: rest => (true, rest)
      | rest => (false, rest)
    let (tests, rest) ← readClass (rest.length + 1) true rest
    let test := flags.test fun c => tests.any (· c)
    return (one fun c => test c != negated, rest)
  | '\\' =>
    match rest with
    | [] => none
    | 'b' :: rest => some (wordEdge true, rest)
    | 'B' :: rest => some (wordEdge false, rest)
    | 'A' :: rest => some (textStart, rest)
    | 'z' :: rest => some (textEnd, rest)
    | d :: rest =>
      match classTest? d with
      | some test => some (one test, rest)
      | none => (escapedChar? d).map fun d => (flags.literal d, rest)
  | c => some (flags.literal c, rest)

end

def parse? (s : String) : Option Pattern :=
  match readAlternatives (2 * s.length + 2) {} s.toList with
  | some (p, []) => some p
  | _ => none

example : ((parse? "^x[0-9]+$").map (occursIn · "x12")) = some true ∧
    ((parse? "^x[0-9]+$").map (occursIn · "x12 ")) = some false ∧
    ((parse? "(?i)time(out)?").map (occursIn · "a TIMEOUT")) = some true ∧
    (parse? "(unclosed").isNone ∧ (parse? "[").isNone := by decide +kernel

end Pattern

end Sluice
