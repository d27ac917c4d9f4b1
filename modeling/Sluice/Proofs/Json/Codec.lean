import Mathlib.Data.List.Perm.Basic
import Sluice.Int64
import Sluice.Json.Record

/-!
# Documents on their way through a text

A library writes a document as a text and reads the text again. It keeps integers of 64 bits, may
round any other number or refuse it, and follows a document only down to some depth.
-/

namespace Sluice.Json

/-! ## Numbers -/

/-- An integer that keeps its digits: one of 64 bits, with or without a sign. -/
def Fits (n : Int) : Prop := Int64.minValue.toInt ≤ n ∧ n < UInt64.size

theorem fits_of_lt {n : Nat} (h : n < UInt64.size) : Fits n :=
  ⟨Int.le_trans (by decide) (Int.natCast_nonneg n), Int.ofNat_lt.mpr h⟩

/-- All numbers of a document have a property. -/
inductive AllNumbers (P : Json → Prop) : Json → Prop where
  | null : AllNumbers P null
  | bool (b : Bool) : AllNumbers P (bool b)
  | int {n : Int} : P (int n) → AllNumbers P (int n)
  | float {x : Binary64} : P (float x) → AllNumbers P (float x)
  | str (s : String) : AllNumbers P (str s)
  | arr {items : List Json} : (∀ j ∈ items, AllNumbers P j) → AllNumbers P (arr items)
  | obj {fields : List (String × Json)} :
      (∀ f ∈ fields, AllNumbers P f.2) → AllNumbers P (obj fields)

/-- A document without floats whose integers keep their digits. -/
def Plain : Json → Prop := AllNumbers fun j => ∃ n, Fits n ∧ j = int n

mutual

/-- The same document, but for whatever stands in place of floats and of integers that do not keep
their digits. -/
inductive Resembles : (written read : Json) → Prop where
  | null : Resembles null null
  | bool (b : Bool) : Resembles (bool b) (bool b)
  | int {n : Int} : Fits n → Resembles (int n) (int n)
  | wide {n : Int} {j : Json} : ¬ Fits n → Resembles (int n) j
  | float {x : Binary64} {j : Json} : Resembles (float x) j
  | str (s : String) : Resembles (str s) (str s)
  | arr {items items' : List Json} :
      List.Forall₂ Resembles items items' → Resembles (arr items) (arr items')
  | obj {fields fields' : List (String × Json)} :
      List.Forall₂ FieldResembles fields fields' → Resembles (obj fields) (obj fields')

/-- The same field, up to what it holds. -/
inductive FieldResembles : (written read : String × Json) → Prop where
  | field {name : String} {j j' : Json} : Resembles j j' → FieldResembles (name, j) (name, j')

end

/-! ## Libraries -/

/-- A library that writes documents as texts and reads texts as documents, which it follows no
deeper than `maxDepth`. -/
structure Codec where
  write : Json → String
  read : String → Option Json
  maxDepth : Nat

namespace Codec

variable {codec : Codec}

/-- The text of a number by itself is read. -/
def Takes (codec : Codec) (number : Json) : Prop :=
  ∃ j, codec.read (codec.write number) = some j

/-- What such a library promises. -/
structure Lawful (codec : Codec) : Prop where
  takes_int : ∀ n, Fits n → codec.Takes (int n)
  /-- A document that is not too deep and whose numbers are taken is read from its text, up to what
  becomes of floats and of integers beyond 64 bits. -/
  read_write : ∀ j : Json, j.depth ≤ codec.maxDepth → j.AllNumbers codec.Takes →
    ∃ j', codec.read (codec.write j) = some j' ∧ Resembles j j'

end Codec

/-! ## Numbers that are kept -/

variable {P Q : Json → Prop} {j j' : Json}

theorem AllNumbers.imp (h : j.AllNumbers P) (hPQ : ∀ j, P j → Q j) : j.AllNumbers Q := by
  induction h with
  | null => exact .null
  | bool b => exact .bool b
  | int hn => exact .int (hPQ _ hn)
  | float hx => exact .float (hPQ _ hx)
  | str s => exact .str s
  | arr _ ih => exact .arr ih
  | obj _ ih => exact .obj ih

theorem AllNumbers.nil : (Json.obj []).AllNumbers P := .obj (List.forall_mem_nil _)

theorem AllNumbers.cons {fields : List (String × Json)} {name : String} (hj : j.AllNumbers P)
    (h : (Json.obj fields).AllNumbers P) : (Json.obj ((name, j) :: fields)).AllNumbers P := by
  cases h with
  | obj h => exact .obj (List.forall_mem_cons.mpr ⟨hj, h⟩)

theorem Codec.Lawful.takes_plain {codec : Codec} (hcodec : codec.Lawful) (h : j.Plain) :
    j.AllNumbers codec.Takes := by
  apply h.imp
  rintro _ ⟨n, hn, rfl⟩
  exact hcodec.takes_int n hn

namespace Plain

theorem null : Json.null.Plain := AllNumbers.null

theorem bool (b : Bool) : (Json.bool b).Plain := AllNumbers.bool b

theorem int {n : Int} (h : Fits n) : (Json.int n).Plain := AllNumbers.int ⟨n, h, rfl⟩

theorem str (s : String) : (Json.str s).Plain := AllNumbers.str s

theorem arr {items : List Json} (h : ∀ j ∈ items, j.Plain) : (Json.arr items).Plain :=
  AllNumbers.arr h

theorem nil : (Json.obj []).Plain := AllNumbers.nil

theorem cons {j : Json} {fields : List (String × Json)} {name : String} (hj : j.Plain)
    (h : (Json.obj fields).Plain) : (Json.obj ((name, j) :: fields)).Plain :=
  AllNumbers.cons hj h

end Plain

theorem eq_of_forall₂ {α : Type} {R : α → α → Prop} {l l' : List α} (h : List.Forall₂ R l l')
    (heq : ∀ a ∈ l, ∀ a', R a a' → a' = a) : l' = l := by
  induction h with
  | nil => rfl
  | cons hfirst _ ih =>
      rw [heq _ List.mem_cons_self _ hfirst, ih fun a ha => heq a (List.mem_cons_of_mem _ ha)]

/-- Nothing else resembles a document whose numbers are all kept. -/
theorem Resembles.eq_of_plain (hj : j.Plain) (h : Resembles j j') : j' = j := by
  induction hj generalizing j' with
  | null | bool | str =>
      cases h
      rfl
  | int hn =>
      obtain ⟨n, hfits, heq⟩ := hn
      cases h with
      | int => rfl
      | wide hwide =>
          obtain rfl := Json.int.inj heq
          exact (hwide hfits).elim
  | float hx =>
      obtain ⟨n, -, heq⟩ := hx
      exact nomatch heq
  | arr _ ih =>
      cases h with
      | arr hitems => rw [eq_of_forall₂ hitems fun j hj j' h => ih j hj h]
  | obj _ ih =>
      cases h with
      | obj hfields =>
          rw [eq_of_forall₂ hfields fun f hf f' h => ?_]
          cases h with
          | field h => rw [ih _ hf h]

/-- Documents that are still among themselves when they come back from a text. -/
def Stable (writes : Json → Prop) : Prop := ∀ j j', writes j → Resembles j j' → writes j'

theorem stable_of_plain (h : j.Plain) : Stable (· = j) := by
  rintro _ j' rfl hj
  exact hj.eq_of_plain h

end Sluice.Json
