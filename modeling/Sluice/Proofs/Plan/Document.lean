import Sluice.Plan.Document
import Sluice.Proofs.Calendar.Text
import Sluice.Proofs.Json.Records
import Sluice.Proofs.Json.Text

/-!
# Documents of expressions, plans and queries

Many documents stand for one tree: the fields of a record may come in any order, with others among
them, and a field for nothing may be missing. Every one of them is read as the tree that it stands
for, and the document that is written for a tree is one of them.
-/

namespace Sluice

namespace Json

variable {α : Type} {a : α} {as : List α} {o : Option α} {j : Json} {name s : String}
  {bound : Nat} {parts : List (String × Json)} {read : Json → Option α} {writes : α → Json → Prop}

/-! ## Texts, options and lists -/

def Text (s : String) (j : Json) : Prop := j = str s

/-- What is not there is null. -/
def OptionOf (writes : α → Json → Prop) : Option α → Json → Prop
  | some a => writes a
  | none => (· = null)

def ListOf (writes : α → Json → Prop) (as : List α) (j : Json) : Prop :=
  ∃ items, j = arr items ∧ List.Forall₂ writes as items

/-- A part that need not be there. -/
def Part.optional (name : String) (writes : α → Json → Prop) (o : Option α) : Part :=
  ⟨name, OptionOf writes o, o = none⟩

/-- A part with any number of elements. -/
def Part.list (name : String) (writes : α → Json → Prop) (as : List α) : Part :=
  ⟨name, ListOf writes as, as = []⟩

theorem plain_map {write : α → Json} (h : ∀ a ∈ as, (write a).Plain) :
    (arr (as.map write)).Plain :=
  .arr fun _ hj => by
    obtain ⟨a, ha, rfl⟩ := List.mem_map.mp hj
    exact h a ha

theorem plain_option {write : α → Json} (h : ∀ a, o = some a → (write a).Plain) :
    ((o.map write).getD null).Plain := by
  cases o with
  | none => exact .null
  | some a => exact h a rfl

theorem toText?_eq (h : Text s j) : j.toText? = some s := by
  rw [h]
  rfl

theorem text_ne_null (h : Text s j) : j ≠ null := by
  rw [h]
  exact Json.noConfusion

theorem stable_text (s : String) : Stable (Text s) := stable_of_plain (.str s)

theorem stable_optionOf (h : ∀ a, o = some a → Stable (writes a)) :
    Stable (OptionOf writes o) := by
  cases o with
  | none => exact stable_of_plain .null
  | some a => exact h a rfl

theorem stable_listOf (h : ∀ a ∈ as, Stable (writes a)) : Stable (ListOf writes as) := by
  rintro _ j' ⟨items, rfl, hitems⟩ hj'
  cases hj' with
  | @arr _ items' hback =>
      refine ⟨items', rfl, ?_⟩
      induction hitems generalizing items' with
      | nil =>
          cases hback
          exact .nil
      | cons hfirst _ ih =>
          cases hback with
          | cons hfirst' hrest' =>
              exact .cons (h _ List.mem_cons_self _ _ hfirst hfirst')
                (ih (fun a ha => h a (List.mem_cons_of_mem _ ha)) hrest')

/-- A list is written element by element. -/
theorem listOf_map {write : α → Json} (h : ∀ a, writes a (write a)) (as : List α) :
    ListOf writes as (arr (as.map write)) :=
  ⟨_, rfl, List.forall₂_map_right_iff.mpr (List.forall₂_same.mpr fun a _ => h a)⟩

theorem optionOf_map {write : α → Json} (h : ∀ a, writes a (write a)) (o : Option α) :
    OptionOf writes o ((o.map write).getD null) := by
  cases o with
  | none => rfl
  | some a => exact h a

theorem toOption?_eq (h : OptionOf writes o j)
    (hread : ∀ a, o = some a → ∀ j, writes a j → j ≠ null ∧ read j = some a) :
    toOption? read j = some o := by
  cases o with
  | none =>
      have hnull : j = null := h
      rw [hnull]
      rfl
  | some a =>
      obtain ⟨hne, hsome⟩ := hread a rfl j h
      rw [toOption?.eq_def]
      split
      · exact absurd rfl hne
      · rw [hsome, Option.map_some]

theorem toListOf?_eq (h : ListOf writes as j)
    (hread : ∀ a ∈ as, ∀ j, writes a j → read j = some a) : toListOf? read j = some as := by
  obtain ⟨items, rfl, hitems⟩ := h
  rw [toListOf?, mapM_eq_some_iff]
  induction hitems with
  | nil => exact .nil
  | cons hfirst _ ih =>
      exact .cons (hread _ List.mem_cons_self _ hfirst)
        (ih fun a ha => hread a (List.mem_cons_of_mem _ ha))

theorem optional?_eq (h : (Part.optional name writes o).Found bound parts)
    (hread : ∀ a, o = some a → ∀ j, writes a j → j ≠ null ∧ read j = some a) :
    defaulted? parts name none (toOption? read) = some o :=
  defaulted?_eq h (fun _ hj => toOption?_eq hj hread) Eq.symm

theorem list?_eq (h : (Part.list name writes as).Found bound parts)
    (hread : ∀ a ∈ as, ∀ j, writes a j → read j = some a) :
    defaulted? parts name [] (toListOf? read) = some as :=
  defaulted?_eq h (fun _ hj => toListOf?_eq hj hread) Eq.symm

theorem optionalText?_eq {o : Option String} (h : (Part.optional name Text o).Found bound parts) :
    defaulted? parts name none (toOption? toText?) = some o :=
  optional?_eq h fun _ _ _ hj => ⟨text_ne_null hj, toText?_eq hj⟩

theorem requiredText?_eq (h : (Part.required name (Text s)).Found bound parts) :
    required? parts name toText? = some s :=
  required?_eq h fun _ hj _ => toText?_eq hj

/-- A name that stands for one of several alternatives. -/
theorem requiredName?_eq {ofName? : String → Option α}
    (h : (Part.required name (Text s)).Found bound parts) (hname : ofName? s = some a) :
    required? parts name (fun j => j.bareName?.bind ofName?) = some a :=
  required?_eq h fun j hj _ => by
    rw [hj]
    exact hname

end Json

/-! ## Values -/

namespace Value

/-- Not a float; a date or time that exists. -/
def Exact : Value → Prop
  | float _ => False
  | date d => d.Valid
  | time t => t.Valid
  | dateTime t => t.Valid
  | instant t => t.Valid
  | null | bool _ | int _ | decimal _ | text _ | bytes _ => True

/-- The document of a value; values have no parts that could be moved. -/
def Written (v : Value) (j : Json) : Prop := j = v.toJson

theorem written_toJson (v : Value) : v.Written v.toJson := rfl

def ByteWritten (b : UInt8) (j : Json) : Prop := j = .int b.toNat

theorem byteWritten (b : UInt8) : ByteWritten b (.int b.toNat) := rfl

theorem toInt64?_toInt (n : Int64) : (Json.int n.toInt).toInt64? = some n := by
  have hlow := n.minValue_le_toInt
  have hhigh := n.toInt_le
  rw [Json.toInt64?, Json.toIntWithin?, if_pos, Option.map_some, Int64.ofInt_toInt]
  rw [Bool.and_eq_true, decide_eq_true_eq, decide_eq_true_eq]
  exact ⟨hlow, hhigh⟩

theorem toByte?_toNat (b : UInt8) : (Json.int b.toNat).toByte? = some b := by
  have hlt := b.toNat_lt
  rw [Json.toByte?, Json.toIntWithin?, if_pos (by simp; omega), Option.map_some, Int.toNat_natCast,
    UInt8.ofNat_toNat]

theorem ofJson?_toJson {v : Value} (h : v.Exact) : ofJson? v.toJson = some v := by
  cases v with
  | null => rfl
  | bool b => rfl
  | float x => exact h.elim
  | decimal digits => rfl
  | text s => rfl
  | int n => simp only [toJson, ofJson?, toInt64?_toInt, Option.map_some]
  | bytes bs =>
      have hread := Json.toListOf?_eq (Json.listOf_map byteWritten bs) fun b _ j hj => by
        rw [hj]
        exact toByte?_toNat b
      simp only [toJson, ofJson?, hread, Option.map_some]
  | date d =>
      have hdate : d.Valid := h
      simp only [toJson, ofJson?, Json.toText?, Date.parse?_render hdate, Option.bind_some,
        Option.map_some]
  | time t =>
      have htime : t.Valid := h
      simp only [toJson, ofJson?, Json.toText?, TimeOfDay.parse?_render htime, Option.bind_some,
        Option.map_some]
  | dateTime t =>
      have htime : t.Valid := h
      simp only [toJson, ofJson?, Json.toText?, DateTime.parse?_render htime, Option.bind_some,
        Option.map_some]
  | instant t =>
      have htime : t.Valid := h
      simp only [toJson, ofJson?, Json.toText?, DateTime.parseUtc?_render htime, Option.bind_some,
        Option.map_some]

/-- A date or a time is written as a text, so no number of a value is a float. -/
theorem plain_toJson {v : Value} (h : v.Exact) : v.toJson.Plain := by
  cases v with
  | null => exact .str _
  | float x => exact h.elim
  | bool b => exact .cons (.bool b) .nil
  | int n =>
      have hhigh := n.toInt_lt
      exact .cons (.int ⟨n.minValue_le_toInt, Int.lt_trans hhigh (by decide)⟩) .nil
  | bytes bs =>
      have hbytes : ∀ b ∈ bs, (Json.int b.toNat).Plain := fun b _ =>
        .int (Json.fits_of_lt (Nat.lt_trans b.toNat_lt (by decide)))
      exact .cons (Json.plain_map hbytes) .nil
  | decimal | text | date | time | dateTime | instant => exact .cons (.str _) .nil

theorem ofJson?_of_written {v : Value} {j : Json} (h : v.Exact) (hj : v.Written j) :
    ofJson? j = some v := by
  rw [hj]
  exact ofJson?_toJson h

theorem stable_written {v : Value} (h : v.Exact) : Json.Stable v.Written :=
  Json.stable_of_plain (plain_toJson h)

end Value

/-! ## Expressions -/

namespace Expr

open Json

/-- No literal of the expression is a float, and all dates and times exist. -/
def Exact : Expr → Prop
  | literal value => value.Exact
  | column _ _ => True
  | truncate _ expr => Exact expr
  | intervalAdd _ amount expr => Exact amount ∧ Exact expr
  | cast _ expr => Exact expr
  | unary _ arg => Exact arg
  | binary _ left right => Exact left ∧ Exact right

/-- The documents that stand for an expression. -/
def Written : Expr → Json → Prop
  | literal value => Tagged "kind" "literal" [.required "value" value.Written]
  | column table name =>
    Tagged "kind" "column_ref" [.optional "table" Text table, .required "name" (Text name)]
  | truncate unit expr =>
    Tagged "kind" "temporal_truncate"
      [.required "unit" (Text unit.name), .required "expr" (Written expr)]
  | intervalAdd unit amount expr =>
    Tagged "kind" "interval_add"
      [.required "unit" (Text unit.name), .required "amount" (Written amount),
        .required "expr" (Written expr)]
  | cast target expr =>
    Tagged "kind" "cast"
      [.required "target_type" (Text target.name), .required "expr" (Written expr)]
  | unary function arg =>
    Tagged "kind" "unary_fn" [.required "name" (Text function), .required "arg" (Written arg)]
  | binary op left right =>
    Tagged "kind" "binary_op"
      [.required "op" (Text op.name), .required "left" (Written left),
        .required "right" (Written right)]

/-- A document whose nesting the fuel exceeds is read as the expression that it stands for. -/
theorem read_of_written {e : Expr} {j : Json} {fuel : Nat} (h : e.Exact) (hj : e.Written j)
    (hfuel : j.depth < fuel) : read fuel j = some e := by
  -- The expressions within a document are nested less deep, so one step less is left for them.
  induction e generalizing j fuel with
  | literal value =>
      obtain ⟨fuel, rfl⟩ := Nat.exists_eq_add_of_lt hfuel
      obtain ⟨body, parts, hbody, hparts, hfound⟩ := hj.read ["value"] rfl (by decide)
      have hvalue := required?_eq (hfound _ (.head _)) fun j hj _ => Value.ofJson?_of_written h hj
      simp only [read, hbody, hparts, hvalue, Option.bind_eq_bind, Option.bind_some]
      rfl
  | column table name =>
      obtain ⟨fuel, rfl⟩ := Nat.exists_eq_add_of_lt hfuel
      obtain ⟨body, parts, hbody, hparts, hfound⟩ := hj.read ["table", "name"] rfl (by decide)
      have htable := optionalText?_eq (hfound _ (.head _))
      have hname := requiredText?_eq (hfound _ (.tail _ (.head _)))
      simp only [read, hbody, hparts, htable, hname, Option.bind_eq_bind, Option.bind_some]
      rfl
  | truncate unit expr ih =>
      obtain ⟨fuel, rfl⟩ := Nat.exists_eq_add_of_lt hfuel
      obtain ⟨body, parts, hbody, hparts, hfound⟩ := hj.read ["unit", "expr"] rfl (by decide)
      have hunit := requiredName?_eq (hfound _ (.head _)) unit.ofName?_name
      have hexpr : required? parts "expr" (read (j.depth + fuel)) = some expr :=
        required?_eq (hfound _ (.tail _ (.head _))) fun _ hi hdepth => ih h hi (by omega)
      simp only [read, hbody, hparts, hunit, hexpr, Option.bind_eq_bind, Option.bind_some]
      rfl
  | intervalAdd unit amount expr ihamount ihexpr =>
      obtain ⟨fuel, rfl⟩ := Nat.exists_eq_add_of_lt hfuel
      obtain ⟨body, parts, hbody, hparts, hfound⟩ :=
        hj.read ["unit", "amount", "expr"] rfl (by decide)
      have hunit := requiredName?_eq (hfound _ (.head _)) unit.ofName?_name
      have hamount : required? parts "amount" (read (j.depth + fuel)) = some amount :=
        required?_eq (hfound _ (.tail _ (.head _))) fun _ hi hdepth => ihamount h.1 hi (by omega)
      have hexpr : required? parts "expr" (read (j.depth + fuel)) = some expr :=
        required?_eq (hfound _ (.tail _ (.tail _ (.head _)))) fun _ hi hdepth =>
          ihexpr h.2 hi (by omega)
      simp only [read, hbody, hparts, hunit, hamount, hexpr, Option.bind_eq_bind, Option.bind_some]
      rfl
  | cast target expr ih =>
      obtain ⟨fuel, rfl⟩ := Nat.exists_eq_add_of_lt hfuel
      obtain ⟨body, parts, hbody, hparts, hfound⟩ := hj.read ["target_type", "expr"] rfl (by decide)
      have htarget := requiredName?_eq (hfound _ (.head _)) target.ofName?_name
      have hexpr : required? parts "expr" (read (j.depth + fuel)) = some expr :=
        required?_eq (hfound _ (.tail _ (.head _))) fun _ hi hdepth => ih h hi (by omega)
      simp only [read, hbody, hparts, htarget, hexpr, Option.bind_eq_bind, Option.bind_some]
      rfl
  | unary function arg ih =>
      obtain ⟨fuel, rfl⟩ := Nat.exists_eq_add_of_lt hfuel
      obtain ⟨body, parts, hbody, hparts, hfound⟩ := hj.read ["name", "arg"] rfl (by decide)
      have hname := requiredText?_eq (hfound _ (.head _))
      have harg : required? parts "arg" (read (j.depth + fuel)) = some arg :=
        required?_eq (hfound _ (.tail _ (.head _))) fun _ hi hdepth => ih h hi (by omega)
      simp only [read, hbody, hparts, hname, harg, Option.bind_eq_bind, Option.bind_some]
      rfl
  | binary op left right ihleft ihright =>
      obtain ⟨fuel, rfl⟩ := Nat.exists_eq_add_of_lt hfuel
      obtain ⟨body, parts, hbody, hparts, hfound⟩ := hj.read ["op", "left", "right"] rfl (by decide)
      have hop := requiredName?_eq (hfound _ (.head _)) op.ofName?_name
      have hleft : required? parts "left" (read (j.depth + fuel)) = some left :=
        required?_eq (hfound _ (.tail _ (.head _))) fun _ hi hdepth => ihleft h.1 hi (by omega)
      have hright : required? parts "right" (read (j.depth + fuel)) = some right :=
        required?_eq (hfound _ (.tail _ (.tail _ (.head _)))) fun _ hi hdepth =>
          ihright h.2 hi (by omega)
      simp only [read, hbody, hparts, hop, hleft, hright, Option.bind_eq_bind, Option.bind_some]
      rfl

theorem ofJson?_of_written {e : Expr} {j : Json} (h : e.Exact) (hj : e.Written j) :
    ofJson? j = some e :=
  read_of_written h hj (Nat.lt_succ_self _)

theorem optionJson_written (o : Option String) : OptionOf Text o (optionJson o) := by
  cases o <;> rfl

/-- The document that is written for an expression stands for it. -/
theorem written_toJson (e : Expr) : e.Written e.toJson := by
  induction e with
  | literal value => exact Kept.record (.keep rfl (.keep rfl .nil))
  | column table name =>
      exact Kept.record (.keep rfl (.keep (optionJson_written table) (.keep rfl .nil)))
  | truncate unit expr ih => exact Kept.record (.keep rfl (.keep rfl (.keep ih .nil)))
  | intervalAdd unit amount expr ihamount ihexpr =>
      exact Kept.record (.keep rfl (.keep rfl (.keep ihamount (.keep ihexpr .nil))))
  | cast target expr ih => exact Kept.record (.keep rfl (.keep rfl (.keep ih .nil)))
  | unary function arg ih => exact Kept.record (.keep rfl (.keep rfl (.keep ih .nil)))
  | binary op left right ihleft ihright =>
      exact Kept.record (.keep rfl (.keep rfl (.keep ihleft (.keep ihright .nil))))

theorem plain_optionJson (o : Option String) : (optionJson o).Plain := by
  cases o with
  | none => exact .null
  | some s => exact .str s

theorem plain_toJson {e : Expr} (h : e.Exact) : e.toJson.Plain := by
  induction e with
  | literal value => exact .cons (.str _) (.cons (Value.plain_toJson h) .nil)
  | column table name =>
      exact .cons (.str _) (.cons (plain_optionJson table) (.cons (.str name) .nil))
  | truncate unit expr ih => exact .cons (.str _) (.cons (.str _) (.cons (ih h) .nil))
  | intervalAdd unit amount expr ihamount ihexpr =>
      exact .cons (.str _) (.cons (.str _) (.cons (ihamount h.1) (.cons (ihexpr h.2) .nil)))
  | cast target expr ih => exact .cons (.str _) (.cons (.str _) (.cons (ih h) .nil))
  | unary function arg ih => exact .cons (.str _) (.cons (.str _) (.cons (ih h) .nil))
  | binary op left right ihleft ihright =>
      exact .cons (.str _) (.cons (.str _) (.cons (ihleft h.1) (.cons (ihright h.2) .nil)))

theorem Written.ne_null {e : Expr} {j : Json} (h : e.Written j) : j ≠ .null := by
  cases e <;> exact Record.ne_null h

/-- A document of an expression comes back from its text as a document of this expression. -/
theorem stable_written {e : Expr} (h : e.Exact) : Stable e.Written := by
  induction e with
  | literal value => exact Tagged.stable (.cons (Value.stable_written h) .nil)
  | column table name =>
      have htable : Stable (OptionOf Text table) := stable_optionOf fun s _ => stable_text s
      exact Tagged.stable (.cons htable (.cons (stable_text name) .nil))
  | truncate unit expr ih | cast unit expr ih | unary unit expr ih =>
      exact Tagged.stable (.cons (stable_text _) (.cons (ih h) .nil))
  | intervalAdd unit amount expr ihamount ihexpr =>
      exact Tagged.stable
        (.cons (stable_text _) (.cons (ihamount h.1) (.cons (ihexpr h.2) .nil)))
  | binary op left right ihleft ihright =>
      exact Tagged.stable
        (.cons (stable_text _) (.cons (ihleft h.1) (.cons (ihright h.2) .nil)))

end Expr

/-! ## Plans -/

open Json (Part Record Tagged)

namespace Projection

def Exact (p : Projection) : Prop := p.expr.Exact

/-- The documents that stand for a projection. -/
def Written (p : Projection) : Json → Prop :=
  Record [.required "expr" p.expr.Written, .optional "alias" Json.Text p.label]

theorem ofJson?_of_written {p : Projection} {j : Json} (h : p.Exact) (hj : p.Written j) :
    ofJson? j = some p := by
  obtain ⟨parts, hparts, hfound⟩ := hj.read ["expr", "alias"] rfl (by decide)
  have hexpr := Json.required?_eq (hfound _ (.head _)) fun _ hi _ => Expr.ofJson?_of_written h hi
  have hlabel := Json.optionalText?_eq (hfound _ (.tail _ (.head _)))
  simp only [ofJson?, hparts, hexpr, hlabel, Option.bind_eq_bind, Option.bind_some]
  rfl

theorem written_toJson (p : Projection) : p.Written p.toJson :=
  Json.Kept.record (.keep p.expr.written_toJson (.keep (Expr.optionJson_written p.label) .nil))

theorem stable_written {p : Projection} (h : p.Exact) : Json.Stable p.Written :=
  Record.stable (.cons (Expr.stable_written h)
    (.cons (Json.stable_optionOf fun s _ => Json.stable_text s) .nil))

theorem plain_toJson {p : Projection} (h : p.Exact) : p.toJson.Plain :=
  .cons (Expr.plain_toJson h) (.cons (Expr.plain_optionJson p.label) .nil)

end Projection

namespace TableRef

/-- The documents that stand for a table. -/
def Written (t : TableRef) : Json → Prop :=
  Record [.optional "schema" Json.Text t.schema, .required "name" (Json.Text t.name)]

theorem ofJson?_of_written {t : TableRef} {j : Json} (hj : t.Written j) : ofJson? j = some t := by
  obtain ⟨parts, hparts, hfound⟩ := hj.read ["schema", "name"] rfl (by decide)
  have hschema := Json.optionalText?_eq (hfound _ (.head _))
  have hname := Json.requiredText?_eq (hfound _ (.tail _ (.head _)))
  simp only [ofJson?, hparts, hschema, hname, Option.bind_eq_bind, Option.bind_some]
  rfl

theorem written_toJson (t : TableRef) : t.Written t.toJson :=
  Json.Kept.record (.keep (Expr.optionJson_written t.schema) (.keep rfl .nil))

theorem stable_written (t : TableRef) : Json.Stable t.Written :=
  Record.stable (.cons (Json.stable_optionOf fun s _ => Json.stable_text s)
    (.cons (Json.stable_text t.name) .nil))

theorem plain_toJson (t : TableRef) : t.toJson.Plain :=
  .cons (Expr.plain_optionJson t.schema) (.cons (.str t.name) .nil)

end TableRef

namespace Plan

/-- No expression of the plan holds a float, and all dates and times exist. -/
structure Exact (p : Plan) : Prop where
  projections : ∀ x ∈ p.projections, x.Exact
  filter : ∀ e, p.filter = some e → e.Exact
  groupBy : ∀ e ∈ p.groupBy, e.Exact

def LimitWritten (n : UInt64) (j : Json) : Prop := j = .int n.toNat

theorem limitWritten (n : UInt64) : LimitWritten n (.int n.toNat) := rfl

/-- The parts of a plan. -/
def parts (p : Plan) : List Part :=
  [.required "source" p.source.Written, .list "projections" Projection.Written p.projections,
    .optional "filter" Expr.Written p.filter, .list "group_by" Expr.Written p.groupBy,
    .optional "limit" LimitWritten p.limit]

/-- The documents that stand for a plan. -/
def Written (p : Plan) : Json → Prop := Record p.parts

theorem toUInt64?_toNat (n : UInt64) : (Json.int n.toNat).toUInt64? = some n := by
  have hlt := n.toNat_lt
  rw [Json.toUInt64?, Json.toIntWithin?, if_pos, Option.map_some, Int.toNat_natCast,
    UInt64.ofNat_toNat]
  simp
  omega

theorem ofJson?_of_written {p : Plan} {j : Json} (h : p.Exact) (hj : p.Written j) :
    ofJson? j = some p := by
  obtain ⟨parts, hparts, hfound⟩ :=
    hj.read ["source", "projections", "filter", "group_by", "limit"] rfl (by decide)
  have hsource := Json.required?_eq (hfound _ (.head _)) fun _ hi _ =>
    TableRef.ofJson?_of_written hi
  have hprojections := Json.list?_eq (hfound _ (.tail _ (.head _))) fun x hx _ hi =>
    Projection.ofJson?_of_written (h.projections x hx) hi
  have hfilter := Json.optional?_eq (hfound _ (.tail _ (.tail _ (.head _)))) fun e he _ hi =>
    ⟨hi.ne_null, Expr.ofJson?_of_written (h.filter e he) hi⟩
  have hgroupBy := Json.list?_eq (hfound _ (.tail _ (.tail _ (.tail _ (.head _))))) fun e he _ hi =>
    Expr.ofJson?_of_written (h.groupBy e he) hi
  have hlimit := Json.optional?_eq (hfound _ (.tail _ (.tail _ (.tail _ (.tail _ (.head _))))))
    fun n _ i (hi : i = .int n.toNat) => ⟨hi ▸ Json.noConfusion, hi ▸ toUInt64?_toNat n⟩
  simp only [ofJson?, hparts, hsource, hprojections, hfilter, hgroupBy, hlimit,
    Option.bind_eq_bind, Option.bind_some]
  rfl

theorem kept_toFields (p : Plan) : Json.Kept p.parts p.toFields :=
  .keep p.source.written_toJson
    (.keep (Json.listOf_map Projection.written_toJson p.projections)
      (.keep (Json.optionOf_map Expr.written_toJson p.filter)
        (.keep (Json.listOf_map Expr.written_toJson p.groupBy)
          (.keep (Json.optionOf_map limitWritten p.limit) .nil))))

theorem written_toJson (p : Plan) : p.Written p.toJson := p.kept_toFields.record

theorem stable_parts {p : Plan} (h : p.Exact) : Json.StableParts p.parts :=
  .cons p.source.stable_written
    (.cons (Json.stable_listOf fun x hx => Projection.stable_written (h.projections x hx))
      (.cons (Json.stable_optionOf fun e he => Expr.stable_written (h.filter e he))
        (.cons (Json.stable_listOf fun e he => Expr.stable_written (h.groupBy e he))
          (.cons (Json.stable_optionOf fun n _ =>
            Json.stable_of_plain (.int (Json.fits_of_lt n.toNat_lt))) .nil))))

theorem plain_toJson {p : Plan} (h : p.Exact) : p.toJson.Plain :=
  .cons p.source.plain_toJson
    (.cons (Json.plain_map fun x hx => Projection.plain_toJson (h.projections x hx))
      (.cons (Json.plain_option fun e he => Expr.plain_toJson (h.filter e he))
        (.cons (Json.plain_map fun e he => Expr.plain_toJson (h.groupBy e he))
          (.cons (Json.plain_option fun n _ => .int (Json.fits_of_lt n.toNat_lt)) .nil))))

end Plan

namespace Query

def Exact : Query → Prop
  | native _ params => ∀ v ∈ params, v.Exact
  | plan p => p.Exact

/-- The documents that stand for a query. -/
def Written : Query → Json → Prop
  | native sql params =>
    Tagged "type" "native"
      [.required "sql" (Json.Text sql), .list "params" Value.Written params]
  | plan p => Tagged "type" "plan" p.parts

theorem ofJson?_of_written {q : Query} {j : Json} (h : q.Exact) (hj : q.Written j) :
    ofJson? j = some q := by
  cases q with
  | native sql params =>
      obtain ⟨body, parts, hbody, hparts, hfound⟩ := hj.read ["sql", "params"] rfl (by decide)
      have hsql := Json.requiredText?_eq (hfound _ (.head _))
      have hparams := Json.list?_eq (hfound _ (.tail _ (.head _))) fun v hv _ hi =>
        Value.ofJson?_of_written (h v hv) hi
      simp only [ofJson?, hbody, hparts, hsql, hparams, Option.bind_eq_bind, Option.bind_some]
      rfl
  | plan p =>
      have htag : "type" ∉ ["source", "projections", "filter", "group_by", "limit"] := by decide
      obtain ⟨body, hbody, hrecord, -⟩ := hj.body htag
      have hplan := Plan.ofJson?_of_written h hrecord
      simp only [ofJson?, hbody, hplan, Option.bind_eq_bind, Option.bind_some, Option.map_some]

theorem written_toJson (q : Query) : q.Written q.toJson := by
  cases q with
  | native sql params =>
      exact Json.Kept.record
        (.keep rfl (.keep rfl (.keep (Json.listOf_map Value.written_toJson params) .nil)))
  | plan p => exact Json.Kept.record (.keep rfl p.kept_toFields)

theorem stable_written {q : Query} (h : q.Exact) : Json.Stable q.Written := by
  cases q with
  | native sql params =>
      exact Tagged.stable (.cons (Json.stable_text sql)
        (.cons (Json.stable_listOf fun v hv => Value.stable_written (h v hv)) .nil))
  | plan p => exact Tagged.stable (Plan.stable_parts h)

theorem plain_toJson {q : Query} (h : q.Exact) : q.toJson.Plain := by
  cases q with
  | native sql params =>
      exact .cons (.str _) (.cons (.str sql)
        (.cons (Json.plain_map fun v hv => Value.plain_toJson (h v hv)) .nil))
  | plan p => exact .cons (.str _) (Plan.plain_toJson h)

end Query

/-! ## Reading back -/

/-- Every document that stands for `a` is read as `a`, and the one that is written for it is among
them. So is the text of each of them, as far as a library goes along with its depth and its
numbers; in the document that is written there are no numbers that a library could refuse. -/
structure ReadsBack (codec : Json.Codec) {α : Type} (writes : α → Json → Prop) (write : α → Json)
    (read : Json → Option α) (a : α) : Prop where
  written : writes a (write a)
  ofDocument : ∀ j, writes a j → read j = some a
  ofText : ∀ j, writes a j → j.depth ≤ codec.maxDepth → j.AllNumbers codec.Takes →
    (codec.read (codec.write j)).bind read = some a
  ofWrittenText : (write a).depth ≤ codec.maxDepth →
    (codec.read (codec.write (write a))).bind read = some a

theorem Json.Codec.Lawful.readsBack {codec : Json.Codec} {α : Type} {writes : α → Json → Prop}
    {write : α → Json} {read : Json → Option α} {a : α} (hcodec : codec.Lawful)
    (hwritten : writes a (write a)) (hplain : (write a).Plain) (hstable : Json.Stable (writes a))
    (hread : ∀ j, writes a j → read j = some a) : ReadsBack codec writes write read a := by
  have htext : ∀ j, writes a j → j.depth ≤ codec.maxDepth → j.AllNumbers codec.Takes →
      (codec.read (codec.write j)).bind read = some a := by
    intro j hj hdepth hnumbers
    obtain ⟨j', hback, hresembles⟩ := hcodec.read_write j hdepth hnumbers
    rw [hback, Option.bind_some]
    exact hread j' (hstable j j' hj hresembles)
  exact ⟨hwritten, hread, htext, fun hdepth =>
    htext _ hwritten hdepth (hcodec.takes_plain hplain)⟩

end Sluice
