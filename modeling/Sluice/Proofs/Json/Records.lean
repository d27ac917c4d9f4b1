import Mathlib.Data.List.Nodup
import Sluice.Proofs.Json.Codec
import Sluice.Proofs.Outcome

/-!
# Records, however they are written

A record is an object with a field for each part. The fields stand in any order, others may stand
among them, and a part that may be left out may be missing. What a record says is found again
whichever of these documents is read.
-/

namespace Sluice.Json

/-- A part of a record: its name, the documents that may stand for it, and whether its field may be
left out. -/
structure Part where
  name : String
  Writes : Json → Prop
  Omissible : Prop

/-- A part that every document has. -/
def Part.required (name : String) (writes : Json → Prop) : Part := ⟨name, writes, False⟩

/-- The fields of a record in the order of its parts, with or without those that may be missing. -/
inductive Kept : List Part → List (String × Json) → Prop where
  | nil : Kept [] []
  | keep {p ps j kept} : p.Writes j → Kept ps kept → Kept (p :: ps) ((p.name, j) :: kept)
  | skip {p ps kept} : p.Omissible → Kept ps kept → Kept (p :: ps) kept

/-- The fields write the parts, in any order and with any others among them. -/
def Fills (ps : List Part) (fields : List (String × Json)) : Prop :=
  ∃ kept others, Kept ps kept ∧ (∀ f ∈ others, f.1 ∉ ps.map Part.name) ∧
    fields.Perm (kept ++ others)

/-- A record with these parts. -/
def Record (ps : List Part) (j : Json) : Prop := ∃ fields, j = obj fields ∧ Fills ps fields

/-- A record whose alternative is named beside its parts. -/
def Tagged (tag alternative : String) (ps : List Part) : Json → Prop :=
  Record (.required tag (· = str alternative) :: ps)

variable {ps : List Part} {p : Part} {fields kept parts : List (String × Json)} {j : Json}
  {tag alternative name : String} {bound bound' : Nat}

/-! ## Depth -/

theorem depthFields_le_iff : depthFields fields ≤ bound ↔ ∀ f ∈ fields, f.2.depth ≤ bound := by
  induction fields with
  | nil => simp [depthFields]
  | cons f fields ih =>
      obtain ⟨k, j⟩ := f
      rw [depthFields, Nat.max_le, ih, List.forall_mem_cons]

theorem depth_lt_of_mem {f : String × Json} (h : f ∈ fields) : f.2.depth < (obj fields).depth :=
  Nat.lt_succ_of_le (depthFields_le_iff.mp (Nat.le_refl _) f h)

/-! ## Fields -/

theorem lookup_of_mem (hnodup : (fields.map Prod.fst).Nodup) (h : (name, j) ∈ fields) :
    fields.lookup name = some j := by
  obtain ⟨before, after, rfl⟩ := List.append_of_mem h
  refine List.lookup_eq_some_iff.mpr ⟨before, after, rfl, fun f hf => bne_iff_ne.mpr ?_⟩
  rw [List.map_append, List.map_cons] at hnodup
  intro hname
  exact (List.nodup_append.mp hnodup).2.2 f.1 (List.mem_map_of_mem hf) name
    List.mem_cons_self hname.symm

theorem lookup_of_not_mem (h : name ∉ fields.map Prod.fst) : fields.lookup name = none := by
  refine List.lookup_eq_none_iff.mpr fun f hf => bne_iff_ne.mpr fun hname => ?_
  exact h (hname ▸ List.mem_map_of_mem hf)

theorem Kept.sublist (h : Kept ps kept) : (kept.map Prod.fst).Sublist (ps.map Part.name) := by
  induction h with
  | nil => exact .slnil
  | keep _ _ ih => exact ih.cons_cons _
  | skip _ _ ih => exact ih.cons _

theorem Kept.find (h : Kept ps kept) (hnodup : (ps.map Part.name).Nodup) (hp : p ∈ ps) :
    (∃ j, (p.name, j) ∈ kept ∧ p.Writes j) ∨ (p.name ∉ kept.map Prod.fst ∧ p.Omissible) := by
  induction h with
  | nil => exact absurd hp List.not_mem_nil
  | @keep q ps j kept hwrites hrest ih =>
      rw [List.map_cons, List.nodup_cons] at hnodup
      cases List.mem_cons.mp hp with
      | inl heq =>
          subst heq
          exact .inl ⟨j, List.mem_cons_self, hwrites⟩
      | inr hmem =>
          cases ih hnodup.2 hmem with
          | inl hfound =>
              obtain ⟨i, hi, hwrites⟩ := hfound
              exact .inl ⟨i, List.mem_cons_of_mem _ hi, hwrites⟩
          | inr hmissing =>
              refine .inr ⟨?_, hmissing.2⟩
              have hne : p.name ≠ q.name := fun heq =>
                hnodup.1 (heq ▸ List.mem_map_of_mem hmem)
              simpa [hne] using hmissing.1
  | @skip q ps kept homissible hrest ih =>
      rw [List.map_cons, List.nodup_cons] at hnodup
      cases List.mem_cons.mp hp with
      | inl heq =>
          subst heq
          exact .inr ⟨fun hmem => hnodup.1 (hrest.sublist.subset hmem), homissible⟩
      | inr hmem => exact ih hnodup.2 hmem

/-! ## Through a text -/

theorem names_of_resemble {fields' : List (String × Json)}
    (h : List.Forall₂ FieldResembles fields fields') :
    fields'.map Prod.fst = fields.map Prod.fst := by
  induction h with
  | nil => rfl
  | cons hfirst _ ih =>
      cases hfirst with
      | field => rw [List.map_cons, List.map_cons, ih]

/-- Whatever writes one of the parts comes back as something that writes it. -/
def StableParts (ps : List Part) : Prop := ∀ p ∈ ps, Stable p.Writes

theorem StableParts.nil : StableParts [] := List.forall_mem_nil _

theorem StableParts.cons (h : Stable p.Writes) (hps : StableParts ps) : StableParts (p :: ps) :=
  List.forall_mem_cons.mpr ⟨h, hps⟩

theorem Kept.resembling {kept' : List (String × Json)} (h : Kept ps kept)
    (hstable : StableParts ps) (hkept : List.Forall₂ FieldResembles kept kept') :
    Kept ps kept' := by
  induction h generalizing kept' with
  | nil =>
      cases hkept
      exact .nil
  | keep hwrites _ ih =>
      cases hkept with
      | cons hfirst hrest =>
          cases hfirst with
          | field h =>
              exact .keep (hstable _ List.mem_cons_self _ _ hwrites h)
                (ih (fun p hp => hstable p (List.mem_cons_of_mem _ hp)) hrest)
  | skip homissible _ ih =>
      exact .skip homissible (ih (fun p hp => hstable p (List.mem_cons_of_mem _ hp)) hkept)

/-- A record comes back from a text as a record of the same parts. -/
theorem Record.stable (hstable : StableParts ps) : Stable (Record ps) := by
  rintro _ j' ⟨fields, rfl, kept, others, hkept, hothers, hperm⟩ h
  cases h with
  | @obj _ fields' hfields =>
      obtain ⟨moved, hmoved, hback⟩ := List.perm_comp_forall₂ hperm.symm hfields
      have hkept' := (List.forall₂_take_append moved kept others hmoved.flip).flip
      have hothers' := (List.forall₂_drop_append moved kept others hmoved.flip).flip
      refine ⟨fields', rfl, moved.take kept.length, moved.drop kept.length,
        hkept.resembling hstable hkept', ?_, ?_⟩
      · intro f hf
        have hname : f.1 ∈ others.map Prod.fst :=
          names_of_resemble hothers' ▸ List.mem_map_of_mem hf
        obtain ⟨g, hg, heq⟩ := List.mem_map.mp hname
        exact heq ▸ hothers g hg
      · rw [List.take_append_drop]
        exact hback.symm

theorem Tagged.stable (hstable : StableParts ps) : Stable (Tagged tag alternative ps) :=
  Record.stable (.cons (stable_of_plain (.str alternative)) hstable)

/-! ## Reading -/

/-- Among the parts that were read, there is one that writes `p`, less deep than a bound; or there
is none and none is needed. -/
def Part.Found (p : Part) (bound : Nat) (parts : List (String × Json)) : Prop :=
  (∃ j, parts.lookup p.name = some j ∧ p.Writes j ∧ j.depth < bound) ∨
    (parts.lookup p.name = none ∧ p.Omissible)

theorem Part.Found.mono (h : p.Found bound parts) (hle : bound ≤ bound') :
    p.Found bound' parts := by
  cases h with
  | inl hfound =>
      obtain ⟨j, hlookup, hwrites, hdepth⟩ := hfound
      exact .inl ⟨j, hlookup, hwrites, Nat.lt_of_lt_of_le hdepth hle⟩
  | inr hmissing => exact .inr hmissing

theorem Record.ne_null (h : Record ps j) : j ≠ null := by
  obtain ⟨fields, rfl, -⟩ := h
  exact Json.noConfusion

/-- An object of the kept fields alone is a record. -/
theorem Kept.record (h : Kept ps kept) : Record ps (obj kept) :=
  ⟨kept, rfl, kept, [], h, by simp, by simp⟩

/-- A record is read by the names of its parts. -/
theorem Record.read (h : Record ps j) (names : List String) (hnames : ps.map Part.name = names)
    (hnodup : names.Nodup) :
    ∃ parts, j.record? names = some parts ∧ ∀ p ∈ ps, p.Found j.depth parts := by
  subst hnames
  obtain ⟨fields, rfl, kept, others, hkept, hothers, hperm⟩ := h
  set known := fields.filter fun f => (ps.map Part.name).contains f.1
  have hsame : known.Perm kept := by
    have hall : kept.filter (fun f => (ps.map Part.name).contains f.1) = kept :=
      List.filter_eq_self.mpr fun f hf =>
        List.contains_iff_mem.mpr (hkept.sublist.subset (List.mem_map_of_mem hf))
    have hnone : others.filter (fun f => (ps.map Part.name).contains f.1) = [] :=
      List.filter_eq_nil_iff.mpr fun f hf => by simpa using hothers f hf
    have hfilter := hperm.filter fun f => (ps.map Part.name).contains f.1
    rwa [List.filter_append, hall, hnone, List.append_nil] at hfilter
  have hdistinct : (known.map Prod.fst).Nodup :=
    (hsame.map Prod.fst).nodup_iff.mpr (hkept.sublist.nodup hnodup)
  refine ⟨known, if_pos hdistinct, fun p hp => ?_⟩
  cases hkept.find hnodup hp with
  | inl hfound =>
      obtain ⟨j, hmem, hwrites⟩ := hfound
      have hread : (p.name, j) ∈ known := hsame.mem_iff.mpr hmem
      exact .inl ⟨j, lookup_of_mem hdistinct hread, hwrites,
        depth_lt_of_mem (List.mem_filter.mp hread).1⟩
  | inr hmissing =>
      refine .inr ⟨lookup_of_not_mem fun hmem => ?_, hmissing.2⟩
      exact hmissing.1 ((hsame.map Prod.fst).mem_iff.mp hmem)

/-- The tag of a record is found, and what is left is the record of the parts. -/
theorem Tagged.body (h : Tagged tag alternative ps j) (htag : tag ∉ ps.map Part.name) :
    ∃ body, j.tagged? tag = some (alternative, body) ∧ Record ps body ∧ body.depth ≤ j.depth := by
  obtain ⟨fields, rfl, kept, others, hkept, hothers, hperm⟩ := h
  cases hkept with
  | skip homissible _ => exact homissible.elim
  | @keep _ _ i kept hi hkept =>
      have hi : i = str alternative := hi
      subst hi
      have hothers : ∀ f ∈ others, f.1 ≠ tag ∧ f.1 ∉ ps.map Part.name := by
        simpa [Part.required] using hothers
      have hrest : ∀ f ∈ kept ++ others, f.1 ≠ tag := by
        intro f hf
        cases List.mem_append.mp hf with
        | inl hmem =>
            intro heq
            exact htag (heq ▸ hkept.sublist.subset (List.mem_map_of_mem hmem))
        | inr hmem => exact (hothers f hmem).1
      have htagged : fields.filter (fun f => f.1 == tag) = [(tag, str alternative)] := by
        have hnone : (kept ++ others).filter (fun f => f.1 == tag) = [] :=
          List.filter_eq_nil_iff.mpr fun f hf => by simpa using hrest f hf
        have hfilter := hperm.filter fun f => f.1 == tag
        rw [List.cons_append, List.filter_cons_of_pos (by simp [Part.required]), hnone] at hfilter
        exact List.perm_singleton.mp hfilter
      have huntagged : (fields.filter fun f => f.1 != tag).Perm (kept ++ others) := by
        have hall : (kept ++ others).filter (fun f => f.1 != tag) = kept ++ others :=
          List.filter_eq_self.mpr fun f hf => by simpa using hrest f hf
        have hfilter := hperm.filter fun f => f.1 != tag
        rwa [List.cons_append, List.filter_cons_of_neg (by simp [Part.required]), hall] at hfilter
      refine ⟨obj (fields.filter fun f => f.1 != tag), by rw [tagged?, htagged], ?_, ?_⟩
      · exact ⟨_, rfl, kept, others, hkept, fun f hf => (hothers f hf).2, huntagged⟩
      · rw [depth, depth, Nat.add_le_add_iff_right, depthFields_le_iff]
        exact fun f hf => depthFields_le_iff.mp (Nat.le_refl _) f (List.mem_filter.mp hf).1

/-- A tagged record is read by its tag and the names of its parts. -/
theorem Tagged.read (h : Tagged tag alternative ps j) (names : List String)
    (hnames : ps.map Part.name = names) (hnodup : (tag :: names).Nodup) :
    ∃ body parts, j.tagged? tag = some (alternative, body) ∧ body.record? names = some parts ∧
      ∀ p ∈ ps, p.Found j.depth parts := by
  obtain ⟨htag, hdistinct⟩ := List.nodup_cons.mp hnodup
  obtain ⟨body, hbody, hrecord, hdepth⟩ := h.body (hnames ▸ htag)
  obtain ⟨parts, hparts, hfound⟩ := hrecord.read names hnames hdistinct
  exact ⟨body, parts, hbody, hparts, fun p hp => (hfound p hp).mono hdepth⟩

/-! ## Parts -/

section

variable {α : Type} {a default : α} {read : Json → Option α} {writes : Json → Prop} {empty : Prop}

theorem required?_eq (h : (Part.required name writes).Found bound parts)
    (hread : ∀ j, writes j → j.depth < bound → read j = some a) :
    required? parts name read = some a := by
  cases h with
  | inl hfound =>
      obtain ⟨j, hlookup, hwrites, hdepth⟩ := hfound
      have hlookup : parts.lookup name = some j := hlookup
      rw [required?, hlookup, Option.bind_some, hread j hwrites hdepth]
  | inr hmissing => exact hmissing.2.elim

theorem defaulted?_eq (h : Part.Found ⟨name, writes, empty⟩ bound parts)
    (hread : ∀ j, writes j → read j = some a) (hempty : empty → default = a) :
    defaulted? parts name default read = some a := by
  cases h with
  | inl hfound =>
      obtain ⟨j, hlookup, hwrites, -⟩ := hfound
      have hlookup : parts.lookup name = some j := hlookup
      rw [defaulted?, hlookup]
      exact hread j hwrites
  | inr hmissing =>
      have hlookup : parts.lookup name = none := hmissing.1
      rw [defaulted?, hlookup, hempty hmissing.2]

end

end Sluice.Json
