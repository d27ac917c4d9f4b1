/-!
# Maps from names

Values by name. A map that was read from a document is gone through in the order of its names,
whatever the order of the document.
-/

namespace Sluice

/-- Values by name: each name once, in increasing order. -/
structure NameMap (α : Type) where
  entries : List (String × α)
  increasing : entries.Pairwise fun a b => a.1 < b.1
deriving DecidableEq

namespace NameMap

variable {α : Type}

def empty : NameMap α := ⟨[], .nil⟩

instance : Inhabited (NameMap α) := ⟨empty⟩

/-- Put a value at its place, instead of an earlier value of the same name. -/
def place (name : String) (a : α) : List (String × α) → List (String × α)
  | [] => [(name, a)]
  | (other, b) :: rest =>
    if name < other then (name, a) :: (other, b) :: rest
    else if name = other then (name, a) :: rest
    else (other, b) :: place name a rest

theorem eq_or_mem_of_mem_place {name : String} {a : α} {p : String × α} {l : List (String × α)}
    (h : p ∈ place name a l) : p = (name, a) ∨ p ∈ l := by
  induction l with
  | nil => exact .inl (List.mem_singleton.mp h)
  | cons q rest ih =>
      rw [place] at h
      split at h
      · exact List.mem_cons.mp h
      · split at h
        · exact (List.mem_cons.mp h).imp_right (List.mem_cons_of_mem q)
        · rcases List.mem_cons.mp h with rfl | h
          · exact .inr List.mem_cons_self
          · exact (ih h).imp_right (List.mem_cons_of_mem q)

theorem place_increasing {name : String} {a : α} {l : List (String × α)}
    (h : l.Pairwise fun a b => a.1 < b.1) : (place name a l).Pairwise fun a b => a.1 < b.1 := by
  induction l with
  | nil => exact List.pairwise_singleton _ _
  | cons q rest ih =>
      obtain ⟨hfirst, hrest⟩ := List.pairwise_cons.mp h
      rw [place]
      split
      · next hbefore =>
          refine List.pairwise_cons.mpr ⟨List.forall_mem_cons.mpr ⟨hbefore, fun p hp => ?_⟩, h⟩
          exact String.lt_trans hbefore (hfirst p hp)
      · next hbefore =>
          split
          · next heq => exact List.pairwise_cons.mpr ⟨heq ▸ hfirst, hrest⟩
          · next hne =>
              refine List.pairwise_cons.mpr ⟨fun p hp => ?_, ih hrest⟩
              rcases eq_or_mem_of_mem_place hp with rfl | hp
              · exact String.not_le.mp fun hle =>
                  hne (String.le_antisymm hle (String.not_lt.mp hbefore))
              · exact hfirst p hp

def insert (m : NameMap α) (name : String) (a : α) : NameMap α :=
  ⟨place name a m.entries, place_increasing m.increasing⟩

/-- The last value of each name. -/
def ofEntries (entries : List (String × α)) : NameMap α :=
  entries.foldl (fun m p => m.insert p.1 p.2) empty

end NameMap

end Sluice
