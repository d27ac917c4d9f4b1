import Mathlib.Data.List.Induction
import Sluice.Catalog
import Sluice.Proofs.Registry.Declarations

/-!
# Registries of catalogs

A catalog makes a registry of its connectors in the order of their identifiers. Each of them needs
its parent to be there already, so a family of drivers is accepted exactly if every parent has a
smaller identifier than its children; the first one that comes before its parent is reported. Some
order would do for every family without a cycle, but names need not be in it.
-/

namespace Sluice

variable {κ : Type}

/-! ## Registering in a given order -/

namespace Registry

variable {r r' : Registry} {e : Descriptor} {es : List Descriptor} {error : Error} {id : String}

/-- The root alone. -/
def rootOnly : Registry := ⟨⟨Ansi.descriptor, []⟩, []⟩

/-- The parent is the root or was described earlier. -/
def KnowsParent (earlier : List Descriptor) (e : Descriptor) : Prop :=
  ∃ parent, e.parent = some parent ∧ parent ∈ Ansi.id :: earlier.map (·.id)

/-- No driver comes before its parent. -/
def ParentsFirst (es : List Descriptor) : Prop :=
  ∀ earlier e later, es = earlier ++ e :: later → KnowsParent earlier e

theorem parentsFirst_nil : ParentsFirst [] := by
  intro earlier e later hsplit
  simp at hsplit

theorem parentsFirst_concat : ParentsFirst (es ++ [e]) ↔ ParentsFirst es ∧ KnowsParent es e :=
  forall_parts_concat

/-- The root and the drivers of these descriptors, in this order. -/
structure Lists (r : Registry) (es : List Descriptor) : Prop where
  root : r.root = ⟨Ansi.descriptor, []⟩
  others : r.others.map Driver.own = es

theorem Lists.register (h : r.Lists es) (hr : r.register e = .ok r') : r'.Lists (es ++ [e]) := by
  obtain ⟨-, parent, p, -, -, rfl⟩ := register_eq_ok_iff.mp hr
  refine ⟨h.root, ?_⟩
  change (r.others ++ [_]).map Driver.own = _
  rw [List.map_append, h.others, List.map_singleton]

theorem Lists.get?_eq_none (h : r.Lists es) :
    r.get? id = none ↔ id ∉ Ansi.id :: es.map (·.id) := by
  have hids : r.drivers.map Driver.id = Ansi.id :: es.map (·.id) := by
    rw [drivers, List.map_cons, h.root, ← h.others, List.map_map]
    rfl
  rw [Registry.get?_eq_none, ← hids, List.mem_map]
  simp

/-- A new driver is registered exactly if its parent is known. -/
theorem Lists.exists_register_iff (h : r.Lists es) (hfresh : e.id ∉ Ansi.id :: es.map (·.id)) :
    (∃ r', r.register e = .ok r') ↔ KnowsParent es e := by
  constructor
  · rintro ⟨r', hr⟩
    obtain ⟨-, parent, p, hparent, hget, -⟩ := register_eq_ok_iff.mp hr
    refine ⟨parent, hparent, ?_⟩
    by_contra hunknown
    rw [h.get?_eq_none.mpr hunknown] at hget
    exact nomatch hget
  · rintro ⟨parent, hparent, hknown⟩
    cases hget : r.get? parent with
    | none => exact (h.get?_eq_none.mp hget hknown).elim
    | some p =>
        exact ⟨_, register_eq_ok_iff.mpr
          ⟨h.get?_eq_none.mpr hfresh, parent, p, hparent, hget, rfl⟩⟩

theorem Lists.register_eq_error {parent : String} (h : r.Lists es)
    (hfresh : e.id ∉ Ansi.id :: es.map (·.id)) (hparent : e.parent = some parent) :
    r.register e = .error error ↔
      ¬ KnowsParent es e ∧ error = .unknownParent e.id parent := by
  have hknows : KnowsParent es e ↔ r.get? parent ≠ none := by
    rw [Ne, h.get?_eq_none, not_not, KnowsParent, hparent]
    simp
  rw [register_eq_error_iff hparent, hknows, not_not]
  simp [h.get?_eq_none.mpr hfresh]

theorem registerAll_concat (r : Registry) (es : List Descriptor) (e : Descriptor) :
    r.registerAll (es ++ [e]) = r.registerAll es >>= fun r => r.register e := by
  have hsingle : ∀ r : Registry, r.registerAll [e] = r.register e := fun r =>
    bind_pure (r.register e)
  rw [registerAll, List.foldlM_append]
  exact congrArg _ (funext hsingle)

theorem lists_of_registerAll (h : rootOnly.registerAll es = .ok r) : r.Lists es := by
  induction es using List.reverseRecOn generalizing r with
  | nil =>
      obtain rfl := Except.ok.inj h
      exact ⟨rfl, rfl⟩
  | append_singleton es e ih =>
      rw [registerAll_concat] at h
      obtain ⟨r₁, hrun, hlast⟩ := exists_of_bind_eq_ok h
      exact (ih hrun).register hlast

/-- Every identifier stands for one driver, the root's included. -/
def AllDistinct (es : List Descriptor) : Prop := (Ansi.id :: es.map (·.id)).Nodup

instance : Decidable (AllDistinct es) := inferInstanceAs (Decidable (List.Nodup _))

theorem AllDistinct.of_append {later : List Descriptor} (h : AllDistinct (es ++ later)) :
    AllDistinct es := by
  rw [AllDistinct, List.map_append] at h
  exact h.sublist (.cons_cons _ (List.sublist_append_left _ _))

theorem AllDistinct.fresh {earlier later : List Descriptor}
    (h : AllDistinct (earlier ++ e :: later)) : e.id ∉ Ansi.id :: earlier.map (·.id) := by
  rw [AllDistinct, List.map_append, List.map_cons, ← List.cons_append, List.nodup_append] at h
  exact fun hmem => h.2.2 e.id hmem e.id (List.mem_cons_self) rfl

theorem exists_registerAll_iff (hdistinct : AllDistinct es) :
    (∃ r, rootOnly.registerAll es = .ok r) ↔ ParentsFirst es := by
  induction es using List.reverseRecOn with
  | nil => exact iff_of_true ⟨rootOnly, rfl⟩ parentsFirst_nil
  | append_singleton es e ih =>
      have hfresh := hdistinct.fresh
      rw [parentsFirst_concat, ← ih hdistinct.of_append]
      constructor
      · rintro ⟨r', hr'⟩
        rw [registerAll_concat] at hr'
        obtain ⟨r, hr, hlast⟩ := exists_of_bind_eq_ok hr'
        exact ⟨⟨r, hr⟩, ((lists_of_registerAll hr).exists_register_iff hfresh).mp ⟨r', hlast⟩⟩
      · rintro ⟨⟨r, hr⟩, hlast⟩
        obtain ⟨r', hr'⟩ := ((lists_of_registerAll hr).exists_register_iff hfresh).mpr hlast
        exact ⟨r', by rw [registerAll_concat, hr]; exact hr'⟩

/-- The first driver that comes before its parent is reported. -/
theorem registerAll_eq_error (hdistinct : AllDistinct es) (hparents : ∀ e ∈ es, e.parent ≠ none) :
    rootOnly.registerAll es = .error error ↔
      ∃ earlier e later parent, es = earlier ++ e :: later ∧ ParentsFirst earlier ∧
        e.parent = some parent ∧ ¬ KnowsParent earlier e ∧
        error = .unknownParent e.id parent := by
  rw [registerAll, foldlM_eq_error_iff]
  constructor
  · rintro ⟨earlier, e, later, r, rfl, hrun, herror⟩
    obtain ⟨parent, hparent⟩ := Option.ne_none_iff_exists'.mp (hparents e (by simp))
    have hrejected := ((lists_of_registerAll hrun).register_eq_error hdistinct.fresh hparent).mp
      herror
    exact ⟨earlier, e, later, parent, rfl, (exists_registerAll_iff hdistinct.of_append).mp
      ⟨r, hrun⟩, hparent, hrejected⟩
  · rintro ⟨earlier, e, later, parent, rfl, hearlier, hparent, hrejected⟩
    obtain ⟨r, hrun⟩ := (exists_registerAll_iff hdistinct.of_append).mpr hearlier
    exact ⟨earlier, e, later, r, rfl, hrun,
      ((lists_of_registerAll hrun).register_eq_error hdistinct.fresh hparent).mpr hrejected⟩

end Registry

/-- The descriptor of a connector, if it has one. -/
def Connector.own (k : Connector κ) : Descriptor :=
  match k.descriptor with
  | .ok e => e
  | .error _ => .ofId k.id

namespace Catalog

open Registry

variable {ks l earlier later : List (Connector κ)} {k p : Connector κ} {error : Error}

/-! ## Catalogs in ascending order -/

/-- The catalog with these connectors registered one after the other. -/
def ofList (ks : List (Connector κ)) : Catalog κ := ks.foldl register {}

theorem connectors_ofList (h : (ks.map (·.id)).Nodup) : (ofList ks).connectors = ks := by
  induction ks using List.reverseRecOn with
  | nil => rfl
  | append_singleton ks k ih =>
      rw [List.map_append, List.map_singleton, List.nodup_append] at h
      have hnew : ∀ x ∈ ks, x.id ≠ k.id := fun x hx =>
        h.2.2 x.id (List.mem_map_of_mem hx) k.id (List.mem_singleton_self _)
      have hkept : ks.filter (fun x => x.id ≠ k.id) = ks :=
        List.filter_eq_self.mpr fun x hx => decide_eq_true (hnew x hx)
      rw [ofList, List.foldl_append, List.foldl_cons, List.foldl_nil, ← ofList, register,
        ih h.1, hkept]

/-- Connectors in strictly increasing order of their identifiers. -/
def Ascending (l : List (Connector κ)) : Prop := l.Pairwise fun a b => a.id < b.id

theorem sorted_perm (h : (ks.map (·.id)).Nodup) : (ofList ks).sorted.Perm ks := by
  rw [sorted, connectors_ofList h]
  exact List.mergeSort_perm _ _

theorem sorted_ascending (h : (ks.map (·.id)).Nodup) : Ascending (ofList ks).sorted := by
  have hle : (ofList ks).sorted.Pairwise fun a b => decide (a.id ≤ b.id) :=
    List.pairwise_mergeSort (fun a b c => by simpa using String.le_trans)
      (fun a b => by simpa using String.le_total _ _) _
  have hne : ((ofList ks).sorted.map (·.id)).Nodup :=
    ((sorted_perm h).map (·.id)).nodup_iff.mpr h
  refine hle.imp₂ (fun a b hab hne => ?_) (List.pairwise_map.mp hne)
  exact Std.lt_of_le_of_ne (of_decide_eq_true hab) hne

theorem Ascending.eq_of_perm (h : Ascending l) (hks : Ascending ks) (hperm : l.Perm ks) :
    l = ks :=
  hperm.eq_of_pairwise (fun _ _ _ _ hab hba => (String.lt_asymm hab hba).elim) h hks

/-- What stands before a connector are those with smaller identifiers. -/
theorem Ascending.mem_earlier_iff (h : Ascending (earlier ++ k :: later)) :
    p ∈ earlier ↔ p ∈ earlier ++ k :: later ∧ p.id < k.id := by
  obtain ⟨-, hlater, hcross⟩ := List.pairwise_append.mp h
  constructor
  · exact fun hp => ⟨List.mem_append_left _ hp, hcross p hp k List.mem_cons_self⟩
  · rintro ⟨hp, hlt⟩
    rcases List.mem_append.mp hp with hp | hp
    · exact hp
    · rcases List.mem_cons.mp hp with rfl | hp
      · exact (String.lt_irrefl _ hlt).elim
      · exact (String.lt_asymm hlt (List.rel_of_pairwise_cons hlater hp)).elim

/-! ## Families -/

/-- Connectors whose drivers have identifiers of their own, and parents among them or the root. -/
structure Family (ks : List (Connector κ)) : Prop where
  described : ∀ k ∈ ks, k.descriptor = .ok k.own
  connectors : (ks.map (·.id)).Nodup
  drivers : AllDistinct (ks.map Connector.own)
  parents : ∀ k ∈ ks, KnowsParent (ks.map Connector.own) k.own

/-- The parent is the root or a driver of the family with a smaller identifier. -/
def FollowsParent (ks : List (Connector κ)) (k : Connector κ) : Prop :=
  ∃ parent, k.own.parent = some parent ∧
    (parent = Ansi.id ∨ ∃ p ∈ ks, p.id < k.id ∧ p.own.id = parent)

theorem Family.perm (h : Family ks) (hperm : l.Perm ks) : Family l where
  described k hk := h.described k (hperm.mem_iff.mp hk)
  connectors := (hperm.map _).nodup_iff.mpr h.connectors
  drivers := (((hperm.map Connector.own).map _).cons _).nodup_iff.mpr h.drivers
  parents k hk := by
    obtain ⟨parent, hparent, hmem⟩ := h.parents k (hperm.mem_iff.mp hk)
    exact ⟨parent, hparent, (((hperm.map Connector.own).map _).cons _).mem_iff.mpr hmem⟩

theorem Family.parent_ne_none (h : Family ks) : ∀ e ∈ ks.map Connector.own, e.parent ≠ none := by
  intro e he
  obtain ⟨k, hk, rfl⟩ := List.mem_map.mp he
  obtain ⟨parent, hparent, -⟩ := h.parents k hk
  rw [hparent]
  exact nofun

/-- The parent of a connector stands before it exactly if its identifier is smaller. -/
theorem Ascending.knowsParent_iff (h : Ascending (earlier ++ k :: later))
    (hmem : ∀ p, p ∈ earlier ++ k :: later ↔ p ∈ ks) :
    KnowsParent (earlier.map Connector.own) k.own ↔ FollowsParent ks k := by
  have hbefore : ∀ p, p ∈ earlier ↔ p ∈ ks ∧ p.id < k.id := by
    intro p
    rw [h.mem_earlier_iff, hmem]
  simp only [KnowsParent, FollowsParent, List.mem_cons, List.map_map, List.mem_map,
    Function.comp_apply, hbefore, and_assoc]

theorem Ascending.parentsFirst_iff (h : Ascending (earlier ++ later))
    (hmem : ∀ p, p ∈ earlier ++ later ↔ p ∈ ks) :
    ParentsFirst (earlier.map Connector.own) ↔ ∀ k ∈ earlier, FollowsParent ks k := by
  constructor
  · intro hfirst k hk
    obtain ⟨before, after, rfl⟩ := List.append_of_mem hk
    rw [List.append_assoc, List.cons_append] at h hmem
    refine (h.knowsParent_iff hmem).mp (hfirst _ _ (after.map Connector.own) ?_)
    rw [List.map_append, List.map_cons]
  · intro hfollows before e after hsplit
    obtain ⟨before, rest, rfl, rfl, hrest⟩ := List.map_eq_append_iff.mp hsplit
    obtain ⟨k, after, rfl, rfl, rfl⟩ := List.map_eq_cons_iff.mp hrest
    rw [List.append_assoc, List.cons_append] at h hmem
    exact (h.knowsParent_iff hmem).mpr (hfollows k (by simp))

/-- The registry of a catalog is that of its descriptors in ascending order. -/
theorem Family.registry_eq (h : Family ks) :
    (ofList ks).registry = rootOnly.registerAll ((ofList ks).sorted.map Connector.own) := by
  have hdescribed : ∀ l : List (Connector κ), (∀ k ∈ l, k.descriptor = .ok k.own) →
      ∀ r : Registry, l.foldlM (fun r k => k.descriptor >>= r.register) r =
        r.registerAll (l.map Connector.own) := by
    intro l
    induction l with
    | nil => exact fun _ r => rfl
    | cons k l ih =>
        intro hl r
        obtain ⟨hk, hl⟩ := List.forall_mem_cons.mp hl
        rw [List.foldlM_cons, hk, List.map_cons, registerAll, List.foldlM_cons]
        exact congrArg _ (funext (ih hl))
  exact hdescribed _ (fun k hk => h.described k ((sorted_perm h.connectors).mem_iff.mp hk)) rootOnly

/-! ## What becomes of a family -/

/-- A driver that comes before its parent, the first in the order of identifiers. -/
structure FirstMisplaced (ks : List (Connector κ)) (k : Connector κ) : Prop where
  mem : k ∈ ks
  misplaced : ¬ FollowsParent ks k
  first : ∀ p ∈ ks, p.id < k.id → FollowsParent ks p

/-- Whoever goes from driver to parent comes nearer to the root. -/
def Acyclic (ks : List (Connector κ)) : Prop :=
  ∃ depth : Connector κ → Nat, ∀ k ∈ ks, ∀ p ∈ ks, k.own.parent = some p.own.id → depth p < depth k

variable {r : Registry}

theorem Family.exists_registry_iff (h : Family ks) :
    (∃ r, (ofList ks).registry = .ok r) ↔ ∀ k ∈ ks, FollowsParent ks k := by
  have hperm := sorted_perm h.connectors
  have hascending : Ascending ((ofList ks).sorted ++ []) := by
    rw [List.append_nil]
    exact sorted_ascending h.connectors
  have hmem : ∀ p, p ∈ (ofList ks).sorted ++ [] ↔ p ∈ ks := fun p => by
    rw [List.append_nil, hperm.mem_iff]
  rw [h.registry_eq, exists_registerAll_iff (h.perm hperm).drivers,
    hascending.parentsFirst_iff hmem]
  simp only [hperm.mem_iff]

theorem Family.registry_eq_error (h : Family ks) :
    (ofList ks).registry = .error error ↔
      ∃ k parent, FirstMisplaced ks k ∧ k.own.parent = some parent ∧
        error = .unknownParent k.own.id parent := by
  have hperm := sorted_perm h.connectors
  have hsorted := h.perm hperm
  have hascending := sorted_ascending h.connectors
  have hmem : ∀ p, p ∈ (ofList ks).sorted ↔ p ∈ ks := fun p => hperm.mem_iff
  rw [h.registry_eq, registerAll_eq_error hsorted.drivers hsorted.parent_ne_none]
  constructor
  · rintro ⟨before, e, after, parent, hsplit, hfirst, hparent, hunknown, rfl⟩
    obtain ⟨earlier, rest, hl, rfl, hrest⟩ := List.map_eq_append_iff.mp hsplit
    obtain ⟨k, later, rfl, rfl, rfl⟩ := List.map_eq_cons_iff.mp hrest
    rw [hl] at hascending hmem
    refine ⟨k, parent, ⟨(hmem k).mp (by simp), ?_, fun p hp hlt => ?_⟩, hparent, rfl⟩
    · rwa [← hascending.knowsParent_iff hmem]
    · have hfollows := (hascending.parentsFirst_iff hmem).mp hfirst
      exact hfollows p (hascending.mem_earlier_iff.mpr ⟨(hmem p).mpr hp, hlt⟩)
  · rintro ⟨k, parent, ⟨hk, hmisplaced, hbefore⟩, hparent, rfl⟩
    obtain ⟨earlier, later, hl⟩ := List.append_of_mem ((hmem k).mpr hk)
    rw [hl] at hascending hmem
    refine ⟨earlier.map Connector.own, k.own, later.map Connector.own, parent, ?_, ?_, hparent,
      ?_, rfl⟩
    · rw [hl, List.map_append, List.map_cons]
    · refine (hascending.parentsFirst_iff hmem).mpr fun p hp => ?_
      obtain ⟨hp, hlt⟩ := hascending.mem_earlier_iff.mp hp
      exact hbefore p ((hmem p).mp hp) hlt
    · rwa [hascending.knowsParent_iff hmem]

/-- In the order of their depth, no driver of a family comes before its parent. -/
theorem Family.exists_order (h : Family ks) (hacyclic : Acyclic ks) :
    ∃ l : List (Connector κ), l.Perm ks ∧
      ∃ r, rootOnly.registerAll (l.map Connector.own) = .ok r := by
  obtain ⟨depth, hdepth⟩ := hacyclic
  have hperm := List.mergeSort_perm ks fun a b => decide (depth a ≤ depth b)
  have hsorted : (ks.mergeSort fun a b => decide (depth a ≤ depth b)).Pairwise
      fun a b => decide (depth a ≤ depth b) :=
    List.pairwise_mergeSort (fun a b c => by simpa using Nat.le_trans)
      (fun a b => by simpa using Nat.le_total _ _) ks
  generalize ks.mergeSort (fun a b => decide (depth a ≤ depth b)) = l at hperm hsorted
  have hl := h.perm hperm
  refine ⟨l, hperm, (exists_registerAll_iff hl.drivers).mpr fun before e after hsplit => ?_⟩
  obtain ⟨earlier, rest, rfl, rfl, hrest⟩ := List.map_eq_append_iff.mp hsplit
  obtain ⟨k, later, rfl, rfl, rfl⟩ := List.map_eq_cons_iff.mp hrest
  have hk : k ∈ ks := hperm.mem_iff.mp (by simp)
  obtain ⟨parent, hparent, hmem⟩ := hl.parents k (by simp)
  refine ⟨parent, hparent, ?_⟩
  rcases List.mem_cons.mp hmem with rfl | hmem
  · exact List.mem_cons_self
  · rw [List.map_map] at hmem
    obtain ⟨p, hp, rfl⟩ := List.mem_map.mp hmem
    have hlt := hdepth k hk p (hperm.mem_iff.mp hp) hparent
    obtain ⟨-, hlater, -⟩ := List.pairwise_append.mp hsorted
    rcases List.mem_append.mp hp with hp | hp
    · exact List.mem_cons_of_mem _ (List.mem_map_of_mem (List.mem_map_of_mem hp))
    · rcases List.mem_cons.mp hp with rfl | hp
      · exact (Nat.lt_irrefl _ hlt).elim
      · have hle : depth k ≤ depth p := of_decide_eq_true (List.rel_of_pairwise_cons hlater hp)
        exact (Nat.not_lt.mpr hle hlt).elim

/-- What becomes of a family of drivers whose connectors are put into a catalog. -/
structure Assembles (ks : List (Connector κ)) : Prop where
  /-- It does not matter in which order they are put in. -/
  perm : ∀ l, l.Perm ks → (ofList l).registry = (ofList ks).registry
  /-- They are accepted exactly if no identifier comes before that of its parent. -/
  accepted_iff : (∃ r, (ofList ks).registry = .ok r) ↔ ∀ k ∈ ks, FollowsParent ks k
  /-- The registry holds the root and exactly the drivers of the family. -/
  holds : ∀ r, (ofList ks).registry = .ok r →
    r.root = ⟨Ansi.descriptor, []⟩ ∧ (r.others.map Driver.own).Perm (ks.map Connector.own)
  /-- Otherwise the first driver that comes before its parent is reported. -/
  rejected_iff : ∀ error, (ofList ks).registry = .error error ↔
    ∃ k parent, FirstMisplaced ks k ∧ k.own.parent = some parent ∧
      error = .unknownParent k.own.id parent
  /-- Without a cycle they could be registered, in an order of their own. -/
  arrangeable : Acyclic ks →
    ∃ l : List (Connector κ), l.Perm ks ∧ ∃ r, rootOnly.registerAll (l.map Connector.own) = .ok r

/-- A catalog registers a family of drivers in the order of their names, whatever the order of their
parents. -/
theorem family_assembles (h : Family ks) : Assembles ks where
  perm l hperm := by
    have hl := h.perm hperm
    have hsorted := (sorted_perm hl.connectors).trans (hperm.trans (sorted_perm h.connectors).symm)
    rw [hl.registry_eq, h.registry_eq, (sorted_ascending hl.connectors).eq_of_perm
      (sorted_ascending h.connectors) hsorted]
  accepted_iff := h.exists_registry_iff
  holds r hr := by
    rw [h.registry_eq] at hr
    obtain ⟨hroot, hothers⟩ := lists_of_registerAll hr
    exact ⟨hroot, hothers ▸ (sorted_perm h.connectors).map _⟩
  rejected_iff _ := h.registry_eq_error
  arrangeable := h.exists_order

/-- A connector that says nothing about its driver but the parent. -/
def leaf (id parent : String) : Connector Unit where
  id
  descriptor := .ok { Descriptor.ofId id with parent := some parent }

/-- A chain of drivers whose names come in its order, put in from its end. -/
theorem chain_assembles :
    let ks := [leaf "replica" "oltp", leaf "oltp" "core", leaf "core" "sql"]
    Family ks ∧ Assembles ks ∧ ∃ r, (ofList ks).registry = .ok r := by
  intro ks
  have h : Family ks := by
    refine ⟨?_, by decide, by decide, ?_⟩
    · simp [ks, leaf, Connector.own]
    · simp [ks, leaf, Connector.own, KnowsParent, Descriptor.ofId, Ansi.id]
  refine ⟨h, family_assembles h, h.exists_registry_iff.mpr fun k hk => ?_⟩
  simp only [ks, List.mem_cons, List.not_mem_nil, or_false] at hk
  obtain rfl | rfl | rfl := hk
  · exact ⟨"oltp", rfl, .inr ⟨leaf "oltp" "core", .tail _ (.head _), by decide, rfl⟩⟩
  · exact ⟨"core", rfl, .inr ⟨leaf "core" "sql", .tail _ (.tail _ (.head _)), by decide, rfl⟩⟩
  · exact ⟨"sql", rfl, .inl rfl⟩

/-- A driver below one with a greater name is rejected, though the two could be registered the other
way round. -/
theorem annex_rejected :
    let ks := [leaf "core" "sql", leaf "annex" "core"]
    Family ks ∧ Acyclic ks ∧ (ofList ks).registry = .error (.unknownParent "annex" "core") := by
  intro ks
  have h : Family ks := by
    refine ⟨?_, by decide, by decide, ?_⟩
    · simp [ks, leaf, Connector.own]
    · simp [ks, leaf, Connector.own, KnowsParent, Descriptor.ofId, Ansi.id]
  have hacyclic : Acyclic ks := by
    refine ⟨fun k => if k.id = "core" then 0 else 1, ?_⟩
    simp [ks, leaf, Connector.own, Descriptor.ofId]
  refine ⟨h, hacyclic, h.registry_eq_error.mpr
    ⟨leaf "annex" "core", "core", ⟨.tail _ (.head _), ?_, ?_⟩, rfl, rfl⟩⟩
  · rintro ⟨parent, hparent, hplace⟩
    obtain rfl : "core" = parent := Option.some.inj hparent
    obtain hroot | ⟨p, hp, hlt, hcore⟩ := hplace
    · exact absurd hroot (by decide)
    · simp only [ks, List.mem_cons, List.not_mem_nil, or_false] at hp
      obtain rfl | rfl := hp
      · exact absurd hlt (by decide)
      · exact absurd hcore (by decide)
  · intro p hp hlt
    simp only [ks, List.mem_cons, List.not_mem_nil, or_false] at hp
    obtain rfl | rfl := hp <;> exact absurd hlt (by decide)

end Catalog

end Sluice
