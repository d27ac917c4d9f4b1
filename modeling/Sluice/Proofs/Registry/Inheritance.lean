import Sluice.Proofs.Registry.Growth

/-!
# Inheritance

Every question about a driver is answered by its own descriptor or else by its parent. The answers
depend on which descriptors are registered, but not on the order in which they came.
-/

namespace Sluice

namespace Driver

/-- The answers of a driver, from its own descriptor and from the answers of its parent. A root has
no parent and falls back on what is common to all. -/
structure Inherits (d : Driver) (parent : Option Driver) : Prop where
  capability : ∀ c, d.capability c =
    (d.own.capabilities.get c).getD (parent.elim false (·.capability c))
  semanticType : ∀ native, d.semanticType native =
    (d.own.type? (TypeName.normalize native)).getD
      (parent.elim ((TypeName.lookup? (TypeName.normalize native)).getD .other)
        (·.semanticType native))
  nativeType : ∀ type, d.nativeType? type = (d.own.cast? type).or (parent.bind (·.nativeType? type))
  slot : ∀ {α : Type} (slot : Dialect → Option α),
    d.slot? slot = (slot d.own.dialect).or (parent.bind (·.slot? slot))
  adminUser : d.adminUser? = d.own.adminUser.or (parent.bind (·.adminUser?))
  parser : d.parser? = d.own.parser.or (parent.bind (·.parser?))
  safeOptions : d.safeOptions = parent.elim [] (·.safeOptions) ++ d.own.safeOptions
  errorPatterns : d.errorPatterns = d.own.patterns ++ parent.elim [] (·.errorPatterns)

theorem eq_of_chain {d d' : Driver} (h : d.chain = d'.chain) : d = d' := by
  obtain ⟨own, ancestors⟩ := d
  obtain ⟨own', ancestors'⟩ := d'
  obtain ⟨rfl, rfl⟩ := List.cons.inj h
  rfl

variable {α : Type} (d : Driver)

theorem nearest_eq (declared : Descriptor → Option α) :
    d.nearest declared = (declared d.own).or (d.parent?.bind (·.nearest declared)) := by
  obtain ⟨own, ancestors⟩ := d
  cases ancestors <;> cases hown : declared own <;> simp [nearest, chain, parent?, hown]

theorem safeOptions_eq :
    d.safeOptions = d.parent?.elim [] (·.safeOptions) ++ d.own.safeOptions := by
  obtain ⟨own, ancestors⟩ := d
  cases ancestors <;> simp [safeOptions, chain, parent?]

theorem errorPatterns_eq :
    d.errorPatterns = d.own.patterns ++ d.parent?.elim [] (·.errorPatterns) := by
  obtain ⟨own, ancestors⟩ := d
  cases ancestors <;> simp [errorPatterns, chain, parent?]

/-- A driver inherits from the next member of its chain. -/
theorem inherits_parent? : d.Inherits d.parent? where
  capability c := by
    rw [capability, nearest_eq]
    cases d.own.capabilities.get c <;> cases d.parent? <;> rfl
  semanticType native := by
    simp only [semanticType, nearest_eq d]
    generalize TypeName.lookup? (TypeName.normalize native) = shared
    cases d.own.type? (TypeName.normalize native) <;> cases d.parent? <;> simp
  nativeType type := nearest_eq d _
  slot slot := nearest_eq d _
  adminUser := nearest_eq d _
  parser := nearest_eq d _
  safeOptions := safeOptions_eq d
  errorPatterns := errorPatterns_eq d

end Driver

namespace Registry

variable {r r' r₁ r₂ : Registry} {d : Driver} {e : Descriptor} {id : String}

/-! ## Parents -/

/-- The next member of a chain is the driver that the parent identifier stands for. -/
theorem Sound.parent?_eq (h : r.Sound) (hd : d ∈ r.drivers) :
    d.parent? = d.own.parent.bind r.get? := by
  obtain ⟨own, ancestors⟩ := d
  have hascends := (h.rooted _ hd).ascends
  cases hascends with
  | last hnone => exact (Option.map_eq_none_iff.mp hnone).symm
  | step hsome hrest =>
      obtain ⟨parent, p, hparent, hget, rfl⟩ := exists_of_above? hsome
      -- The rest of the chain and the chain of the parent both lead up from the parent.
      have hchain := hrest.unique (h.rooted p (mem_of_get? hget)).ascends rfl
      rw [hparent, Option.bind_some, hget]
      exact congrArg some (Driver.eq_of_chain hchain)

/-- The root alone has nothing to look a parent up by; every other parent is registered. -/
theorem Sound.exists_parent (h : r.Sound) (hd : d ∈ r.drivers) {parent : String}
    (hparent : d.own.parent = some parent) : ∃ p, r.get? parent = some p := by
  have hascends := (h.rooted d hd).ascends
  obtain ⟨own, ancestors⟩ := d
  cases hascends with
  | last _ =>
      have hroot : own = r.root.own := Option.some.inj (h.rooted _ hd).ends
      rw [hroot, h.root_parent] at hparent
      exact nomatch hparent
  | step hsome _ =>
      obtain ⟨parent', p, hparent', hget, -⟩ := exists_of_above? hsome
      obtain rfl := Option.some.inj (hparent.symm.trans hparent')
      exact ⟨p, hget⟩

/-! ## Further registrations -/

/-- A call changes no driver that is registered already. -/
theorem get?_call (h : r.get? id = some d) (e : Descriptor) : (r.call e).2.get? id = some d := by
  rw [call_eq]
  cases hr : r.register e with
  | error error => exact h
  | ok r' =>
      obtain ⟨-, parent, p, -, -, rfl⟩ := register_eq_ok_iff.mp hr
      exact get?_add h

/-! ## Orders of registration -/

theorem map_own_get?_eq_some (h : r.DistinctIds) :
    (r.get? id).map Driver.own = some e ↔ e ∈ r.drivers.map Driver.own ∧ e.id = id := by
  rw [Option.map_eq_some_iff, List.mem_map]
  constructor
  · rintro ⟨d, hget, rfl⟩
    exact ⟨⟨d, mem_of_get? hget, rfl⟩, id_of_get? hget⟩
  · rintro ⟨⟨d, hd, rfl⟩, hid⟩
    exact ⟨d, (get?_eq_some h).mpr ⟨hd, hid⟩, rfl⟩

/-- The descriptor that an identifier stands for depends on the registered descriptors alone. -/
theorem map_own_get?_of_perm (h₁ : r₁.DistinctIds) (h₂ : r₂.DistinctIds)
    (hperm : (r₁.drivers.map Driver.own).Perm (r₂.drivers.map Driver.own)) (id : String) :
    (r₁.get? id).map Driver.own = (r₂.get? id).map Driver.own := by
  refine Option.ext fun e => ?_
  rw [map_own_get?_eq_some h₁, map_own_get?_eq_some h₂, hperm.mem_iff]

theorem Ascends.congr {chain : List Descriptor} (h : r₁.Ascends chain)
    (habove : ∀ e, r₁.above? e = r₂.above? e) : r₂.Ascends chain := by
  induction h with
  | last hnone => exact .last ((habove _).symm.trans hnone)
  | step hsome _ ih => exact .step ((habove _).symm.trans hsome) ih

/-- Registries of the same descriptors have the same drivers. -/
theorem Sound.get?_of_perm (h₁ : r₁.Sound) (h₂ : r₂.Sound)
    (hperm : (r₁.drivers.map Driver.own).Perm (r₂.drivers.map Driver.own))
    (hget : r₁.get? id = some d) : r₂.get? id = some d := by
  have hown := map_own_get?_of_perm h₁.distinct h₂.distinct hperm
  have habove : ∀ e, r₁.above? e = r₂.above? e := by
    intro e
    rw [above?, above?]
    cases e.parent with
    | none => rfl
    | some parent => exact hown parent
  have hsome := hown id
  rw [hget, Option.map_some] at hsome
  obtain ⟨d', hget', hsame⟩ := Option.map_eq_some_iff.mp hsome.symm
  have hascends := (h₁.rooted d (mem_of_get? hget)).ascends.congr habove
  have hascends' := (h₂.rooted d' (mem_of_get? hget')).ascends
  have hchain := hascends.unique hascends' (congrArg some hsame.symm)
  rw [hget', Driver.eq_of_chain hchain]

theorem map_own_registerAll {ds : List Descriptor} (h : r.registerAll ds = .ok r') :
    r'.drivers.map Driver.own = r.drivers.map Driver.own ++ ds := by
  induction ds generalizing r with
  | nil =>
      obtain rfl := Except.ok.inj h
      exact (List.append_nil _).symm
  | cons e ds ih =>
      rw [registerAll, List.foldlM_cons] at h
      obtain ⟨r₁, hfirst, hrest⟩ := exists_of_bind_eq_ok h
      obtain ⟨-, parent, p, -, -, rfl⟩ := register_eq_ok_iff.mp hfirst
      rw [ih hrest, drivers_add, List.map_append, List.append_assoc]
      rfl

/-- The order in which descriptors are registered does not show. -/
theorem get?_registerAll_of_perm (h : r.Reachable) {ds ds' : List Descriptor} (hperm : ds.Perm ds')
    (h₁ : r.registerAll ds = .ok r₁) (h₂ : r.registerAll ds' = .ok r₂) (id : String) :
    r₁.get? id = r₂.get? id := by
  have hsound₁ := (h.registerAll h₁).sound
  have hsound₂ := (h.registerAll h₂).sound
  have howns : (r₁.drivers.map Driver.own).Perm (r₂.drivers.map Driver.own) := by
    rw [map_own_registerAll h₁, map_own_registerAll h₂]
    exact hperm.append_left _
  refine Option.ext fun d => ⟨?_, ?_⟩
  · exact hsound₁.get?_of_perm hsound₂ howns
  · exact hsound₂.get?_of_perm hsound₁ howns.symm

/-! ## Answers -/

/-- What the answers of a registry depend on. -/
structure Hereditary (r : Registry) : Prop where
  /-- Parents are registered. -/
  parents : ∀ d ∈ r.drivers, ∀ parent, d.own.parent = some parent → ∃ p, r.get? parent = some p
  /-- Every answer is the driver's own, or else its parent's. -/
  inherits : ∀ d ∈ r.drivers, d.Inherits (d.own.parent.bind r.get?)
  /-- A further registration leaves every driver as it was, and its way up to the root. -/
  stable : ∀ e id d, r.get? id = some d →
    (r.call e).2.get? id = some d ∧ (r.call e).2.Ascends d.chain
  /-- Any two orders of registration lead to the same drivers. -/
  orderless : ∀ ds ds' r₁ r₂, ds.Perm ds' → r.registerAll ds = .ok r₁ →
    r.registerAll ds' = .ok r₂ → ∀ id, r₁.get? id = r₂.get? id

/-- However a registry grew, its answers come from the registered descriptors by inheritance. -/
theorem reachable_hereditary (h : r.Reachable) : r.Hereditary where
  parents d hd parent := h.sound.exists_parent hd
  inherits d hd := by
    rw [← h.sound.parent?_eq hd]
    exact d.inherits_parent?
  stable e id d hget := by
    have hcall := get?_call hget e
    exact ⟨hcall, ((h.call e).sound.rooted d (mem_of_get? hcall)).ascends⟩
  orderless _ _ _ _ hperm h₁ h₂ := get?_registerAll_of_perm h hperm h₁ h₂

/-- Two drivers below the root that can be registered in either order. -/
theorem siblings_hereditary :
    ∃ r r₁ r₂ : Registry, r.Reachable ∧ r.Hereditary ∧
      r.registerAll [H2.descriptor, Sqlite.descriptor] = .ok r₁ ∧
      r.registerAll [Sqlite.descriptor, H2.descriptor] = .ok r₂ ∧
      r₁.drivers.map Driver.id = ["sql", "h2", "sqlite"] ∧
      r₂.drivers.map Driver.id = ["sql", "sqlite", "h2"] ∧ ∀ id, r₁.get? id = r₂.get? id := by
  have hroot : Reachable ⟨⟨Ansi.descriptor, []⟩, []⟩ := .root (e := Ansi.descriptor) rfl
  have hhereditary := reachable_hereditary hroot
  have hswap : [H2.descriptor, Sqlite.descriptor].Perm [Sqlite.descriptor, H2.descriptor] :=
    .swap _ _ []
  exact ⟨_, _, _, hroot, hhereditary, rfl, rfl, rfl, rfl,
    hhereditary.orderless _ _ _ _ hswap rfl rfl⟩

end Registry

end Sluice
