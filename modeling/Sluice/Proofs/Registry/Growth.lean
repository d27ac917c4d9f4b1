import Mathlib.Data.List.Nodup
import Sluice.Proofs.Registry.Lookup
import Sluice.Proofs.Translation.Slots
import Sluice.Registry.Builtin

/-!
# Growing registries

A registry starts from its root and grows by registrations, any of which may fail. A driver is added
only below one that is already there, and none is ever replaced. So whoever follows the parent
identifiers from a driver comes to the root, without meeting an identifier twice.
-/

namespace Sluice

namespace Registry

variable {r r' : Registry} {d p : Driver} {e : Descriptor} {id : String}

/-! ## Looking up and adding -/

/-- Identifiers that stand for one driver each. -/
def DistinctIds (r : Registry) : Prop := (r.drivers.map Driver.id).Nodup

theorem mem_of_get? (h : r.get? id = some d) : d ∈ r.drivers := List.mem_of_find?_eq_some h

theorem id_of_get? (h : r.get? id = some d) : d.id = id :=
  beq_iff_eq.mp (List.find?_some (p := fun d : Driver => d.id == id) h)

theorem get?_eq_some (h : r.DistinctIds) : r.get? id = some d ↔ d ∈ r.drivers ∧ d.id = id := by
  constructor
  · exact fun hget => ⟨mem_of_get? hget, id_of_get? hget⟩
  · rintro ⟨hd, rfl⟩
    cases hget : r.get? d.id with
    | none => exact (get?_eq_none.mp hget d hd rfl).elim
    | some x => rw [List.inj_on_of_nodup_map h (mem_of_get? hget) hd (id_of_get? hget)]

/-- The registry with one more driver. -/
def add (r : Registry) (d : Driver) : Registry := { r with others := r.others ++ [d] }

@[simp]
theorem drivers_add : (r.add d).drivers = r.drivers ++ [d] := rfl

@[simp]
theorem root_add : (r.add d).root = r.root := rfl

theorem get?_add (h : r.get? id = some p) : (r.add d).get? id = some p := by
  rw [get?, drivers_add, List.find?_append]
  exact congrArg (Option.or · _) h

theorem DistinctIds.add (h : r.DistinctIds) (hfree : r.get? d.id = none) :
    (r.add d).DistinctIds := by
  rw [DistinctIds, drivers_add, List.map_append, List.map_singleton, List.nodup_append]
  refine ⟨h, List.nodup_singleton _, ?_⟩
  rintro _ hmem _ (_ | ⟨_, ⟨⟩⟩)
  obtain ⟨x, hx, rfl⟩ := List.mem_map.mp hmem
  exact get?_eq_none.mp hfree x hx

theorem ofRoot_eq_ok_iff :
    ofRoot e = .ok r ↔
      e.parent = none ∧ e.dialect.missingSlots = [] ∧ r = ⟨⟨e, []⟩, []⟩ := by
  rw [ofRoot]
  cases e.parent with
  | some parent => simp
  | none => cases e.dialect.missingSlots <;> simp [eq_comm]

/-- A registration succeeds for a new identifier below a known one. -/
theorem register_eq_ok_iff :
    r.register e = .ok r' ↔
      r.get? e.id = none ∧
        ∃ parent p, e.parent = some parent ∧ r.get? parent = some p ∧ r' = r.add ⟨e, p.chain⟩ := by
  rw [register, contains]
  cases r.get? e.id with
  | some d => simp
  | none =>
      cases e.parent with
      | none => simp
      | some parent => cases hparent : r.get? parent <;> simp [hparent, add, eq_comm]

/-! ## Calls -/

/-- A registration as a step on the registry: checks that may fail, and the new entry last. -/
def registering (e : Descriptor) : ExceptT Error (StateM Registry) Unit := do
  let r ← get
  if r.contains e.id then throw (.duplicateDriver e.id)
  else
    match e.parent with
    | none => throw (.configuration (.parentless e.id r.root.id))
    | some parent =>
      match r.get? parent with
      | none => throw (.unknownParent e.id parent)
      | some p => set (r.add ⟨e, p.chain⟩)

/-- Call a registration: its outcome, and the registry afterwards. -/
def call (r : Registry) (e : Descriptor) : Except Error Unit × Registry :=
  Id.run (StateT.run (ExceptT.run (registering e)) r)

/-- A call has the outcome of the registration and changes the registry only if that succeeds. -/
theorem call_eq :
    r.call e = match r.register e with
      | .ok r' => (.ok (), r')
      | .error error => (.error error, r) := by
  have hget : ∀ f : Registry → ExceptT Error (StateM Registry) Unit,
      Id.run (StateT.run (ExceptT.run (get >>= f)) r) = Id.run (StateT.run (ExceptT.run (f r)) r) :=
    fun _ => rfl
  rw [call, registering, hget, register]
  split
  · rfl
  · cases e.parent with
    | none => rfl
    | some parent =>
        dsimp only
        cases r.get? parent <;> rfl

/-- A call that fails leaves the registry as it was. -/
theorem call_of_error {error : Error} (h : (r.call e).1 = .error error) : (r.call e).2 = r := by
  rw [call_eq] at h ⊢
  cases hregister : r.register e with
  | ok r' =>
      rw [hregister] at h
      exact nomatch h
  | error error' => rfl

/-- The registries that some calls lead to from an accepted root. -/
inductive Reachable : Registry → Prop where
  | root {e : Descriptor} {r : Registry} : ofRoot e = .ok r → Reachable r
  | call {r : Registry} (e : Descriptor) : Reachable r → Reachable (r.call e).2

theorem Reachable.register (h : r.Reachable) (hr : r.register e = .ok r') : r'.Reachable := by
  have hcall := h.call e
  rwa [call_eq, hr] at hcall

theorem Reachable.registerAll {ds : List Descriptor} (h : r.Reachable)
    (hr : r.registerAll ds = .ok r') : r'.Reachable :=
  foldlM_preserves Reachable (fun _ _ _ h hr => h.register hr) h hr

/-! ## Following parent identifiers -/

/-- The descriptor that the parent identifier of a descriptor stands for. -/
def above? (r : Registry) (e : Descriptor) : Option Descriptor :=
  (e.parent.bind r.get?).map Driver.own

/-- The descriptors that are met on the way up, from the first until there is none above. -/
inductive Ascends (r : Registry) : List Descriptor → Prop where
  | last {e : Descriptor} : r.above? e = none → Ascends r [e]
  | step {e above : Descriptor} {chain : List Descriptor} : r.above? e = some above →
      Ascends r (above :: chain) → Ascends r (e :: above :: chain)

variable {chain chain' : List Descriptor}

theorem above?_of_parent {parent : String} (h : e.parent = some parent)
    (hp : r.get? parent = some p) : r.above? e = some p.own := by
  rw [above?, h, Option.bind_some, hp, Option.map_some]

theorem exists_of_above? {above : Descriptor} (h : r.above? e = some above) :
    ∃ parent p, e.parent = some parent ∧ r.get? parent = some p ∧ p.own = above := by
  obtain ⟨p, hp, habove⟩ := Option.map_eq_some_iff.mp h
  obtain ⟨parent, hparent, hget⟩ := Option.bind_eq_some_iff.mp hp
  exact ⟨parent, p, hparent, hget, habove⟩

/-- There is only one way up. -/
theorem Ascends.unique (h : r.Ascends chain) (h' : r.Ascends chain')
    (hhead : chain.head? = chain'.head?) : chain = chain' := by
  induction h generalizing chain' with
  | last hnone =>
      cases h' with
      | last =>
          obtain rfl := Option.some.inj hhead
          rfl
      | step hsome =>
          obtain rfl := Option.some.inj hhead
          exact nomatch hnone.symm.trans hsome
  | step hsome _ ih =>
      cases h' with
      | last hnone =>
          obtain rfl := Option.some.inj hhead
          exact nomatch hnone.symm.trans hsome
      | step hsome' h' =>
          obtain rfl := Option.some.inj hhead
          rw [ih h' (hsome.symm.trans hsome')]

/-- All but the first are met because they are registered. -/
theorem Ascends.registered (h : r.Ascends chain) :
    ∀ x ∈ chain.tail, ∃ p ∈ r.drivers, p.own = x := by
  induction h with
  | last => exact fun x hx => (List.not_mem_nil hx).elim
  | step hsome _ ih =>
      intro x hx
      rcases List.mem_cons.mp hx with rfl | hx
      · obtain ⟨parent, p, -, hget, hown⟩ := exists_of_above? hsome
        exact ⟨p, mem_of_get? hget, hown⟩
      · exact ih x hx

/-- A way up to a descriptor without a parent stays as it is when drivers are added. -/
theorem Ascends.add (h : r.Ascends chain) (hlast : ∀ e ∈ chain.getLast?, e.parent = none) :
    (r.add d).Ascends chain := by
  induction h with
  | @last e =>
      refine .last ?_
      rw [above?, hlast e rfl, Option.bind_none, Option.map_none]
  | step hsome h ih =>
      obtain ⟨parent, p, hparent, hget, rfl⟩ := exists_of_above? hsome
      refine .step (above?_of_parent hparent (get?_add hget)) (ih fun e he => hlast e ?_)
      rwa [List.getLast?_cons_cons]

/-- The chain of a driver is its way up: from the driver to the root, through different drivers. -/
structure Rooted (r : Registry) (d : Driver) : Prop where
  starts : d.chain.head? = some d.own
  ascends : r.Ascends d.chain
  distinct : (d.chain.map Descriptor.id).Nodup
  ends : d.chain.getLast? = some r.root.own

/-- What every registration preserves. -/
structure Sound (r : Registry) : Prop where
  distinct : r.DistinctIds
  parentless : r.drivers.filter (·.own.parent.isNone) = [r.root]
  complete : r.root.own.dialect.missingSlots = []
  rooted : ∀ d ∈ r.drivers, r.Rooted d

theorem Sound.root_parent (h : r.Sound) : r.root.own.parent = none := by
  have hroot : r.root ∈ r.drivers.filter (·.own.parent.isNone) := by
    rw [h.parentless]
    exact List.mem_singleton_self r.root
  exact Option.isNone_iff_eq_none.mp (List.mem_filter.mp hroot).2

/-- The members of a chain are registered. -/
theorem Sound.registered (h : r.Sound) (hd : d ∈ r.drivers) :
    ∀ e ∈ d.chain, ∃ p ∈ r.drivers, p.own = e := by
  intro e he
  rcases List.mem_cons.mp he with rfl | he
  · exact ⟨d, hd, rfl⟩
  · exact (h.rooted d hd).ascends.registered e he

theorem ofRoot_sound (h : ofRoot e = .ok r) : r.Sound := by
  obtain ⟨hparent, hcomplete, rfl⟩ := ofRoot_eq_ok_iff.mp h
  refine ⟨List.nodup_singleton _, ?_, hcomplete, ?_⟩
  · exact List.filter_eq_self.mpr fun d hd => by
      rw [List.mem_singleton.mp hd, hparent, Option.isNone_none]
  · intro d hd
    rw [List.mem_singleton.mp hd]
    have habove : above? ⟨⟨e, []⟩, []⟩ e = none := by
      rw [above?, hparent, Option.bind_none, Option.map_none]
    exact ⟨rfl, .last habove, List.nodup_singleton _, rfl⟩

/-- A driver stays rooted when others are added. -/
theorem Rooted.add (h : r.Rooted p) (hroot : r.root.own.parent = none) : (r.add d).Rooted p := by
  refine ⟨h.starts, h.ascends.add fun e he => ?_, h.distinct, h.ends⟩
  rw [h.ends] at he
  rw [← Option.some.inj he, hroot]

/-- A new driver below a rooted one is rooted. -/
theorem Sound.rooted_child (h : r.Sound) {parent : String} (hfree : r.get? e.id = none)
    (hparent : e.parent = some parent) (hget : r.get? parent = some p) :
    (r.add ⟨e, p.chain⟩).Rooted ⟨e, p.chain⟩ := by
  have hp : p ∈ r.drivers := mem_of_get? hget
  have hrooted := h.rooted p hp
  refine ⟨rfl, ?_, ?_, ?_⟩
  · exact .step (above?_of_parent hparent (get?_add hget)) (hrooted.add h.root_parent).ascends
  · -- The chain above consists of registered drivers, and the new identifier is none of theirs.
    refine List.nodup_cons.mpr ⟨fun hmem => ?_, hrooted.distinct⟩
    obtain ⟨x, hx, hid⟩ := List.mem_map.mp hmem
    obtain ⟨known, hknown, rfl⟩ := h.registered hp x hx
    exact get?_eq_none.mp hfree known hknown hid
  · exact hrooted.ends

theorem register_sound (h : r.Sound) (hr : r.register e = .ok r') : r'.Sound := by
  obtain ⟨hfree, parent, p, hparent, hget, rfl⟩ := register_eq_ok_iff.mp hr
  refine ⟨h.distinct.add hfree, ?_, h.complete, fun d hd => ?_⟩
  · have hnew : [(⟨e, p.chain⟩ : Driver)].filter (·.own.parent.isNone) = [] := by
      simp [hparent]
    rw [drivers_add, List.filter_append, h.parentless, hnew, List.append_nil, root_add]
  · rw [drivers_add] at hd
    rcases List.mem_append.mp hd with hd | hd
    · exact (h.rooted d hd).add h.root_parent
    · rw [List.mem_singleton.mp hd]
      exact h.rooted_child hfree hparent hget

theorem call_sound (h : r.Sound) (e : Descriptor) : (r.call e).2.Sound := by
  rw [call_eq]
  cases hr : r.register e with
  | ok r' => exact register_sound h hr
  | error error => exact h

/-- Every registry is sound, however it grew. -/
theorem Reachable.sound (h : r.Reachable) : r.Sound := by
  induction h with
  | root hroot => exact ofRoot_sound hroot
  | call e _ ih => exact call_sound ih e

/-- A chain that ends at a complete dialect fills every slot. -/
theorem Sound.fillsSlots (h : r.Sound) (hd : d ∈ r.drivers) : d.FillsSlots :=
  Driver.fillsSlots_of_mem (List.mem_of_getLast? (h.rooted d hd).ends) h.complete

/-! ## Whatever was registered -/

/-- What can be relied on in a registry, and stays so whatever is registered next. -/
structure Coherent (r : Registry) : Prop where
  /-- Every chain is the finite way from its driver up to the root. -/
  rooted : ∀ d ∈ r.drivers, r.Rooted d
  /-- The root alone has no parent. -/
  parentless : r.drivers.filter (·.own.parent.isNone) = [r.root]
  /-- Every slot of a dialect has an operation for every driver. -/
  resolves : ∀ d ∈ r.drivers, ∀ {α : Type} {name : String} {slot : Dialect → Option α},
    IsSlot name slot → ∃ operation, d.slot name slot = .ok operation
  /-- No translation reports an empty slot, unless an operation of the dialect does it itself. -/
  translates : ∀ d ∈ r.drivers, (∀ e ∈ d.chain, e.dialect.Supplied) → d.MissesNoSlot
  /-- A registration that fails leaves the registry as it was. -/
  unchanged : ∀ e error, (r.call e).1 = .error error → (r.call e).2 = r

/-- However a registry grew from its root, its drivers can be relied on. -/
theorem reachable_coherent (h : r.Reachable) : r.Coherent where
  rooted := h.sound.rooted
  parentless := h.sound.parentless
  resolves d hd _ _ _ hslot := by
    obtain ⟨operation, hoperation, -⟩ := Driver.FillsSlots.slot (h.sound.fillsSlots hd) hslot
    exact ⟨operation, hoperation⟩
  translates d hd hdialects := Driver.Supplied.missesNoSlot ⟨h.sound.fillsSlots hd, hdialects⟩
  unchanged _ _ := call_of_error

/-- Two drivers below the root, and three calls that failed on the way. -/
theorem replica_coherent :
    ∃ r : Registry, r.Reachable ∧ r.drivers.map Driver.id = ["sql", "h2", "replica"] ∧
      r.Coherent := by
  have hroot : Reachable ⟨⟨Ansi.descriptor, []⟩, []⟩ := .root (e := Ansi.descriptor) rfl
  have hfailed := (((hroot.call H2.descriptor).call H2.descriptor).call (.ofId "replica")).call
    { Descriptor.ofId "replica" with parent := some "missing" }
  have h := hfailed.call { Descriptor.ofId "replica" with parent := some "h2" }
  exact ⟨_, h, by decide +kernel, reachable_coherent h⟩

/-! ## Configured registries -/

theorem builtin_reachable : builtin.Reachable := by
  have hroot : ofRoot Ansi.descriptor = .ok ⟨⟨Ansi.descriptor, []⟩, []⟩ := rfl
  have hrest : registerAll ⟨⟨Ansi.descriptor, []⟩, []⟩
      [H2.descriptor, Postgres.descriptor, Sqlite.descriptor] = .ok builtin := rfl
  exact (Reachable.root hroot).registerAll hrest

/-- A configuration declares neither slots nor safe options. -/
theorem toDescriptor_eq_ok {c : DriverConfig} (h : c.toDescriptor = .ok e) :
    e.dialect = {} ∧ e.safeOptions = [] := by
  obtain ⟨capabilities, -, hrest⟩ := exists_of_bind_eq_ok h
  obtain rfl := Except.ok.inj hrest
  exact ⟨rfl, rfl⟩

variable {c : Config}

/-- What registering configured drivers preserves holds of configured registries. -/
theorem ofConfig_preserves {P : Registry → Prop} (hbuiltin : P builtin)
    (hstep : ∀ r (c : DriverConfig) e r', P r → c.toDescriptor = .ok e →
      r.register e = .ok r' → P r')
    (h : ofConfig c = .ok r) : P r := by
  refine foldlM_preserves P (fun r c r' hr hrun => ?_) hbuiltin h
  obtain ⟨e, he, hregister⟩ := exists_of_bind_eq_ok hrun
  exact hstep r c e r' hr he hregister

theorem ofConfig_reachable (h : ofConfig c = .ok r) : r.Reachable :=
  ofConfig_preserves builtin_reachable (fun _ _ _ _ hr _ hregister => hr.register hregister) h

theorem mem_builtin (h : d ∈ builtin.drivers) :
    d.own ∈ [Ansi.descriptor, H2.descriptor, Postgres.descriptor, Sqlite.descriptor] :=
  List.mem_map_of_mem (f := Driver.own) h

/-- What holds of the built-in descriptors and of all that a configuration can declare holds along
every chain. -/
theorem ofConfig_chain {P : Descriptor → Prop}
    (hbuiltin : ∀ e ∈ [Ansi.descriptor, H2.descriptor, Postgres.descriptor, Sqlite.descriptor], P e)
    (hdeclared : ∀ (c : DriverConfig) e, c.toDescriptor = .ok e → P e) (h : ofConfig c = .ok r)
    (hd : d ∈ r.drivers) : ∀ e ∈ d.chain, P e := by
  have hall : ∀ p ∈ r.drivers, P p.own := by
    refine ofConfig_preserves (P := fun r => ∀ p ∈ r.drivers, P p.own)
      (fun p hp => hbuiltin p.own (mem_builtin hp)) (fun r c e r' hr he hregister => ?_) h
    obtain ⟨-, parent, above, -, -, rfl⟩ := register_eq_ok_iff.mp hregister
    intro p hp
    rw [drivers_add] at hp
    rcases List.mem_append.mp hp with hp | hp
    · exact hr p hp
    · rw [List.mem_singleton.mp hp]
      exact hdeclared c e he
  intro e he
  obtain ⟨p, hp, rfl⟩ := (ofConfig_reachable h).sound.registered hd e he
  exact hall p hp

/-- No translation for a configured driver reports an empty slot. -/
theorem ofConfig_missesNoSlot (h : ofConfig c = .ok r) (hd : d ∈ r.drivers) : d.MissesNoSlot := by
  have hfills : d.FillsSlots := (ofConfig_reachable h).sound.fillsSlots hd
  refine Driver.Supplied.missesNoSlot ⟨hfills, ofConfig_chain ?_ ?_ h hd⟩
  · simp only [List.forall_mem_cons]
    exact ⟨Ansi.dialect_supplied, H2.dialect_supplied, Postgres.dialect_supplied,
      Sqlite.dialect_supplied, List.forall_mem_nil _⟩
  · intro c e he
    rw [(toDescriptor_eq_ok he).1]
    exact dialect_empty_supplied

end Registry

end Sluice
