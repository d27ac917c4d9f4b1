import Mathlib.Data.List.Induction
import Sluice.Proofs.Registry.Inheritance

/-!
# Declared drivers

A configuration declares drivers one after the other. Each of them has to use known flags, a new
identifier and a known parent; the first that does not is what a failure reports. The registry then
holds the built-in and the declared drivers, and every declared one descends from one of the former.
-/

namespace Sluice

/-- What holds of every element and those before it holds so for the last one and for the others. -/
theorem forall_parts_concat {α : Type} {P : List α → α → Prop} {l : List α} {a : α} :
    (∀ earlier x later, l ++ [a] = earlier ++ x :: later → P earlier x) ↔
      (∀ earlier x later, l = earlier ++ x :: later → P earlier x) ∧ P l a := by
  constructor
  · intro h
    refine ⟨fun earlier x later hsplit => ?_, h l a [] rfl⟩
    exact h earlier x (later ++ [a]) (by simp [hsplit])
  · rintro ⟨hall, hlast⟩ earlier x later hsplit
    rcases List.eq_nil_or_concat later with rfl | ⟨later, last, rfl⟩
    · obtain ⟨rfl, heq⟩ := List.append_inj' hsplit rfl
      exact List.singleton_inj.mp heq ▸ hlast
    · rw [List.concat_eq_append, ← List.cons_append, ← List.append_assoc] at hsplit
      exact hall earlier x later (List.append_inj' hsplit rfl).1

/-! ## Flags -/

/-- The name of some feature. -/
def IsFlag (s : String) : Prop := ∃ c : Capability, c.flag = s

theorem Capability.ofFlag_eq_error {s : String} {error : Error} :
    ofFlag s = .error error ↔ ¬ IsFlag s ∧ error = .configuration (.unknownCapability s) := by
  constructor
  · intro h
    constructor
    · rintro ⟨c, rfl⟩
      rw [ofFlag_flag] at h
      exact nomatch h
    · rw [ofFlag] at h
      split at h
      · exact nomatch h
      · exact (Except.error.inj h).symm
  · rintro ⟨hunknown, rfl⟩
    rw [ofFlag]
    split
    · next c hfind =>
        have hflag : c.flag = s := by simpa using List.find?_some hfind
        exact (hunknown ⟨c, hflag⟩).elim
    · rfl

namespace DriverConfig

variable {d : DriverConfig} {e : Descriptor} {error : Error} {flag flag' : String}

/-- Every flag of the declaration is the name of a feature. -/
def HasKnownFlags (d : DriverConfig) : Prop := ∀ p ∈ d.capabilities.entries, IsFlag p.1

/-- A flag that no feature has, the first of its kind in the order of names. -/
structure FirstUnknownFlag (d : DriverConfig) (flag : String) : Prop where
  declared : ∃ value, (flag, value) ∈ d.capabilities.entries
  unknown : ¬ IsFlag flag
  first : ∀ p ∈ d.capabilities.entries, p.1 < flag → IsFlag p.1

theorem FirstUnknownFlag.unique (h : d.FirstUnknownFlag flag) (h' : d.FirstUnknownFlag flag') :
    flag = flag' := by
  obtain ⟨value, hmem⟩ := h.declared
  obtain ⟨value', hmem'⟩ := h'.declared
  have hle : flag ≤ flag' := String.not_lt.mp fun hlt => h'.unknown (h.first _ hmem' hlt)
  have hge : flag' ≤ flag := String.not_lt.mp fun hlt => h.unknown (h'.first _ hmem hlt)
  exact String.le_antisymm hle hge

theorem FirstUnknownFlag.not_hasKnownFlags (h : d.FirstUnknownFlag flag) : ¬ d.HasKnownFlags := by
  obtain ⟨value, hmem⟩ := h.declared
  exact fun hknown => h.unknown (hknown _ hmem)

/-- Declare the feature that a flag names. -/
def declareFlag (s : CapabilitySet) (p : String × Bool) : Except Error CapabilitySet :=
  (Capability.ofFlag p.1).map fun c => s.set c p.2

theorem declareFlag_eq_error {s : CapabilitySet} {p : String × Bool} :
    declareFlag s p = .error error ↔
      ¬ IsFlag p.1 ∧ error = .configuration (.unknownCapability p.1) := by
  rw [← Capability.ofFlag_eq_error, declareFlag]
  cases Capability.ofFlag p.1 <;> simp [Except.map]

theorem isFlag_of_foldlM {s s' : CapabilitySet} {ps : List (String × Bool)}
    (h : ps.foldlM declareFlag s = .ok s') : ∀ p ∈ ps, IsFlag p.1 := by
  intro p hp
  by_contra hunknown
  obtain ⟨before, after, rfl⟩ := List.append_of_mem hp
  rw [List.foldlM_append] at h
  obtain ⟨s₁, -, hrest⟩ := exists_of_bind_eq_ok h
  rw [List.foldlM_cons, declareFlag_eq_error.mpr ⟨hunknown, rfl⟩] at hrest
  exact nomatch hrest

/-- What a declaration describes, once its features are known. -/
def describe (d : DriverConfig) (capabilities : CapabilitySet) : Descriptor where
  id := d.id
  displayName := d.displayName.getD d.id
  parent := some d.parent
  capabilities
  types := d.typeMap.entries.map fun (native, type) => (TypeName.normalize native, type)
  adminUser := d.adminUser

theorem toDescriptor_eq (d : DriverConfig) :
    d.toDescriptor = (d.capabilities.entries.foldlM declareFlag {}).map d.describe := by
  change (d.capabilities.entries.foldlM declareFlag {} >>= fun s => pure (d.describe s)) = _
  cases d.capabilities.entries.foldlM declareFlag {} <;> rfl

theorem of_toDescriptor (h : d.toDescriptor = .ok e) : e.id = d.id ∧ e.parent = some d.parent := by
  rw [toDescriptor_eq] at h
  obtain ⟨s, -, rfl⟩ := exists_of_map_eq_ok h
  exact ⟨rfl, rfl⟩

/-- A declaration describes a driver exactly if all its flags are known. -/
theorem exists_toDescriptor_iff : (∃ e, d.toDescriptor = .ok e) ↔ d.HasKnownFlags := by
  rw [toDescriptor_eq]
  constructor
  · rintro ⟨e, he⟩
    obtain ⟨s, hs, -⟩ := exists_of_map_eq_ok he
    exact isFlag_of_foldlM hs
  · intro hknown
    cases hfold : d.capabilities.entries.foldlM declareFlag {} with
    | ok s => exact ⟨_, rfl⟩
    | error error =>
        obtain ⟨before, p, after, s, hsplit, -, hp⟩ := foldlM_eq_error_iff.mp hfold
        have hunknown := (declareFlag_eq_error.mp hp).1
        exact (hunknown (hknown p (by simp [hsplit]))).elim

theorem exists_firstUnknownFlag (h : d.toDescriptor = .error error) :
    ∃ flag, d.FirstUnknownFlag flag ∧ error = .configuration (.unknownCapability flag) := by
  have hfold : d.capabilities.entries.foldlM declareFlag {} = .error error := by
    rw [toDescriptor_eq] at h
    cases hfold : d.capabilities.entries.foldlM declareFlag {} with
    | ok s =>
        rw [hfold] at h
        exact nomatch h
    | error error' =>
        rw [hfold] at h
        exact congrArg Except.error (Except.error.inj h)
  obtain ⟨before, p, after, s, hsplit, hbefore, hp⟩ := foldlM_eq_error_iff.mp hfold
  obtain ⟨hunknown, rfl⟩ := declareFlag_eq_error.mp hp
  refine ⟨p.1, ⟨⟨p.2, by simp [hsplit]⟩, hunknown, fun q hq hlt => ?_⟩, rfl⟩
  have hincreasing := d.capabilities.increasing
  rw [hsplit, List.pairwise_append, List.pairwise_cons] at hincreasing
  rw [hsplit] at hq
  rcases List.mem_append.mp hq with hq | hq
  · exact isFlag_of_foldlM hbefore q hq
  · -- what stands behind the flag is not smaller
    have hle : p.1 ≤ q.1 := by
      rcases List.mem_cons.mp hq with rfl | hq
      · exact String.le_refl _
      · exact String.not_lt.mp (String.lt_asymm (hincreasing.2.1.1 q hq))
    exact (String.not_lt.mpr hle hlt).elim

/-- The error of a declaration names its first unknown flag. -/
theorem toDescriptor_eq_error :
    d.toDescriptor = .error error ↔
      ∃ flag, d.FirstUnknownFlag flag ∧ error = .configuration (.unknownCapability flag) := by
  refine ⟨exists_firstUnknownFlag, ?_⟩
  rintro ⟨flag, hflag, rfl⟩
  cases hresult : d.toDescriptor with
  | ok e => exact (hflag.not_hasKnownFlags (exists_toDescriptor_iff.mp ⟨e, hresult⟩)).elim
  | error error =>
      obtain ⟨flag', hflag', rfl⟩ := exists_firstUnknownFlag hresult
      rw [hflag.unique hflag']

end DriverConfig

namespace Registry

variable {r r' : Registry} {d : DriverConfig} {x b b' : Driver} {earlier ds : List DriverConfig}
  {error : Error} {id : String}

/-! ## Declarations -/

def builtinIds : List String := builtin.drivers.map Driver.id

/-- The identifiers that are taken after some declarations. -/
def takenIds (earlier : List DriverConfig) : List String := builtinIds ++ earlier.map (·.id)

/-- A declaration that can be followed after earlier ones. -/
structure Acceptable (earlier : List DriverConfig) (d : DriverConfig) : Prop where
  flags : d.HasKnownFlags
  fresh : d.id ∉ takenIds earlier
  parent : d.parent ∈ takenIds earlier

/-- What is reported about a declaration that cannot be followed after earlier ones. -/
inductive Rejects (earlier : List DriverConfig) (d : DriverConfig) : Error → Prop where
  | flag {flag} : d.FirstUnknownFlag flag →
      Rejects earlier d (.configuration (.unknownCapability flag))
  | duplicate : d.HasKnownFlags → d.id ∈ takenIds earlier →
      Rejects earlier d (.duplicateDriver d.id)
  | parent : d.HasKnownFlags → d.id ∉ takenIds earlier → d.parent ∉ takenIds earlier →
      Rejects earlier d (.unknownParent d.id d.parent)

/-- Every declaration can be followed after those before it. -/
def AllAcceptable (ds : List DriverConfig) : Prop :=
  ∀ earlier d later, ds = earlier ++ d :: later → Acceptable earlier d

theorem allAcceptable_nil : AllAcceptable [] := by
  intro earlier d later hsplit
  simp at hsplit

theorem allAcceptable_concat : AllAcceptable (ds ++ [d]) ↔ AllAcceptable ds ∧ Acceptable ds d :=
  forall_parts_concat

/-- The built-in driver that is met first on the way up from a driver. -/
structure NearestBuiltin (x b : Driver) : Prop where
  builtin : b ∈ builtin.drivers
  below : ∃ below, x.chain = below ++ b.chain ∧ ∀ e ∈ below, e.id ∉ builtinIds

/-- The registry consists of the built-in drivers and the declared ones. -/
structure Holds (ds : List DriverConfig) (r : Registry) : Prop where
  drivers : ∃ declared, r.drivers = builtin.drivers ++ declared ∧
    List.Forall₂ (fun d x => d.toDescriptor = .ok x.own) ds declared
  descends : ∀ x ∈ r.drivers, ∃! b, NearestBuiltin x b

theorem NearestBuiltin.chain_eq (h : NearestBuiltin x b) :
    b.chain = x.chain.dropWhile fun e => decide (e.id ∉ builtinIds) := by
  obtain ⟨below, hchain, hbelow⟩ := h.below
  have hb : b.own.id ∈ builtinIds := List.mem_map_of_mem (f := Driver.id) h.builtin
  rw [hchain, List.dropWhile_append_of_pos (by simpa using hbelow)]
  exact (List.dropWhile_cons_of_neg (by simpa using hb)).symm

theorem NearestBuiltin.unique (h : NearestBuiltin x b) (h' : NearestBuiltin x b') : b = b' :=
  Driver.eq_of_chain (h.chain_eq.trans h'.chain_eq.symm)

theorem NearestBuiltin.existsUnique (h : NearestBuiltin x b) : ∃! b, NearestBuiltin x b :=
  ⟨b, h, fun _ h' => h'.unique h⟩

theorem builtin_holds : Holds [] builtin where
  drivers := ⟨[], (List.append_nil _).symm, .nil⟩
  descends x hx := by
    have hself : NearestBuiltin x x := ⟨hx, [], rfl, by simp⟩
    exact hself.existsUnique

theorem Holds.map_id (h : Holds ds r) : r.drivers.map Driver.id = takenIds ds := by
  obtain ⟨declared, hdrivers, hdeclared⟩ := h.drivers
  have hids : List.Forall₂ (fun d x => d.id = Driver.id x) ds declared :=
    hdeclared.imp fun _ _ hx => (DriverConfig.of_toDescriptor hx).1.symm
  rw [hdrivers, List.map_append, takenIds, builtinIds]
  congr 1
  rw [← List.forall₂_eq_eq_eq, List.forall₂_map_left_iff, List.forall₂_map_right_iff]
  exact hids.flip.imp fun _ _ heq => heq.symm

theorem Holds.get?_eq_none (h : Holds ds r) : r.get? id = none ↔ id ∉ takenIds ds := by
  rw [Registry.get?_eq_none, ← h.map_id, List.mem_map]
  simp

/-! ### One declaration -/

theorem register_eq_error_iff {e : Descriptor} {parent : String}
    (hparent : e.parent = some parent) :
    r.register e = .error error ↔
      (r.get? e.id ≠ none ∧ error = .duplicateDriver e.id) ∨
        r.get? e.id = none ∧ r.get? parent = none ∧ error = .unknownParent e.id parent := by
  rw [register, contains, hparent]
  cases r.get? e.id with
  | some x => simp [eq_comm]
  | none => cases hget : r.get? parent <;> simp [hget, eq_comm]

/-- Follow one declaration. -/
def declare (r : Registry) (d : DriverConfig) : Except Error Registry :=
  d.toDescriptor >>= r.register

theorem Holds.declare (h : Holds ds r) (hr : r.declare d = .ok r') : Holds (ds ++ [d]) r' := by
  obtain ⟨e, he, hregister⟩ := exists_of_bind_eq_ok hr
  obtain ⟨hfree, parent, p, -, hget, rfl⟩ := register_eq_ok_iff.mp hregister
  obtain ⟨declared, hdrivers, hdeclared⟩ := h.drivers
  constructor
  · refine ⟨declared ++ [⟨e, p.chain⟩], ?_, List.rel_append hdeclared (.cons he .nil)⟩
    rw [drivers_add, hdrivers, List.append_assoc]
  · intro x hx
    rw [drivers_add] at hx
    rcases List.mem_append.mp hx with hx | hx
    · exact h.descends x hx
    · obtain rfl := List.mem_singleton.mp hx
      obtain ⟨b, hb, -⟩ := h.descends p (mem_of_get? hget)
      obtain ⟨below, hchain, hbelow⟩ := hb.below
      have hnew : e.id ∉ builtinIds := by
        have htaken := h.get?_eq_none.mp hfree
        rw [takenIds] at htaken
        exact fun hmem => htaken (List.mem_append_left _ hmem)
      refine NearestBuiltin.existsUnique (b := b) ⟨hb.builtin, e :: below, ?_, ?_⟩
      · rw [List.cons_append, ← hchain, Driver.chain]
      · exact List.forall_mem_cons.mpr ⟨hnew, hbelow⟩

/-- A declaration is followed exactly if it is acceptable. -/
theorem Holds.exists_declare_iff (h : Holds ds r) :
    (∃ r', r.declare d = .ok r') ↔ Acceptable ds d := by
  constructor
  · rintro ⟨r', hr⟩
    obtain ⟨e, he, hregister⟩ := exists_of_bind_eq_ok hr
    obtain ⟨hid, hparent⟩ := DriverConfig.of_toDescriptor he
    obtain ⟨hfree, parent, p, hp, hget, -⟩ := register_eq_ok_iff.mp hregister
    obtain rfl := Option.some.inj (hp.symm.trans hparent)
    refine ⟨DriverConfig.exists_toDescriptor_iff.mp ⟨e, he⟩, ?_, ?_⟩
    · rw [← hid]
      exact h.get?_eq_none.mp hfree
    · by_contra hunknown
      rw [h.get?_eq_none.mpr hunknown] at hget
      exact nomatch hget
  · rintro ⟨hflags, hfresh, hparent⟩
    obtain ⟨e, he⟩ := DriverConfig.exists_toDescriptor_iff.mpr hflags
    obtain ⟨hid, hp⟩ := DriverConfig.of_toDescriptor he
    cases hget : r.get? d.parent with
    | none => exact (h.get?_eq_none.mp hget hparent).elim
    | some p =>
        refine ⟨r.add ⟨e, p.chain⟩, ?_⟩
        rw [Registry.declare, he]
        exact register_eq_ok_iff.mpr
          ⟨h.get?_eq_none.mpr (hid ▸ hfresh), d.parent, p, hp, hget, rfl⟩

/-- A declaration that cannot be followed is reported for the first reason there is. -/
theorem Holds.declare_eq_error (h : Holds ds r) :
    r.declare d = .error error ↔ Rejects ds d error := by
  cases hresult : d.toDescriptor with
  | error error' =>
      obtain ⟨flag, hflag, rfl⟩ := DriverConfig.toDescriptor_eq_error.mp hresult
      rw [Registry.declare, hresult]
      constructor
      · intro herror
        obtain rfl := Except.error.inj herror
        exact .flag hflag
      · rintro (hflag' | ⟨hknown, -⟩ | ⟨hknown, -, -⟩)
        · rw [hflag.unique hflag']
          rfl
        · exact (hflag.not_hasKnownFlags hknown).elim
        · exact (hflag.not_hasKnownFlags hknown).elim
  | ok e =>
      have hknown : d.HasKnownFlags := DriverConfig.exists_toDescriptor_iff.mp ⟨e, hresult⟩
      obtain ⟨hid, hparent⟩ := DriverConfig.of_toDescriptor hresult
      rw [Registry.declare, hresult]
      change r.register e = .error error ↔ _
      rw [register_eq_error_iff hparent, hid, Ne, h.get?_eq_none, h.get?_eq_none, not_not]
      constructor
      · rintro (⟨htaken, rfl⟩ | ⟨hfresh, hunknown, rfl⟩)
        · exact .duplicate hknown htaken
        · exact .parent hknown hfresh hunknown
      · rintro (hflag | ⟨-, htaken⟩ | ⟨-, hfresh, hunknown⟩)
        · exact (hflag.not_hasKnownFlags hknown).elim
        · exact .inl ⟨htaken, rfl⟩
        · exact .inr ⟨hfresh, hunknown, rfl⟩

/-! ### All declarations -/

theorem addConfigured_concat (r : Registry) (ds : List DriverConfig) (d : DriverConfig) :
    r.addConfigured (ds ++ [d]) = r.addConfigured ds >>= fun r => r.declare d := by
  have hsingle : ∀ r : Registry, r.addConfigured [d] = r.declare d := by
    intro r
    change r.declare d >>= pure = r.declare d
    exact bind_pure _
  rw [addConfigured, List.foldlM_append]
  exact congrArg _ (funext hsingle)

theorem holds_of_addConfigured (h : builtin.addConfigured ds = .ok r) : Holds ds r := by
  induction ds using List.reverseRecOn generalizing r with
  | nil =>
      obtain rfl := Except.ok.inj h
      exact builtin_holds
  | append_singleton ds d ih =>
      rw [addConfigured_concat] at h
      obtain ⟨r₁, hrun, hlast⟩ := exists_of_bind_eq_ok h
      exact (ih hrun).declare hlast

theorem exists_addConfigured_iff :
    (∃ r, builtin.addConfigured ds = .ok r) ↔ AllAcceptable ds := by
  induction ds using List.reverseRecOn with
  | nil => exact iff_of_true ⟨builtin, rfl⟩ allAcceptable_nil
  | append_singleton ds d ih =>
      rw [allAcceptable_concat, ← ih]
      constructor
      · rintro ⟨r', hr'⟩
        rw [addConfigured_concat] at hr'
        obtain ⟨r, hr, hlast⟩ := exists_of_bind_eq_ok hr'
        exact ⟨⟨r, hr⟩, (holds_of_addConfigured hr).exists_declare_iff.mp ⟨r', hlast⟩⟩
      · rintro ⟨⟨r, hr⟩, hlast⟩
        obtain ⟨r', hr'⟩ := (holds_of_addConfigured hr).exists_declare_iff.mpr hlast
        exact ⟨r', by rw [addConfigured_concat, hr]; exact hr'⟩

/-- A failure reports the first declaration that cannot be followed. -/
theorem addConfigured_eq_error :
    builtin.addConfigured ds = .error error ↔
      ∃ earlier d later, ds = earlier ++ d :: later ∧ AllAcceptable earlier ∧
        Rejects earlier d error := by
  rw [addConfigured, foldlM_eq_error_iff]
  constructor
  · rintro ⟨earlier, d, later, r, rfl, hrun, herror⟩
    refine ⟨earlier, d, later, rfl, exists_addConfigured_iff.mp ⟨r, hrun⟩, ?_⟩
    exact (holds_of_addConfigured hrun).declare_eq_error.mp herror
  · rintro ⟨earlier, d, later, rfl, hearlier, hrejects⟩
    obtain ⟨r, hrun⟩ := exists_addConfigured_iff.mpr hearlier
    refine ⟨earlier, d, later, r, rfl, hrun, ?_⟩
    exact (holds_of_addConfigured hrun).declare_eq_error.mpr hrejects

/-! ## Configurations -/

/-- What becomes of a configuration. -/
structure Configures (c : Config) : Prop where
  /-- It is accepted exactly if every declaration can be followed. -/
  accepted_iff : (∃ r, ofConfig c = .ok r) ↔ AllAcceptable c.drivers
  /-- The registry holds the built-in and the declared drivers, the latter below the former. -/
  holds : ∀ r, ofConfig c = .ok r → Holds c.drivers r
  /-- Otherwise the first declaration that cannot be followed is reported. -/
  rejected_iff : ∀ error, ofConfig c = .error error ↔
    ∃ earlier d later, c.drivers = earlier ++ d :: later ∧ AllAcceptable earlier ∧
      Rejects earlier d error

/-- A configuration makes a registry of all its drivers, or is rejected for its first declaration
that cannot be followed. -/
theorem ofConfig_configures (c : Config) : Configures c where
  accepted_iff := exists_addConfigured_iff
  holds _ := holds_of_addConfigured
  rejected_iff _ := addConfigured_eq_error

-- an unknown flag is reported before an unknown parent
example : ofConfig { drivers := [
    { id := "replica", parent := "h2",
      capabilities := ⟨[("full-join", true), ("regex", false)], by decide⟩ },
    { id := "cache", parent := "replica" },
    { id := "sql", parent := "missing",
      capabilities := ⟨[("regex", true), ("teleport", true), ("warp", false)], by decide⟩ }] } =
      .error (.configuration (.unknownCapability "teleport")) := by
  rfl

end Registry

end Sluice
