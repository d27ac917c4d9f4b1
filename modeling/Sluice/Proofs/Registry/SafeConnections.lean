import Sluice.Catalog
import Sluice.Proofs.ConnectionString.SafeOptions
import Sluice.Proofs.Registry.Growth

/-!
# Safe connections

A connection is opened with the safe options of the whole chain applied, and those of the nearest
member have the last word. Nothing that is configured below H2 takes its safe options away.
-/

namespace Sluice

open Text

namespace SafeOption

variable {os : List SafeOption} {o : SafeOption} {key : String}

theorem Decides.prepend (h : Decides os key o) (earlier : List SafeOption) :
    Decides (earlier ++ os) key o := by
  obtain ⟨before, after, rfl, hmatch, hafter⟩ := h
  exact ⟨earlier ++ before, after, (List.append_assoc _ _ _).symm, hmatch, hafter⟩

theorem Decides.append (h : Decides os key o) {later : List SafeOption}
    (hlater : SafeOption.matched later key = false) : Decides (os ++ later) key o := by
  obtain ⟨before, after, rfl, hmatch, hafter⟩ := h
  refine ⟨before, after ++ later, List.append_assoc _ _ _, hmatch, ?_⟩
  rw [SafeOption.matched, List.any_append, Bool.or_eq_false_iff]
  exact ⟨hafter, hlater⟩

theorem matched_flatMap_eq_false {chain : List Descriptor}
    (h : ∀ e ∈ chain, matched e.safeOptions key = false) :
    matched (chain.flatMap (·.safeOptions)) key = false := by
  simp only [matched, List.any_flatMap, List.any_eq_false, Bool.not_eq_true] at h ⊢
  exact h

end SafeOption

open SafeOption

namespace Driver

variable {d : Driver} {nearer farther : List Descriptor} {e : Descriptor}

theorem safeOptions_of_chain (h : d.chain = nearer ++ e :: farther) :
    d.safeOptions = farther.reverse.flatMap (·.safeOptions) ++
      (e.safeOptions ++ nearer.reverse.flatMap (·.safeOptions)) := by
  rw [safeOptions, h, List.reverse_append, List.reverse_cons, List.flatMap_append,
    List.flatMap_append, List.append_assoc, List.flatMap_singleton]

/-- The nearest member of the chain with a safe option for a key decides on it. -/
theorem decides_of_nearest {key : String} {o : SafeOption} (h : d.chain = nearer ++ e :: farther)
    (hnearer : ∀ x ∈ nearer, matched x.safeOptions key = false)
    (he : Decides e.safeOptions key o) : Decides d.safeOptions key o := by
  rw [safeOptions_of_chain h]
  refine (he.append (matched_flatMap_eq_false fun x hx => ?_)).prepend _
  exact hnearer x (List.mem_reverse.mp hx)

theorem mem_safeOptions {o : SafeOption} :
    o ∈ d.safeOptions ↔ ∃ e ∈ d.chain, o ∈ e.safeOptions := by
  simp only [safeOptions, List.mem_flatMap, List.mem_reverse]

end Driver

/-! ## Configured drivers -/

namespace Registry

variable {c : Config} {r : Registry} {d : Driver}

/-- Built-in drivers cannot be replaced. -/
theorem get?_of_builtin {id : String} (hd : builtin.get? id = some d) (h : ofConfig c = .ok r) :
    r.get? id = some d := by
  refine ofConfig_preserves (P := fun r => r.get? id = some d) hd
    (fun r c e r' hr _ hregister => ?_) h
  obtain ⟨-, parent, p, -, -, rfl⟩ := register_eq_ok_iff.mp hregister
  exact get?_add hr

/-- H2 alone has safe options. -/
theorem safeOptions_of_mem_chain (h : ofConfig c = .ok r) (hd : d ∈ r.drivers) :
    ∀ e ∈ d.chain, e.safeOptions = [] ∨ e = H2.descriptor := by
  refine ofConfig_chain (P := fun e => e.safeOptions = [] ∨ e = H2.descriptor) ?_ ?_ h hd
  · simp only [List.forall_mem_cons]
    exact ⟨.inl rfl, .inr trivial, .inl rfl, .inl rfl, List.forall_mem_nil _⟩
  · exact fun c e he => .inl (toDescriptor_eq_ok he).2

/-- Whoever descends from H2 has the descriptor of H2 in the chain, and no other safe options
nearer than that. -/
theorem exists_chain_of_h2 (h : ofConfig c = .ok r) (hd : d ∈ r.drivers)
    (hh2 : d.inheritsFrom H2.id = true) :
    ∃ nearer farther, d.chain = nearer ++ H2.descriptor :: farther ∧
      ∀ e ∈ nearer, e.safeOptions = [] := by
  have hsound := (ofConfig_reachable h).sound
  obtain ⟨e, he, hid⟩ := Driver.inheritsFrom_iff.mp hh2
  have hh2own : e = H2.descriptor := by
    obtain ⟨p, hp, rfl⟩ := hsound.registered hd e he
    have hget := (get?_eq_some hsound.distinct).mpr ⟨hp, hid⟩
    have hbuiltin : r.get? H2.id = some ⟨H2.descriptor, [Ansi.descriptor]⟩ :=
      get?_of_builtin rfl h
    rw [Option.some.inj (hget.symm.trans hbuiltin)]
  subst hh2own
  obtain ⟨nearer, farther, hchain⟩ := List.append_of_mem he
  refine ⟨nearer, farther, hchain, fun x hx => ?_⟩
  -- A nearer member with safe options would be H2 again.
  have hmem : x ∈ d.chain := hchain ▸ List.mem_append_left _ hx
  refine (safeOptions_of_mem_chain h hd x hmem).resolve_right ?_
  rintro rfl
  have hdistinct := (hsound.rooted d hd).distinct
  rw [hchain, List.map_append, List.map_cons, List.nodup_append] at hdistinct
  exact hdistinct.2.2 _ (List.mem_map_of_mem hx) _ List.mem_cons_self rfl

theorem decides_of_h2 (h : ofConfig c = .ok r) (hd : d ∈ r.drivers)
    (hh2 : d.inheritsFrom H2.id = true) {key : String} {o : SafeOption}
    (ho : Decides H2.descriptor.safeOptions key o) : Decides d.safeOptions key o := by
  obtain ⟨nearer, farther, hchain, hnearer⟩ := exists_chain_of_h2 h hd hh2
  refine Driver.decides_of_nearest hchain (fun x hx => ?_) ho
  rw [hnearer x hx]
  rfl

/-- All safe options of configured drivers can be written. -/
theorem safeOptions_writable (h : ofConfig c = .ok r) (hd : d ∈ r.drivers) :
    ∀ o ∈ d.safeOptions, o.Writable := by
  intro o ho
  obtain ⟨e, he, hoe⟩ := Driver.mem_safeOptions.mp ho
  rcases safeOptions_of_mem_chain h hd e he with hnone | rfl
  · rw [hnone] at hoe
    exact (List.not_mem_nil hoe).elim
  · have hall : ∀ o ∈ H2.descriptor.safeOptions, ∀ entry ∈ o.forced, entry.1 ≠ "" ∧
        '=' ∉ entry.1.toList ∧ ';' ∉ entry.1.toList ∧ ';' ∉ entry.2.toList := by
      decide +kernel
    intro entry hentry
    obtain ⟨hnonempty, hequals, hkey, hvalue⟩ := hall o hoe entry hentry
    exact ⟨hnonempty, hequals, hkey, hvalue⟩

end Registry

/-! ## Opening connections -/

/-- The options under which H2 opens only a database that exists, only for reading, and without
running anything. -/
structure ConnectionDescriptor.OnlyReads (d : ConnectionDescriptor) : Prop where
  mode : d.options.filter (fun entry => eqIgnoreCase entry.1 "ACCESS_MODE_DATA") =
    [("ACCESS_MODE_DATA", "r")]
  existing : d.options.filter (fun entry => eqIgnoreCase entry.1 "IFEXISTS") =
    [("IFEXISTS", "TRUE")]
  init : d.options.filter (fun entry => eqIgnoreCase entry.1 "INIT") = []

theorem onlyReads_of_h2 {c : Config} {r : Registry} {driver : Driver}
    (h : Registry.ofConfig c = .ok r) (hdriver : driver ∈ r.drivers)
    (hh2 : driver.inheritsFrom H2.id = true) (d : ConnectionDescriptor) :
    (d.applySafeOptions driver.safeOptions).OnlyReads := by
  have hmode : Decides H2.descriptor.safeOptions "ACCESS_MODE_DATA"
      (.force "ACCESS_MODE_DATA" "r") := ⟨[], _, rfl, by decide +kernel, by decide +kernel⟩
  have hexisting : Decides H2.descriptor.safeOptions "IFEXISTS" (.force "IFEXISTS" "TRUE") :=
    ⟨[_], _, rfl, by decide +kernel, by decide +kernel⟩
  have hinit : Decides H2.descriptor.safeOptions "INIT" (.strip "INIT") :=
    ⟨[_, _], _, rfl, by decide +kernel, by decide +kernel⟩
  exact {
    mode := ConnectionDescriptor.filter_applySafeOptions
      (Registry.decides_of_h2 h hdriver hh2 hmode)
    existing := ConnectionDescriptor.filter_applySafeOptions
      (Registry.decides_of_h2 h hdriver hh2 hexisting)
    init := ConnectionDescriptor.filter_applySafeOptions
      (Registry.decides_of_h2 h hdriver hh2 hinit) }

example : (ConnectionDescriptor.decode "mem:a;Init=x;A=b;access_mode_data=rws").map
    (fun d => (d.applySafeOptions H2.descriptor.safeOptions).encode) =
      .ok "mem:a;A=b;ACCESS_MODE_DATA=r;IFEXISTS=TRUE" := by
  decide +kernel

namespace Catalog

variable {κ : Type} {c : Catalog κ} {r : Registry} {m : Metadata} {d : Driver} {k : Connector κ}

theorem acquire_of_nearest (hd : r.get? m.driverId = some d)
    (hk : d.Declares (fun e => c.get? e.id) k) :
    c.acquire r m = k.connect (m.descriptor.applySafeOptions d.safeOptions) := by
  have hconnector : c.connectorFor? d = some k := Driver.declares_iff.mp hk
  simp only [acquire, Registry.resolve_of_get? hd, hconnector]

theorem acquire_of_none (hd : r.get? m.driverId = some d)
    (hnone : ∀ e ∈ d.chain, c.get? e.id = none) :
    c.acquire r m = .error (.notSupported (.connections m.driverId)) := by
  have hconnector : c.connectorFor? d = none := Driver.nearest_eq_none.mpr hnone
  simp only [acquire, Registry.resolve_of_get? hd, hconnector]

end Catalog

/-- What a driver of a registry makes of the connections that are opened with it. -/
structure Driver.Protects (r : Registry) (driver : Driver) : Prop where
  /-- The nearest member of the chain with a safe option for a key decides on it. -/
  nearest : ∀ nearer e farther key o, driver.chain = nearer ++ e :: farther →
    (∀ x ∈ nearer, matched x.safeOptions key = false) → Decides e.safeOptions key o →
    Decides driver.safeOptions key o
  /-- Descriptors that were read can be written and read again after the safe options. -/
  rereads : ∀ s d, ConnectionDescriptor.decode s = .ok d →
    ConnectionDescriptor.decode (d.applySafeOptions driver.safeOptions).encode =
      .ok (d.applySafeOptions driver.safeOptions)
  /-- Below H2 databases are only read. -/
  onlyReads : driver.inheritsFrom H2.id = true →
    ∀ d : ConnectionDescriptor, (d.applySafeOptions driver.safeOptions).OnlyReads
  /-- The nearest member of the chain with a connector gets just the descriptor with the safe
  options. -/
  acquires : ∀ {κ : Type} (catalog : Catalog κ) (m : Metadata) (k : Connector κ),
    m.driverId = driver.id → driver.Declares (fun e => catalog.get? e.id) k →
    catalog.acquire r m = k.connect (m.descriptor.applySafeOptions driver.safeOptions)
  /-- Nothing is opened without a connector. -/
  refuses : ∀ {κ : Type} (catalog : Catalog κ) (m : Metadata), m.driverId = driver.id →
    (∀ e ∈ driver.chain, catalog.get? e.id = none) →
    catalog.acquire r m = .error (.notSupported (.connections driver.id))

/-- Safe options are enforced on every descriptor, and on every connection of every driver of a
configured registry. -/
theorem safeOptions_protect :
    (∀ (d : ConnectionDescriptor) (os : List SafeOption), d.Enforces os) ∧
      ∀ (c : Config) (r : Registry), Registry.ofConfig c = .ok r →
        ∀ driver ∈ r.drivers, driver.Protects r := by
  refine ⟨ConnectionDescriptor.enforces, fun c r h driver hdriver => ?_⟩
  have hget : ∀ m : Metadata, m.driverId = driver.id → r.get? m.driverId = some driver :=
    fun m hm => (Registry.get?_eq_some (Registry.ofConfig_reachable h).sound.distinct).mpr
      ⟨hdriver, hm.symm⟩
  exact {
    nearest := fun _ _ _ _ _ => Driver.decides_of_nearest
    rereads := fun _ _ hs => ConnectionDescriptor.decode_encode_applySafeOptions hs
      (Registry.safeOptions_writable h hdriver)
    onlyReads := onlyReads_of_h2 h hdriver
    acquires := fun _ m _ hm => Catalog.acquire_of_nearest (hget m hm)
    refuses := fun _ m hm hnone => hm ▸ Catalog.acquire_of_none (hget m hm) hnone }

/-- A driver two steps below H2, known only from a configuration. -/
theorem grandchild_protects :
    ∃ r driver, Registry.ofConfig {
        drivers := [{ id := "replica", parent := "h2" }, { id := "cache", parent := "replica" }] } =
          .ok r ∧
      driver ∈ r.drivers ∧ driver.chain.map (·.id) = ["cache", "replica", "h2", "sql"] ∧
      driver.inheritsFrom H2.id = true ∧ driver.Protects r := by
  let replica : Descriptor := { id := "replica", displayName := "replica", parent := some "h2" }
  let cache : Descriptor := { id := "cache", displayName := "cache", parent := some "replica" }
  let driver : Driver := ⟨cache, [replica, H2.descriptor, Ansi.descriptor]⟩
  let r := (Registry.builtin.add ⟨replica, [H2.descriptor, Ansi.descriptor]⟩).add driver
  have hr : Registry.ofConfig {
      drivers := [{ id := "replica", parent := "h2" }, { id := "cache", parent := "replica" }] } =
        .ok r := rfl
  have hdriver : driver ∈ r.drivers := by
    rw [Registry.drivers_add]
    exact List.mem_append_right _ List.mem_cons_self
  exact ⟨r, driver, hr, hdriver, rfl, by decide +kernel,
    safeOptions_protect.2 _ r hr driver hdriver⟩

end Sluice
