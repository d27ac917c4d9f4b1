import Sluice.Backend.Ansi
import Sluice.Proofs.Translation.Writer
import Sluice.Registry

/-!
# Faithful drivers

An operation is faithful if it writes its operands in the order in which it takes them, between
inert texts. A driver is faithful if every slot along its chain is, and the chain ends at the
standard, so that no slot is empty.
-/

namespace Sluice

open Text Scan

/-! ## Operations -/

/-- An operation that passes on what its operand writes. -/
def Operation.Faithful (op : Operation) : Prop :=
  ∀ vs x, Emits vs x → Emits vs fun put => op (x put)

/-- An operation that passes on what its two operands write. -/
def FaithfulBoth (op : TranslateM String → TranslateM String → TranslateM String) : Prop :=
  ∀ vs ws x y, Emits vs x → Emits ws y → Emits (vs ++ ws) fun put => op (x put) (y put)

theorem faithful_around {before after : String} (hbefore : Inert before.toList)
    (hafter : Joint after) : (Operation.around before after).Faithful :=
  fun _ _ h => h.around hbefore hafter

theorem faithful_throw (error : Error) : Operation.Faithful fun _ => throw error :=
  fun vs _ _ => emits_throw error vs

/-- Two operands that are taken in the order in which they are given. -/
theorem faithfulBoth_inOrder (before between after : String) {form : String → String → String}
    (hbefore : Inert before.toList) (hbetween : Joint between) (hafter : Joint after)
    (hform : ∀ a b, form a b = before ++ (a ++ (between ++ (b ++ after)))) :
    FaithfulBoth fun x y => do
      let a ← x
      let b ← y
      return form a b :=
  fun _ _ _ _ h h' => h.both hbefore hbetween hafter h' hform

/-- Two operands of which the second is taken first. -/
theorem faithfulBoth_swapped {op : TranslateM String → TranslateM String → TranslateM String}
    (h : FaithfulBoth op) : FaithfulBoth fun x y => op y x := by
  intro vs ws x y hx hy
  refine (h ws vs y x hy hx).congr fun v => ?_
  rw [List.mem_append, List.mem_append]
  exact Or.comm

/-! ## Dialects and descriptors -/

/-- Every slot that is filled is faithful, and names, casts and placeholders have their forms. -/
structure Dialect.Faithful (d : Dialect) : Prop where
  truncate : ∀ op ∈ d.truncate, ∀ unit, (op unit).Faithful
  extract : ∀ op ∈ d.extract, ∀ field, (op field).Faithful
  intervalAdd : ∀ op ∈ d.intervalAdd, ∀ unit, FaithfulBoth (op unit)
  dayOfWeek : ∀ op ∈ d.dayOfWeek, op.Faithful
  cast : ∀ op ∈ d.cast, ∀ native : String, Inert native.toList → (op native).Faithful
  placeholder : ∀ mark ∈ d.placeholder, ∀ n, IsMark (mark n)
  quoteIdentifier : ∀ quote ∈ d.quoteIdentifier, ∀ name, Inert (quote name).toList
  regexMatch : ∀ form ∈ d.regexMatch, FaithfulBoth fun x y => do
    let text ← x
    let pattern ← y
    return form text pattern

/-- The dialect is faithful and the native names for casts are inert. -/
structure Descriptor.Faithful (e : Descriptor) : Prop where
  dialect : e.dialect.Faithful
  casts : ∀ entry ∈ e.casts, Inert entry.2.toList

theorem dialect_empty_faithful : Dialect.Faithful {} :=
  ⟨nofun, nofun, nofun, nofun, nofun, nofun, nofun, nofun⟩

/-- A descriptor that adds no slot and no cast is faithful. -/
theorem Descriptor.faithful_of_empty {e : Descriptor} (hdialect : e.dialect = {})
    (hcasts : e.casts = []) : e.Faithful := by
  refine ⟨?_, ?_⟩
  · rw [hdialect]
    exact dialect_empty_faithful
  · rw [hcasts]
    exact nofun

/-! ## Drivers -/

/-- Every descriptor of the chain is faithful, and the standard is among them. -/
structure Driver.Faithful (d : Driver) : Prop where
  chain : ∀ e ∈ d.chain, e.Faithful
  standard : Ansi.descriptor ∈ d.chain

namespace Driver.Faithful

variable {d : Driver}

/-- A slot that the standard fills is filled by some descriptor of the chain. -/
theorem slot (hd : d.Faithful) {α : Type} (slot : Dialect → Option α)
    (hstandard : (slot Ansi.dialect).isSome) (name : String) :
    ∃ a, d.slot name slot = .ok a ∧ ∃ e : Descriptor, e.Faithful ∧ a ∈ slot e.dialect := by
  have hsome : (d.chain.findSome? fun e => slot e.dialect).isSome :=
    List.findSome?_isSome_iff.mpr ⟨Ansi.descriptor, hd.standard, hstandard⟩
  obtain ⟨a, ha⟩ := Option.isSome_iff_exists.mp hsome
  obtain ⟨e, he, hslot⟩ := List.exists_of_findSome?_eq_some ha
  refine ⟨a, ?_, e, hd.chain e he, hslot⟩
  simp only [Driver.slot, Driver.slot?, Driver.nearest, ha]

theorem nativeType (hd : d.Faithful) {target : SemanticType} {native : String}
    (h : d.nativeType? target = some native) : Inert native.toList := by
  obtain ⟨e, he, hcast⟩ := List.exists_of_findSome?_eq_some h
  obtain ⟨before, after, hcasts, -⟩ := List.lookup_eq_some_iff.mp hcast
  have hmem : (target, native) ∈ e.casts.reverse := by
    rw [hcasts]
    exact List.mem_append_right before List.mem_cons_self
  exact (hd.chain e he).casts (target, native) (List.mem_reverse.mp hmem)

end Driver.Faithful

/-! ## Registries -/

namespace Registry

/-- A driver below a faithful one is faithful if its own descriptor is. -/
theorem faithful_child {e : Descriptor} {parent : Driver} (he : e.Faithful)
    (hparent : parent.Faithful) : Driver.Faithful ⟨e, parent.chain⟩ := by
  refine ⟨?_, List.mem_cons_of_mem e hparent.standard⟩
  intro f hf
  rcases List.mem_cons.mp hf with rfl | hf
  · exact he
  · exact hparent.chain f hf

/-- Registration keeps the drivers of a registry faithful. -/
theorem register_faithful {r r' : Registry} {e : Descriptor} (he : e.Faithful)
    (hr : ∀ d ∈ r.drivers, d.Faithful) (h : r.register e = .ok r') :
    ∀ d ∈ r'.drivers, d.Faithful := by
  rw [register] at h
  split at h
  · exact nomatch h
  · split at h
    · exact nomatch h
    · split at h
      · exact nomatch h
      · rename_i parent hparent
        obtain rfl := Except.ok.inj h
        have hchild := faithful_child he (hr parent (List.mem_of_find?_eq_some hparent))
        intro d hd
        rcases List.mem_cons.mp hd with rfl | hd
        · exact hr _ List.mem_cons_self
        · rcases List.mem_append.mp hd with hd | hd
          · exact hr d (List.mem_cons_of_mem _ hd)
          · rw [List.mem_singleton.mp hd]
            exact hchild

end Registry

end Sluice
