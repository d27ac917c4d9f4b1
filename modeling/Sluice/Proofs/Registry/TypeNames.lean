import Sluice.Proofs.Registry.Growth
import Sluice.Proofs.Registry.Lookup
import Sluice.Proofs.TypeName.Normalization

/-!
# Declared type names

A driver declares the types of native names one after the other. A later declaration takes the place
of an earlier one of the same normal form, and the nearest driver of a chain takes the place of the
farther ones. Names that nobody declares have the type that all backends share.
-/

namespace Sluice

namespace TypeName

/-- Both names have one normal form. -/
def Same (native native' : String) : Prop := normalize native = normalize native'

/-- Among declarations made in this order, the last one of the name says the type. -/
def LastDeclares (declarations : List (String × SemanticType)) (native : String)
    (type : SemanticType) : Prop :=
  ∃ before key after, declarations = before ++ (key, type) :: after ∧ Same key native ∧
    ∀ p ∈ after, ¬ Same p.1 native

end TypeName

namespace Descriptor

variable {e : Descriptor} {declarations : List (String × SemanticType)} {native : String}
  {type : SemanticType}

/-- Declare types one after the other. -/
def withTypes (e : Descriptor) (declarations : List (String × SemanticType)) : Descriptor :=
  declarations.foldl (fun e p => e.withType p.1 p.2) e

/-- The descriptor got its types by these declarations, and by no others. -/
def DeclaresTypes (e : Descriptor) (declarations : List (String × SemanticType)) : Prop :=
  ∃ bare : Descriptor, bare.types = [] ∧ bare.withTypes declarations = e

/-- The entry of the table that a declaration makes. -/
def typeEntry (p : String × SemanticType) : String × SemanticType := (TypeName.normalize p.1, p.2)

theorem withTypes_eq (e : Descriptor) (declarations : List (String × SemanticType)) :
    e.withTypes declarations = { e with types := e.types ++ declarations.map typeEntry } := by
  induction declarations generalizing e with
  | nil => simp [withTypes]
  | cons p declarations ih =>
      have hstep : e.withTypes (p :: declarations) =
          (e.withType p.1 p.2).withTypes declarations := rfl
      rw [hstep, ih]
      simp [withType, typeEntry]

theorem declaresTypes_iff :
    e.DeclaresTypes declarations ↔ e.types = declarations.map typeEntry := by
  constructor
  · intro h
    obtain ⟨bare, hbare, rfl⟩ := h
    rw [withTypes_eq, hbare, List.nil_append]
  · intro h
    refine ⟨{ e with types := [] }, rfl, ?_⟩
    rw [withTypes_eq, List.nil_append, ← h]

/-- A descriptor knows a name by its last declaration. -/
theorem type?_eq_some_iff (h : e.DeclaresTypes declarations) :
    e.type? (TypeName.normalize native) = some type ↔
      TypeName.LastDeclares declarations native type := by
  rw [type?, declaresTypes_iff.mp h, List.lookup_eq_some_iff]
  constructor
  · intro hlookup
    obtain ⟨later, earlier, hsplit, hlater⟩ := hlookup
    have htypes := congrArg List.reverse hsplit
    rw [List.reverse_reverse, List.reverse_append, List.reverse_cons, List.append_assoc,
      List.singleton_append, List.map_eq_append_iff] at htypes
    obtain ⟨before, rest, rfl, -, hrest⟩ := htypes
    obtain ⟨⟨key, type'⟩, after, rfl, hkey, hafter⟩ := List.map_eq_cons_iff.mp hrest
    obtain ⟨hnormal, rfl⟩ := Prod.mk.inj hkey
    refine ⟨before, key, after, rfl, hnormal, fun p hp hsame => ?_⟩
    have hmem : typeEntry p ∈ later := by
      rw [← List.mem_reverse, ← hafter]
      exact List.mem_map_of_mem hp
    exact (bne_iff_ne.mp (hlater _ hmem)) hsame.symm
  · intro hlast
    obtain ⟨before, key, after, rfl, hsame, hafter⟩ := hlast
    refine ⟨(after.map typeEntry).reverse, (before.map typeEntry).reverse, ?_, fun p hp => ?_⟩
    · simp only [List.map_append, List.map_cons, List.reverse_append, List.reverse_cons,
        List.append_assoc, List.singleton_append]
      rw [typeEntry, hsame]
    · rw [List.mem_reverse] at hp
      obtain ⟨q, hq, rfl⟩ := List.mem_map.mp hp
      exact bne_iff_ne.mpr fun heq => hafter q hq heq.symm

/-- The descriptor overrides the shared type of a name. -/
def Overrides (e : Descriptor) (native : String) (type : SemanticType) : Prop :=
  ∃ declarations, e.DeclaresTypes declarations ∧ TypeName.LastDeclares declarations native type

theorem overrides_iff (h : ∃ declarations, e.DeclaresTypes declarations) :
    e.Overrides native type ↔ e.type? (TypeName.normalize native) = some type := by
  constructor
  · intro hoverrides
    obtain ⟨declarations, hdeclares, hlast⟩ := hoverrides
    exact (type?_eq_some_iff hdeclares).mpr hlast
  · intro htype
    obtain ⟨declarations, hdeclares⟩ := h
    exact ⟨declarations, hdeclares, (type?_eq_some_iff hdeclares).mp htype⟩

end Descriptor

namespace Driver

variable {d : Driver} {native native' : String} {type : SemanticType}

/-- The type of a name: the nearest override of the chain, or what is shared by all. -/
inductive Types (d : Driver) (native : String) : SemanticType → Prop where
  | overridden {nearer e farther type} : d.chain = nearer ++ e :: farther →
      e.Overrides native type → (∀ x ∈ nearer, ∀ type', ¬ x.Overrides native type') →
      Types d native type
  | shared : (∀ e ∈ d.chain, ∀ type, ¬ e.Overrides native type) →
      Types d native (TypeName.semanticType native)

theorem semanticType_eq (d : Driver) (native : String) :
    d.semanticType native =
      (d.nearest (·.type? (TypeName.normalize native))).getD (TypeName.semanticType native) := by
  simp only [semanticType, TypeName.semanticType]
  generalize d.nearest (·.type? (TypeName.normalize native)) = declared
  cases declared <;> simp

theorem semanticType_congr (h : TypeName.normalize native = TypeName.normalize native') :
    d.semanticType native = d.semanticType native' := by
  simp only [semanticType, h]

theorem types_iff (h : ∀ e ∈ d.chain, ∃ declarations, e.DeclaresTypes declarations) :
    d.Types native type ↔ d.semanticType native = type := by
  have hnone : ∀ e ∈ d.chain, (∀ type, ¬ e.Overrides native type) ↔
      e.type? (TypeName.normalize native) = none := by
    intro e he
    simp only [Descriptor.overrides_iff (h e he)]
    exact Option.eq_none_iff_forall_ne_some.symm
  rw [semanticType_eq, ← resolves_iff]
  constructor
  · intro htypes
    cases htypes with
    | @overridden nearer e farther _ hchain hoverrides hnearer =>
        have he : e ∈ d.chain := by simp [hchain]
        refine .nearest ⟨nearer, e, farther, hchain, ?_, fun x hx => ?_⟩
        · exact (Descriptor.overrides_iff (h e he)).mp hoverrides
        · exact (hnone x (by simp [hchain, hx])).mp (hnearer x hx)
    | shared hchain => exact .standIn fun e he => (hnone e he).mp (hchain e he)
  · intro hresolves
    cases hresolves with
    | nearest hdeclares =>
        obtain ⟨nearer, e, farther, hchain, htype, hnearer⟩ := hdeclares
        have he : e ∈ d.chain := by simp [hchain]
        refine .overridden hchain ?_ fun x hx => ?_
        · exact (Descriptor.overrides_iff (h e he)).mpr htype
        · exact (hnone x (by simp [hchain, hx])).mpr (hnearer x hx)
    | standIn hchain => exact .shared fun e he => (hnone e he).mpr (hchain e he)

/-- How a driver reads the names of types. -/
structure ReadsTypes (d : Driver) : Prop where
  /-- No respelling of a name shows in the answer. -/
  respelled : ∀ native native',
    Relation.EqvGen TypeName.Respells native.toList native'.toList →
      d.semanticType native = d.semanticType native'
  /-- A chain of declared types answers by the nearest override. -/
  types : (∀ e ∈ d.chain, ∃ declarations, e.DeclaresTypes declarations) →
    ∀ native type, d.semanticType native = type ↔ d.Types native type

theorem readsTypes (d : Driver) : d.ReadsTypes where
  respelled _ _ h := semanticType_congr (TypeName.normalize_of_respells h)
  types h _ _ := (types_iff h).symm

end Driver

/-! ## Configured drivers -/

theorem Descriptor.declaresTypes_self {e : Descriptor}
    (h : ∀ p ∈ e.types, TypeName.normalize p.1 = p.1) : e.DeclaresTypes e.types := by
  rw [declaresTypes_iff]
  have hentry : ∀ p ∈ e.types, typeEntry p = p := fun p hp => Prod.ext (h p hp) rfl
  exact ((List.map_congr_left hentry).trans (List.map_id' e.types)).symm

namespace Registry

variable {c : Config} {r : Registry} {d : Driver}

theorem builtin_normalTypes :
    ∀ e ∈ [Ansi.descriptor, H2.descriptor, Postgres.descriptor, Sqlite.descriptor],
      ∀ p ∈ e.types, TypeName.normalize p.1 = p.1 := by
  decide +kernel

theorem declaresTypes_of_toDescriptor {c : DriverConfig} {e : Descriptor}
    (h : c.toDescriptor = .ok e) : e.DeclaresTypes c.typeMap.entries := by
  obtain ⟨capabilities, -, hrest⟩ := exists_of_bind_eq_ok h
  obtain rfl := Except.ok.inj hrest
  exact Descriptor.declaresTypes_iff.mpr rfl

/-- All drivers of a configured registry got their types by declarations. -/
theorem ofConfig_declaresTypes (h : ofConfig c = .ok r) (hd : d ∈ r.drivers) :
    ∀ e ∈ d.chain, ∃ declarations, e.DeclaresTypes declarations := by
  refine ofConfig_chain (fun e he => ?_) (fun c e he => ?_) h hd
  · exact ⟨e.types, Descriptor.declaresTypes_self (builtin_normalTypes e he)⟩
  · exact ⟨c.typeMap.entries, declaresTypes_of_toDescriptor he⟩

/-- Every driver reads every spelling of a name alike, and by the nearest override; every driver
that a configuration can declare has its overrides by declaration. -/
theorem readsTypes_of_ofConfig :
    (∀ d : Driver, d.ReadsTypes) ∧
      (∀ c r d, ofConfig c = .ok r → d ∈ r.drivers →
        ∀ e ∈ d.chain, ∃ declarations, e.DeclaresTypes declarations) ∧
      (∀ name, TypeName.EndsLikeArray (TypeName.normalize name) →
        TypeName.semanticType name = .other) ∧
      ∀ name, TypeName.normalize (TypeName.normalize name) = TypeName.normalize name :=
  ⟨Driver.readsTypes, fun _ _ _ => ofConfig_declaresTypes,
    fun _ => TypeName.semanticType_of_endsLikeArray, TypeName.normalize_normalize⟩

/-- A child of PostgreSQL that declares a name twice. -/
def jsonDriver : Driver :=
  ⟨(Descriptor.ofId "json").withTypes [("jsonb", .other), (" JSONB", .text)],
    [Postgres.descriptor, Ansi.descriptor]⟩

/-- The later of two declarations counts, also for a name with letters and parameters changed. -/
theorem jsonDriver_readsTypes :
    jsonDriver.semanticType "Json(1,(2))B " = jsonDriver.semanticType "JSONB" ∧
      jsonDriver.semanticType "JSONB" = .text ∧
      TypeName.semanticType "int4 array" = .other := by
  obtain ⟨hreads, -, harray, -⟩ := readsTypes_of_ofConfig
  have hdeclares : ∀ e ∈ jsonDriver.chain, ∃ declarations, e.DeclaresTypes declarations := by
    simp only [Driver.chain, jsonDriver, List.forall_mem_cons]
    exact ⟨⟨_, Descriptor.ofId "json", rfl, rfl⟩,
      ⟨_, Descriptor.declaresTypes_self (builtin_normalTypes _ (by simp))⟩,
      ⟨_, Descriptor.declaresTypes_self (builtin_normalTypes _ (by simp))⟩, List.forall_mem_nil _⟩
  refine ⟨(hreads jsonDriver).respelled _ _ ?_, ?_, harray _ ?_⟩
  · have hinner : TypeName.Balanced ['2'] := .char (by decide) (by decide) .nil
    have hparameters : TypeName.Balanced ['1', ',', '(', '2', ')'] :=
      .char (by decide) (by decide) (.char (by decide) (by decide) (.nested hinner .nil))
    have hfirst : TypeName.Respells "JSONB".toList "JsonB".toList := .recase (by decide)
    have hsecond : TypeName.Respells "JsonB".toList "Json(1,(2))B".toList :=
      .parameters ['J', 's', 'o', 'n'] ['B'] hparameters
    have hblank : Text.AllBlank [' '] := List.forall_mem_singleton.mpr (by decide)
    have hthird : TypeName.Respells "Json(1,(2))B".toList "Json(1,(2))B ".toList :=
      .trailing "Json(1,(2))B".toList hblank
    exact .symm _ _ (.trans _ _ _ (.rel _ _ hfirst) (.trans _ _ _ (.rel _ _ hsecond)
      (.rel _ _ hthird)))
  · have hsame : TypeName.normalize " JSONB" = TypeName.normalize "JSONB" := by decide +kernel
    have hchain : jsonDriver.chain = [] ++ jsonDriver.own :: jsonDriver.ancestors := rfl
    refine ((hreads jsonDriver).types hdeclares _ _).mpr (.overridden hchain ?_ ?_)
    · exact ⟨_, ⟨Descriptor.ofId "json", rfl, rfl⟩, [("jsonb", .other)], " JSONB", [], rfl, hsame,
        by simp⟩
    · simp
  · exact .inr (by decide +kernel)

end Registry

end Sluice
