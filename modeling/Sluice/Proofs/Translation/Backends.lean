import Sluice.Proofs.Outcome
import Sluice.Proofs.Translation.Faithful
import Sluice.Proofs.Translation.Frames
import Sluice.Registry.Builtin

/-!
# The built-in backends are faithful

Frames are faithful: they take their operands in the order of their text. So the dialects that are
made of them are faithful too. A configuration can only add drivers without slots of their own, so
all drivers of a configured registry are faithful.
-/

namespace Sluice

open Text Scan

/-! ## Frames -/

theorem FramedBoth.faithful {op : TranslateM String → TranslateM String → TranslateM String}
    (h : FramedBoth op) : FaithfulBoth op := by
  cases h with
  | inOrder before between after hbefore hbetween hafter hform =>
      exact faithfulBoth_inOrder before between after hbefore.inert hbetween.toJoint
        hafter.toJoint hform

theorem Operation.Framed.faithful {op : Operation} (h : op.Framed) : op.Faithful := by
  induction h with
  | operand => exact fun _ _ hx => hx
  | around hbefore hafter => exact faithful_around hbefore.inert hafter.toJoint
  | both hop _ _ ihFirst ihSecond =>
      intro vs x hx
      refine (hop.faithful vs vs _ _ (ihFirst vs x hx) (ihSecond vs x hx)).congr fun v => ?_
      rw [List.mem_append]
      exact or_self_iff
  | comp _ _ ihOuter ihInner => exact fun vs x hx => ihOuter vs _ (ihInner vs x hx)

/-- What a framed dialect leaves to show: units to which it is not asked to cut, names for casts
that may hold double quotes, and placeholders. -/
theorem Dialect.Framed.faithful {d : Dialect} {amountFirst : Prop} (h : d.Framed amountFirst)
    (htruncate : ∀ op ∈ d.truncate, ∀ unit : TruncateUnit, ¬ unit.IsCut → (op unit).Faithful)
    (hcast : ∀ op ∈ d.cast, ∀ native : String, Inert native.toList → (op native).Faithful)
    (hplaceholder : ∀ mark ∈ d.placeholder, ∀ n, IsMark (mark n)) : d.Faithful where
  truncate op hop unit := by
    by_cases hcut : unit.IsCut
    · exact (h.truncate op hop unit hcut).faithful
    · exact htruncate op hop unit hcut
  extract op hop field := (h.extract op hop field).faithful
  intervalAdd op hop unit := by
    obtain ⟨hfirst, hlast⟩ := h.intervalAdd op hop unit
    by_cases hamount : amountFirst
    · exact (hfirst hamount).faithful
    · exact faithfulBoth_swapped (hlast hamount).faithful
  dayOfWeek op hop := (h.dayOfWeek op hop).faithful
  cast := hcast
  placeholder := hplaceholder
  quoteIdentifier quote hquote name := by
    rw [h.quoteIdentifier quote hquote]
    exact inert_quoteName name
  regexMatch form hform := (h.regexMatch form hform).faithful

/-! ## The standard -/

namespace Ansi

theorem truncate_faithful {unit : TruncateUnit} (h : ¬ unit.IsCut) : (truncate unit).Faithful := by
  cases unit with
  | minute | hour | day | month | quarter | year => exact absurd (by constructor) h
  | week => exact faithful_around (inert_of_check (by decide)) joint_close
  | minuteOfHour | hourOfDay | dayOfWeek | dayOfMonth | monthOfYear | quarterOfYear =>
      exact faithful_throw _

theorem cast_faithful {name : String} (h : Inert name.toList) : (cast name).Faithful := by
  have hafter : Joint (" AS " ++ name ++ ")") :=
    ((joint_of_check (by decide)).append h).append (inert_of_check (by decide))
  exact faithful_around (inert_of_check (by decide)) hafter

theorem descriptor_faithful : descriptor.Faithful := by
  refine ⟨descriptor_framed.dialect.faithful ?_ ?_ ?_, fun entry hentry => ?_⟩
  · rintro _ ⟨⟩ unit
    exact truncate_faithful
  · rintro _ ⟨⟩ name
    exact cast_faithful
  · rintro _ ⟨⟩ n
    exact .inl rfl
  · exact (descriptor_framed.casts entry hentry).inert

end Ansi

/-! ## H2 -/

namespace H2

theorem truncate_faithful {unit : TruncateUnit} (h : ¬ unit.IsCut) : (truncate unit).Faithful := by
  cases unit with
  | minute | hour | day | month | quarter | year => exact absurd (by constructor) h
  | week | minuteOfHour | hourOfDay | dayOfWeek | dayOfMonth | monthOfYear | quarterOfYear =>
      exact faithful_throw _

theorem descriptor_faithful : descriptor.Faithful := by
  refine ⟨descriptor_framed.dialect.faithful ?_ nofun nofun, fun entry hentry => ?_⟩
  · rintro _ ⟨⟩ unit
    exact truncate_faithful
  · exact (descriptor_framed.casts entry hentry).inert

end H2

/-! ## PostgreSQL -/

namespace Postgres

theorem descriptor_faithful : descriptor.Faithful := by
  refine ⟨descriptor_framed.dialect.faithful nofun nofun ?_, fun entry hentry => ?_⟩
  · rintro _ ⟨⟩ n
    exact .inr ⟨n, rfl⟩
  · exact (descriptor_framed.casts entry hentry).inert

end Postgres

/-! ## SQLite -/

namespace Sqlite

theorem truncate_faithful {unit : TruncateUnit} (h : ¬ unit.IsCut) : (truncate unit).Faithful := by
  cases unit with
  | minute | hour | day | month | quarter | year => exact absurd (by constructor) h
  | week | minuteOfHour | hourOfDay | dayOfWeek | dayOfMonth | monthOfYear | quarterOfYear =>
      exact faithful_throw _

theorem cast_faithful {name : String} (h : Inert name.toList) : (cast name).Faithful := by
  rw [cast.eq_def]
  split
  · exact faithful_around (inert_of_check (by decide)) joint_close
  · exact faithful_around (inert_of_check (by decide)) joint_close
  · exact faithful_around (inert_of_check (by decide)) joint_close
  · exact Ansi.cast_faithful h

theorem descriptor_faithful : descriptor.Faithful := by
  refine ⟨descriptor_framed.dialect.faithful ?_ ?_ nofun, fun entry hentry => ?_⟩
  · rintro _ ⟨⟩ unit
    exact truncate_faithful
  · rintro _ ⟨⟩ name
    exact cast_faithful
  · exact (descriptor_framed.casts entry hentry).inert

end Sqlite

/-! ## Configured registries -/

namespace Registry

theorem builtin_faithful : ∀ d ∈ builtin.drivers, d.Faithful := by
  have hstandard : Driver.Faithful ⟨Ansi.descriptor, []⟩ := by
    refine ⟨?_, List.mem_cons_self⟩
    intro e he
    rw [List.mem_singleton.mp he]
    exact Ansi.descriptor_faithful
  intro d hd
  simp only [drivers, builtin, List.mem_cons, List.not_mem_nil, or_false] at hd
  rcases hd with rfl | rfl | rfl | rfl
  · exact hstandard
  · exact faithful_child H2.descriptor_faithful hstandard
  · exact faithful_child Postgres.descriptor_faithful hstandard
  · exact faithful_child Sqlite.descriptor_faithful hstandard

/-- A configuration declares neither slots nor casts. -/
theorem toDescriptor_faithful {c : DriverConfig} {e : Descriptor} (h : c.toDescriptor = .ok e) :
    e.Faithful := by
  obtain ⟨capabilities, -, hrest⟩ := exists_of_bind_eq_ok h
  obtain rfl := Except.ok.inj hrest
  exact Descriptor.faithful_of_empty rfl rfl

/-- Every driver of a configured registry is faithful. -/
theorem ofConfig_faithful {c : Config} {r : Registry} (h : ofConfig c = .ok r) :
    ∀ d ∈ r.drivers, d.Faithful := by
  refine foldlM_preserves (fun r => ∀ d ∈ r.drivers, d.Faithful) ?_ builtin_faithful h
  intro r c r' hr hstep
  obtain ⟨e, he, hregister⟩ := exists_of_bind_eq_ok hstep
  exact register_faithful (toDescriptor_faithful he) hr hregister

end Registry

end Sluice
