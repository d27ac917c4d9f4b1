import Sluice.Proofs.Translation.Backends
import Sluice.Proofs.Translation.Expressions

/-!
# Parameters stand in the order of their placeholders

Reading an emitted text shows which values were bound, in which order, and where. Written back in
place of its placeholders, they give the text without parameters.
-/

namespace Sluice

open Text Scan

/-! ## Running an emission -/

namespace Driver

variable {d : Driver}

theorem exists_placeholder (hd : d.Faithful) :
    ∃ placeholder, d.slot "placeholder" (·.placeholder) = .ok placeholder ∧
      ∀ n, IsMark (placeholder n) := by
  obtain ⟨placeholder, hslot, e, he, hmark⟩ := hd.slot (·.placeholder) rfl "placeholder"
  exact ⟨placeholder, hslot, he.dialect.placeholder placeholder hmark⟩

theorem after_bind {placeholder : Nat → String}
    (h : d.slot "placeholder" (·.placeholder) = .ok placeholder) (bound : List Value) (v : Value) :
    (d.bind v).after bound = (.ok (placeholder (bound.length + 1)), bound ++ [v]) := by
  have hlength : (bound ++ [v]).length = bound.length + 1 := List.length_append
  rw [bind, h, lift_ok, ← hlength]
  rfl

end Driver

/-- The text that a writer gives when every value is printed at its own place. -/
def Writer.rendering (w : Writer) (print : Value → String) : Except Error String :=
  ((w fun v => return print v).after []).1

/-- After `bound` earlier parameters, the text has a placeholder for each of `values`, numbered on,
and none else. The values are the literals of what was translated, and with their prints in place of
the placeholders the text is the rendering without parameters. -/
structure BindsInOrder (placeholder : Nat → String) (bound : Nat) (literals values : List Value)
    (text : String) (rendering : (Value → String) → Except Error String) : Prop where
  literals : ∀ v, v ∈ values ↔ v ∈ literals
  isBound : ∀ v ∈ values, v.isBound = true
  placeholders : placeholdersIn text = (List.range' (bound + 1) values.length).map placeholder
  filled : ∀ print, rendering print = .ok (fillIn text (values.map print))

section

variable {w : Writer} {vs : List Value} {e : Emission} {placeholder : Nat → String}

theorem Spells.bindsInOrder (h : Spells w vs e) (hmark : ∀ n, IsMark (placeholder n))
    (hbound : ∀ v ∈ vs, v.isBound = true) (hok : e.error? = none) (n : Nat) :
    BindsInOrder placeholder n vs e.values (e.render (fun i _ => placeholder i) n) w.rendering := by
  refine ⟨h.values hok, fun v hv => hbound v ((h.values hok v).mp hv), ?_, fun print => ?_⟩
  · rw [placeholdersIn, h.tidy.placeholders_render hmark, List.map_map]
    exact List.map_congr_left fun i _ => String.ofList_toList
  · have hfill := h.tidy.fill_render hmark print n
    rw [Writer.rendering, h.spell, Emission.after_spell_print print e [] n, Emission.result, hok,
      fillIn, List.map_map]
    exact congrArg Except.ok (String.ofList_toList.symm.trans (congrArg String.ofList hfill.symm))

theorem Spells.after {d : Driver} (h : Spells w vs e)
    (hslot : d.slot "placeholder" (·.placeholder) = .ok placeholder) (bound : List Value) :
    (w d.bind).after bound =
      (e.result (e.render (fun i _ => placeholder i) bound.length), bound ++ e.values) := by
  rw [h.spell]
  exact Emission.after_spell_bind (fun bound v => Driver.after_bind hslot bound v) e bound

/-- What a writer binds with the placeholders of a driver is added behind the earlier parameters. -/
theorem Emits.after_bind {d : Driver} (h : Emits vs w)
    (hslot : d.slot "placeholder" (·.placeholder) = .ok placeholder)
    (hmark : ∀ n, IsMark (placeholder n)) (hbound : ∀ v ∈ vs, v.isBound = true)
    (bound : List Value) :
    ∃ result added, (w d.bind).after bound = (result, bound ++ added) ∧
      ∀ text, result = .ok text →
        BindsInOrder placeholder bound.length vs added text w.rendering := by
  obtain ⟨e, hspells⟩ := h
  refine ⟨_, e.values, hspells.after hslot bound, fun text hresult => ?_⟩
  obtain ⟨hok, rfl⟩ := Emission.result_eq_ok hresult
  exact hspells.bindsInOrder hmark hbound hok bound.length

end

/-! ## Translations -/

namespace Driver

/-- A translation leaves the driver, the options and the earlier parameters alone, also when it
fails. What it adds, and what a compiled plan binds, stands in the order of the placeholders. -/
structure KeepsParameters (d : Driver) (options : TranslateOptions) (placeholder : Nat → String) :
    Prop where
  slot : d.slot "placeholder" (·.placeholder) = .ok placeholder
  translate : ∀ (bound : List Value) (e : Expr), ∃ result added,
    Translator.translate ⟨d, options, bound⟩ e = (result, ⟨d, options, bound ++ added⟩) ∧
      ∀ text, result = .ok text → BindsInOrder placeholder bound.length e.boundValues added text
        (Writer.rendering fun put => d.write options put e)
  compile : ∀ (p : Plan) (s : Statement), p.compile d options = .ok s →
    BindsInOrder placeholder 0 p.boundValues s.parameters s.sql
      (Writer.rendering fun put => d.writePlan options put p)

/-- A statement has the text of its step and what the step has bound. -/
theorem statement_eq_ok {d : Driver} {step : TranslateM String} {s : Statement}
    (h : d.statement step = .ok s) : step.after [] = (.ok s.sql, s.parameters) := by
  obtain ⟨text, htext, rfl⟩ := exists_of_map_eq_ok h
  exact Prod.ext htext rfl

theorem Faithful.keepsParameters {d : Driver} (hd : d.Faithful) (options : TranslateOptions) :
    ∃ placeholder, d.KeepsParameters options placeholder := by
  obtain ⟨placeholder, hslot, hmark⟩ := exists_placeholder hd
  refine ⟨placeholder, hslot, fun bound e => ?_, fun p s hs => ?_⟩
  · obtain ⟨result, added, hafter, hbinds⟩ := (write_emits hd options e).after_bind hslot hmark
      (fun _ => Expr.isBound_of_mem_boundValues) bound
    refine ⟨result, added, ?_, hbinds⟩
    simp only [Translator.translate, Translator.take, hafter]
  · obtain ⟨result, added, hafter, hbinds⟩ := (writePlan_emits hd options p).after_bind hslot hmark
      (fun _ => Plan.isBound_of_mem_boundValues) []
    obtain ⟨hresult, hadded⟩ := Prod.mk.inj (hafter.symm.trans (statement_eq_ok hs))
    rw [← hadded]
    exact hbinds s.sql hresult

end Driver

/-- Every driver of a configured registry binds its parameters in the order of their placeholders. -/
theorem configured_driver_keepsParameters {c : Config} {r : Registry} {d : Driver}
    (hr : Registry.ofConfig c = .ok r) (hd : d ∈ r.drivers) (options : TranslateOptions) :
    ∃ placeholder, d.KeepsParameters options placeholder :=
  (Registry.ofConfig_faithful hr d hd).keepsParameters options

theorem h2_keepsParameters :
    Registry.ofConfig {} = .ok Registry.builtin ∧
      ⟨H2.descriptor, [Ansi.descriptor]⟩ ∈ Registry.builtin.drivers ∧
      ∃ placeholder, Driver.KeepsParameters ⟨H2.descriptor, [Ansi.descriptor]⟩ ⟨.sunday⟩
        placeholder := by
  have hr : Registry.ofConfig {} = .ok Registry.builtin := rfl
  have hd : ⟨H2.descriptor, [Ansi.descriptor]⟩ ∈ Registry.builtin.drivers :=
    List.mem_cons_of_mem _ List.mem_cons_self
  exact ⟨hr, hd, configured_driver_keepsParameters hr hd ⟨.sunday⟩⟩

end Sluice
