import Sluice.Proofs.Registry.Growth
import Sluice.Proofs.Translation.Expressions
import Sluice.Proofs.Translation.Frames

/-!
# Framed drivers

Every operation that a driver looks up along its chain is a frame, and so is what the translation
makes of it: a truncation to weeks, the number of a day, a call, a cast that has a native name.
-/

namespace Sluice

namespace Driver

/-- Every slot is filled somewhere along the chain, and every descriptor of the chain is framed. -/
structure Framed (d : Driver) : Prop where
  fills : d.FillsSlots
  chain : ∀ e ∈ d.chain, e.Framed

variable {d : Driver}

theorem Framed.slot (hd : d.Framed) {α : Type} {name : String} {slot : Dialect → Option α}
    (h : IsSlot name slot) :
    ∃ a, d.slot name slot = .ok a ∧ ∃ e : Descriptor, e.Framed ∧ a ∈ slot e.dialect := by
  obtain ⟨a, ha, e, he, hslot⟩ := FillsSlots.slot hd.fills h
  exact ⟨a, ha, e, hd.chain e he, hslot⟩

theorem Framed.nativeType (hd : d.Framed) {target : SemanticType} {native : String}
    (h : d.nativeType? target = some native) : Firm native := by
  obtain ⟨e, he, hcast⟩ := List.exists_of_findSome?_eq_some h
  obtain ⟨before, after, hcasts, -⟩ := List.lookup_eq_some_iff.mp hcast
  have hmem : (target, native) ∈ e.casts.reverse := by
    rw [hcasts]
    exact List.mem_append_right before List.mem_cons_self
  exact (hd.chain e he).casts (target, native) (List.mem_reverse.mp hmem)

/-! ### Operations of a framed driver -/

theorem writeInfix_framed {token : String} (h : Separator (" " ++ token ++ " ")) :
    FramedBoth (writeInfix token) := by
  refine .inOrder "(" _ ")" (firm_of_check (by decide)) h separator_close fun a b => ?_
  simp only [String.append_assoc]

theorem writeBinary_framed {op : BinaryOperator} (h : op ≠ .regexMatch) :
    FramedBoth (d.writeBinary op) := by
  have hinfix : ∀ token : String, (isInertIn none (" " ++ token ++ " ").toList &&
      (" " ++ token ++ " ").toList.head?.any isApart &&
      !(" " ++ token ++ " ").toList.contains '"') = true →
      FramedBoth (writeInfix token) := fun _ h => writeInfix_framed (separator_of_check h)
  cases op with
  | regexMatch => exact absurd rfl h
  | eq => exact hinfix "=" (by decide)
  | notEq => exact hinfix "<>" (by decide)
  | lt => exact hinfix "<" (by decide)
  | ltEq => exact hinfix "<=" (by decide)
  | gt => exact hinfix ">" (by decide)
  | gtEq => exact hinfix ">=" (by decide)
  | and => exact hinfix "AND" (by decide)
  | or => exact hinfix "OR" (by decide)
  | plus => exact hinfix "+" (by decide)
  | minus => exact hinfix "-" (by decide)
  | multiply => exact hinfix "*" (by decide)
  | divide => exact hinfix "/" (by decide)
  | modulo => exact hinfix "%" (by decide)
  | concat => exact hinfix "||" (by decide)

theorem writeCall_framed {function : String} (h : isPlainIdentifier function = true) :
    (writeCall function).Framed := by
  have hopen : Firm (function ++ "(") :=
    (firm_of_isPlainIdentifier h).append (firm_of_check (by decide))
  have hcall : writeCall function = Operation.around (function ++ "(") ")" := by
    funext x
    rw [writeCall, if_pos h]
  rw [hcall]
  exact .around hopen separator_close

section

variable (hd : d.Framed)

include hd

theorem writeDayOfWeek_framed (options : TranslateOptions) : (d.writeDayOfWeek options).Framed := by
  obtain ⟨op, hslot, e, he, hop⟩ := hd.slot .dayOfWeek
  have hiso := he.dialect.dayOfWeek op hop
  have hshift : ∀ k : Nat,
      (Operation.around "(((" (") + " ++ toString k ++ ") % 7 + 1)")).Framed := by
    intro k
    have hopen : Separator ") + " := separator_of_check (by decide)
    exact .around (firm_of_check (by decide))
      ((hopen.append (firm_natText k)).append (firm_of_check (by decide)))
  cases hday : options.weekStart with
  | monday =>
      have hplain : d.writeDayOfWeek options = op := by
        funext x
        rw [writeDayOfWeek, hslot, lift_ok]
        simp only [hday, bind_pure]
      rw [hplain]
      exact hiso
  | tuesday | wednesday | thursday | friday | saturday | sunday =>
      have hshifted : d.writeDayOfWeek options = fun x => Operation.around "((("
          (") + " ++ toString (7 - options.weekStart.number) ++ ") % 7 + 1)") (op x) := by
        funext x
        rw [writeDayOfWeek, hslot, lift_ok]
        simp only [hday, Operation.around, String.append_assoc]
      rw [hshifted]
      exact (hshift _).comp hiso

theorem writeTruncateSlot_framed {unit : TruncateUnit} (h : unit.IsCut) :
    (d.writeTruncateSlot unit).Framed := by
  obtain ⟨op, hslot, e, he, hop⟩ := hd.slot .truncate
  have heq : d.writeTruncateSlot unit = op unit := by
    funext x
    rw [writeTruncateSlot, hslot, lift_ok]
  rw [heq]
  exact he.dialect.truncate op hop unit h

theorem writeExtract_framed (field : DateField) : (d.writeExtract field).Framed := by
  obtain ⟨op, hslot, e, he, hop⟩ := hd.slot .extract
  have heq : d.writeExtract field = op field := by
    funext x
    rw [writeExtract, hslot, lift_ok]
  rw [heq]
  exact he.dialect.extract op hop field

theorem writeCast_framed {target : SemanticType} {native : String}
    (h : d.nativeType? target = some native) : (d.writeCast target).Framed := by
  obtain ⟨op, hslot, e, he, hop⟩ := hd.slot .cast
  have heq : d.writeCast target = op native := by
    funext x
    simp only [writeCast, h, hslot, lift_ok]
  rw [heq]
  exact he.dialect.cast op hop native (hd.nativeType h)

theorem writeRegexMatch_framed (h : d.capability .regex = true) : FramedBoth d.writeRegexMatch := by
  obtain ⟨form, hslot, e, he, hform⟩ := hd.slot .regexMatch
  have heq : d.writeRegexMatch = fun x y => do
      let text ← x
      let pattern ← y
      return form text pattern := by
    funext x y
    rw [writeRegexMatch, if_pos h, hslot, lift_ok]
  rw [heq]
  exact he.dialect.regexMatch form hform

end

/-- The nearest driver of the chain that says how intervals are added is H2; it takes the amount
first. -/
def AmountFirst (d : Driver) : Prop :=
  (d.nearest fun e => e.dialect.intervalAdd.map fun _ => e.id) = some H2.id

instance (d : Driver) : Decidable d.AmountFirst :=
  inferInstanceAs (Decidable (_ = _))

/-- A slot of a driver is that of the nearest descriptor that fills it. -/
theorem exists_owner {α : Type} {name : String} {slot : Dialect → Option α} {a : α}
    (h : d.slot name slot = .ok a) :
    ∃ e ∈ d.chain, a ∈ slot e.dialect ∧
      d.nearest (fun e => (slot e.dialect).map fun _ => e.id) = some e.id := by
  rw [Driver.slot] at h
  split at h
  · rename_i b hslot
    obtain rfl := Except.ok.inj h
    obtain ⟨before, e, after, hchain, he, hbefore⟩ := List.findSome?_eq_some_iff.mp hslot
    refine ⟨e, ?_, he, List.findSome?_eq_some_iff.mpr ⟨before, e, after, hchain, ?_, ?_⟩⟩
    · rw [hchain]
      exact List.mem_append_right before List.mem_cons_self
    · rw [he]
      rfl
    · intro x hx
      rw [hbefore x hx]
      rfl
  · cases h

theorem writeIntervalAdd_framed (hd : d.Framed) (unit : IntervalUnit) :
    (d.AmountFirst → FramedBoth (d.writeIntervalAdd unit)) ∧
      (¬ d.AmountFirst → FramedBoth fun base amount => d.writeIntervalAdd unit amount base) := by
  obtain ⟨op, hslot, -⟩ := hd.slot .intervalAdd
  obtain ⟨e, he, hop, howner⟩ := exists_owner hslot
  obtain ⟨hfirst, hlast⟩ := (hd.chain e he).dialect.intervalAdd op hop unit
  have heq : d.writeIntervalAdd unit = op unit := by
    funext x y
    rw [writeIntervalAdd, hslot, lift_ok]
  rw [AmountFirst, howner, heq, Option.some.injEq]
  exact ⟨hfirst, hlast⟩

/-- An interval that is added, where both its amount and its base are made of one operand. -/
theorem writeIntervalAdd_framed_operand (hd : d.Framed) (unit : IntervalUnit)
    {amount base : Operation} (hamount : amount.Framed) (hbase : base.Framed) :
    Operation.Framed fun x => d.writeIntervalAdd unit (amount x) (base x) := by
  obtain ⟨hfirst, hlast⟩ := writeIntervalAdd_framed hd unit
  by_cases h : d.AmountFirst
  · exact .both (hfirst h) hamount hbase
  · have hswapped := Operation.Framed.both (hlast h) hbase hamount
    exact hswapped

theorem writeWeekStart_framed (hd : d.Framed) (options : TranslateOptions) :
    (d.writeWeekStart options).Framed := by
  have hminus : Operation.Framed (d.writeBinary .minus (return toString (1 : Int64).toInt)) := by
    have heq : d.writeBinary .minus (return toString (1 : Int64).toInt) =
        Operation.around "(1 - " ")" := by
      funext x
      have hone : toString (1 : Int64).toInt = "1" := by decide +kernel
      rw [hone]
      rfl
    rw [heq]
    exact .around (firm_of_check (by decide)) separator_close
  exact writeIntervalAdd_framed_operand hd .day (hminus.comp (writeDayOfWeek_framed hd options))
    (writeTruncateSlot_framed hd .day)

theorem writeTruncate_framed (hd : d.Framed) (options : TranslateOptions) (unit : TruncateUnit) :
    (d.writeTruncate options unit).Framed := by
  cases unit with
  | week => exact writeWeekStart_framed hd options
  | dayOfWeek => exact writeDayOfWeek_framed hd options
  | minute => exact writeTruncateSlot_framed hd .minute
  | hour => exact writeTruncateSlot_framed hd .hour
  | day => exact writeTruncateSlot_framed hd .day
  | month => exact writeTruncateSlot_framed hd .month
  | quarter => exact writeTruncateSlot_framed hd .quarter
  | year => exact writeTruncateSlot_framed hd .year
  | minuteOfHour | hourOfDay | dayOfMonth | monthOfYear | quarterOfYear =>
      exact writeExtract_framed hd _

end Driver

/-- Every driver of a configured registry is framed. -/
theorem Registry.ofConfig_framed {c : Config} {r : Registry} {d : Driver} (h : ofConfig c = .ok r)
    (hd : d ∈ r.drivers) : d.Framed := by
  refine ⟨(ofConfig_reachable h).sound.fillsSlots hd, ofConfig_chain ?_ ?_ h hd⟩
  · simp only [List.forall_mem_cons]
    exact ⟨Ansi.descriptor_framed, H2.descriptor_framed, Postgres.descriptor_framed,
      Sqlite.descriptor_framed, List.forall_mem_nil _⟩
  · intro c e he
    obtain ⟨capabilities, -, hrest⟩ := exists_of_bind_eq_ok he
    obtain rfl := Except.ok.inj hrest
    exact Descriptor.framed_of_empty rfl rfl

end Sluice
