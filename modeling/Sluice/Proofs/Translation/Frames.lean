import Sluice.Backend.H2
import Sluice.Backend.Postgres
import Sluice.Backend.Sqlite
import Sluice.Proofs.Translation.Writer

/-!
# Operations as frames

An operation of a built-in dialect puts its operands between fixed texts, whatever the operands are.
The fixed texts close their quoted runs, hold no double quote, and stand between any two operands.
-/

namespace Sluice

/-! ## Fixed texts -/

/-- A text that no name runs into: it closes its quoted runs and has no double quote. -/
structure Firm (s : String) : Prop where
  inert : Inert s.toList
  unquoted : '"' ∉ s.toList

/-- A joint that no name runs into. -/
structure Separator (s : String) : Prop extends Joint s where
  unquoted : '"' ∉ s.toList

theorem Separator.firm {s : String} (h : Separator s) : Firm s := ⟨h.inert, h.unquoted⟩

theorem firm_of_check {s : String}
    (h : (isInertIn none s.toList && !s.toList.contains '"') = true) : Firm s := by
  obtain ⟨hinert, hquote⟩ := Bool.and_eq_true_iff.mp h
  exact ⟨inert_of_check hinert, by simpa using hquote⟩

theorem separator_of_check {s : String}
    (h : (isInertIn none s.toList && s.toList.head?.any isApart && !s.toList.contains '"') = true) :
    Separator s := by
  obtain ⟨hjoint, hquote⟩ := Bool.and_eq_true_iff.mp h
  exact ⟨joint_of_check hjoint, by simpa using hquote⟩

theorem Firm.append {s t : String} (hs : Firm s) (ht : Firm t) : Firm (s ++ t) := by
  refine ⟨?_, ?_⟩
  · rw [String.toList_append]
    exact hs.inert.append ht.inert
  · rw [String.toList_append, List.mem_append]
    rintro (h | h)
    · exact hs.unquoted h
    · exact ht.unquoted h

theorem Separator.append {s t : String} (hs : Separator s) (ht : Firm t) : Separator (s ++ t) :=
  ⟨hs.toJoint.append ht.inert, (hs.firm.append ht).unquoted⟩

theorem separator_close : Separator ")" := separator_of_check (by decide)

theorem separator_comma : Separator ", " := separator_of_check (by decide)

theorem firm_of_isSafe {s : String} (h : ∀ c ∈ s.toList, isSafe c = true) : Firm s := by
  refine ⟨inert_of_isSafe h, fun hquote => ?_⟩
  exact Bool.noConfusion (h '"' hquote)

theorem firm_natText (n : Nat) : Firm (toString n) :=
  firm_of_isSafe fun _ h => isSafe_of_mem_natText h

theorem firm_of_isPlainIdentifier {name : String} (h : isPlainIdentifier name = true) :
    Firm name := by
  refine ⟨inert_of_isPlainIdentifier h, fun hquote => ?_⟩
  rw [isPlainIdentifier] at h
  split at h
  · exact Bool.noConfusion h
  · rename_i c rest hname
    rw [hname] at hquote
    obtain ⟨hc, hrest⟩ := Bool.and_eq_true_iff.mp h
    obtain rfl | hquote := List.mem_cons.mp hquote
    · exact Bool.noConfusion hc
    · exact Bool.noConfusion (List.all_eq_true.mp hrest _ hquote)

/-! ## Frames -/

/-- An operation that takes its two operands in order and puts fixed texts around them. -/
inductive FramedBoth : (TranslateM String → TranslateM String → TranslateM String) → Prop where
  | inOrder {form : String → String → String} (before between after : String) : Firm before →
      Separator between → Separator after →
      (∀ a b, form a b = before ++ (a ++ (between ++ (b ++ after)))) →
      FramedBoth fun x y => do
        let a ← x
        let b ← y
        return form a b

/-- An operation that puts its operand between fixed texts, once or more often. -/
inductive Operation.Framed : Operation → Prop where
  | operand : Framed fun x => x
  | around {before after : String} : Firm before → Separator after →
      Framed (Operation.around before after)
  | both {op : TranslateM String → TranslateM String → TranslateM String} {f g : Operation} :
      FramedBoth op → Framed f → Framed g → Framed fun x => op (f x) (g x)
  | comp {outer inner : Operation} : Framed outer → Framed inner →
      Framed fun x => outer (inner x)

theorem framed_twice (before between after : String) {form : String → String → String}
    (hbefore : Firm before) (hbetween : Separator between) (hafter : Separator after)
    (hform : ∀ a b, form a b = before ++ (a ++ (between ++ (b ++ after)))) :
    Operation.Framed fun x => do
      let a ← x
      let b ← x
      return form a b :=
  .both (.inOrder before between after hbefore hbetween hafter hform) .operand .operand

/-- The units to which the truncation of a dialect is asked to cut. -/
inductive TruncateUnit.IsCut : TruncateUnit → Prop where
  | minute : IsCut .minute
  | hour : IsCut .hour
  | day : IsCut .day
  | month : IsCut .month
  | quarter : IsCut .quarter
  | year : IsCut .year

/-- The operations of a dialect are frames. Adding an interval takes the amount first or last. -/
structure Dialect.Framed (d : Dialect) (amountFirst : Prop) : Prop where
  truncate : ∀ op ∈ d.truncate, ∀ unit : TruncateUnit, unit.IsCut → (op unit).Framed
  extract : ∀ op ∈ d.extract, ∀ field, (op field).Framed
  intervalAdd : ∀ op ∈ d.intervalAdd, ∀ unit,
    (amountFirst → FramedBoth (op unit)) ∧
      (¬ amountFirst → FramedBoth fun base amount => op unit amount base)
  dayOfWeek : ∀ op ∈ d.dayOfWeek, op.Framed
  cast : ∀ op ∈ d.cast, ∀ native, Firm native → (op native).Framed
  quoteIdentifier : ∀ quote ∈ d.quoteIdentifier, quote = quoteName
  regexMatch : ∀ form ∈ d.regexMatch, FramedBoth fun x y => do
    let text ← x
    let pattern ← y
    return form text pattern

/-- The dialect is framed, and the native names for casts are firm. Only H2 takes the amount of an
interval first. -/
structure Descriptor.Framed (e : Descriptor) : Prop where
  dialect : e.dialect.Framed (e.id = H2.id)
  casts : ∀ entry ∈ e.casts, Firm entry.2

/-- A descriptor that declares neither slots nor casts is framed. -/
theorem Descriptor.framed_of_empty {e : Descriptor} (hdialect : e.dialect = {})
    (hcasts : e.casts = []) : e.Framed := by
  refine ⟨?_, ?_⟩
  · rw [hdialect]
    exact ⟨nofun, nofun, nofun, nofun, nofun, nofun, nofun⟩
  · rw [hcasts]
    exact nofun

theorem firm_of_mem_casts {casts : List (SemanticType × String)}
    (h : (casts.all fun entry =>
      isInertIn none entry.2.toList && !entry.2.toList.contains '"') = true) :
    ∀ entry ∈ casts, Firm entry.2 :=
  fun entry hentry => firm_of_check (List.all_eq_true.mp h entry hentry)

/-! ## The standard -/

namespace Ansi

theorem truncate_framed {unit : TruncateUnit} (h : unit.IsCut) : (truncate unit).Framed := by
  have hwrite : ∀ name : String, (isInertIn none ("DATE_TRUNC('" ++ name ++ "', ").toList &&
      !("DATE_TRUNC('" ++ name ++ "', ").toList.contains '"') = true →
      (Operation.around ("DATE_TRUNC('" ++ name ++ "', ") ")").Framed := fun name hname =>
    .around (firm_of_check hname) separator_close
  cases h with
  | minute => exact hwrite "minute" (by decide)
  | hour => exact hwrite "hour" (by decide)
  | day => exact hwrite "day" (by decide)
  | month => exact hwrite "month" (by decide)
  | quarter => exact hwrite "quarter" (by decide)
  | year => exact hwrite "year" (by decide)

theorem extract_framed (field : DateField) : (extract field).Framed := by
  cases field <;> exact .around (firm_of_check (by decide)) separator_close

theorem intervalAdd_framed (unit : IntervalUnit) :
    FramedBoth fun base amount => intervalAdd unit amount base := by
  have hafter : Separator (") * " ++ oneInterval unit ++ ")") := by
    cases unit <;> exact separator_of_check (by decide)
  refine .inOrder "(" " + (" _ (firm_of_check (by decide)) (separator_of_check (by decide)) hafter
    fun a b => ?_
  simp only [String.append_assoc]

theorem cast_framed {name : String} (h : Firm name) : (cast name).Framed := by
  have hafter : Separator (" AS " ++ name ++ ")") :=
    ((separator_of_check (by decide)).append h).append (firm_of_check (by decide))
  exact .around (firm_of_check (by decide)) hafter

theorem regexMatch_framed : FramedBoth fun x y => do
    let text ← x
    let pattern ← y
    return regexMatch text pattern := by
  refine .inOrder "REGEXP_LIKE(" ", " ")" (firm_of_check (by decide)) separator_comma
    separator_close fun a b => ?_
  simp only [regexMatch, String.append_assoc]

theorem descriptor_framed : descriptor.Framed where
  dialect := {
    truncate := by
      rintro _ ⟨⟩ unit
      exact truncate_framed
    extract := by
      rintro _ ⟨⟩
      exact extract_framed
    intervalAdd := by
      rintro _ ⟨⟩ unit
      exact ⟨fun h => absurd h (by decide), fun _ => intervalAdd_framed unit⟩
    dayOfWeek := by
      rintro _ ⟨⟩
      exact .around (firm_of_check (by decide)) (separator_of_check (by decide))
    cast := by
      rintro _ ⟨⟩ name
      exact cast_framed
    quoteIdentifier := by
      rintro _ ⟨⟩
      rfl
    regexMatch := by
      rintro _ ⟨⟩
      exact regexMatch_framed }
  casts := firm_of_mem_casts (by decide +kernel)

end Ansi

/-! ## H2 -/

namespace H2

theorem reparse_framed {pattern : String}
    (h : (isInertIn none (", '" ++ pattern ++ "'), '" ++ pattern ++ "')").toList &&
      (", '" ++ pattern ++ "'), '" ++ pattern ++ "')").toList.head?.any isApart &&
      !(", '" ++ pattern ++ "'), '" ++ pattern ++ "')").toList.contains '"') = true) :
    (reparse pattern).Framed :=
  .around (firm_of_check (by decide)) (separator_of_check h)

theorem truncateQuarter_framed : truncateQuarter.Framed := by
  refine framed_twice "PARSEDATETIME(CONCAT(YEAR(" "), LPAD(CAST(QUARTER("
    ") * 3 - 2 AS VARCHAR), 2, '0')), 'yyyyMM')" (firm_of_check (by decide))
    (separator_of_check (by decide)) (separator_of_check (by decide)) fun a b => ?_
  simp only [String.append_assoc]

theorem truncate_framed {unit : TruncateUnit} (h : unit.IsCut) : (truncate unit).Framed := by
  cases h with
  | minute => exact reparse_framed (by decide)
  | hour => exact reparse_framed (by decide)
  | day => exact reparse_framed (by decide)
  | month => exact reparse_framed (by decide)
  | quarter => exact truncateQuarter_framed
  | year =>
      have hcast : (Operation.around "CAST(" " AS TIMESTAMP)").Framed :=
        .around (firm_of_check (by decide)) (separator_of_check (by decide))
      have hyear : (reparse "yyyy").Framed := reparse_framed (by decide)
      have hboth := hcast.comp hyear
      exact hboth

theorem extract_framed (field : DateField) : (extract field).Framed := by
  cases field <;> exact .around (firm_of_check (by decide)) separator_close

theorem intervalAdd_framed (unit : IntervalUnit) : FramedBoth (intervalAdd unit) := by
  have hcall : Firm ("DATEADD('" ++ unit.keyword ++ "', ") := by
    cases unit <;> exact firm_of_check (by decide)
  refine .inOrder _ ", " ")" hcall separator_comma separator_close fun a b => ?_
  simp only [String.append_assoc]

theorem descriptor_framed : descriptor.Framed where
  dialect := {
    truncate := by
      rintro _ ⟨⟩ unit
      exact truncate_framed
    extract := by
      rintro _ ⟨⟩
      exact extract_framed
    intervalAdd := by
      rintro _ ⟨⟩ unit
      exact ⟨fun _ => intervalAdd_framed unit, fun h => absurd rfl h⟩
    dayOfWeek := by
      rintro _ ⟨⟩
      exact .around (firm_of_check (by decide)) (separator_of_check (by decide))
    cast := nofun
    quoteIdentifier := nofun
    regexMatch := nofun }
  casts := firm_of_mem_casts (by decide +kernel)

end H2

/-! ## PostgreSQL -/

namespace Postgres

theorem extract_framed (field : DateField) : (extract field).Framed := by
  cases field <;> exact .around (firm_of_check (by decide)) (separator_of_check (by decide))

theorem regexMatch_framed : FramedBoth fun x y => do
    let text ← x
    let pattern ← y
    return regexMatch text pattern := by
  refine .inOrder "(" " ~ " ")" (firm_of_check (by decide)) (separator_of_check (by decide))
    separator_close fun a b => ?_
  simp only [regexMatch, String.append_assoc]

theorem descriptor_framed : descriptor.Framed where
  dialect := {
    truncate := nofun
    extract := by
      rintro _ ⟨⟩
      exact extract_framed
    intervalAdd := nofun
    dayOfWeek := by
      rintro _ ⟨⟩
      exact .around (firm_of_check (by decide)) (separator_of_check (by decide))
    cast := nofun
    quoteIdentifier := nofun
    regexMatch := by
      rintro _ ⟨⟩
      exact regexMatch_framed }
  casts := firm_of_mem_casts (by decide +kernel)

end Postgres

/-! ## SQLite -/

namespace Sqlite

theorem truncateQuarter_framed : truncateQuarter.Framed := by
  refine framed_twice "printf('%s-%02d-01 00:00:00', strftime('%Y', "
    "), (CAST(strftime('%m', " ") AS INTEGER) + 2) / 3 * 3 - 2)" (firm_of_check (by decide))
    (separator_of_check (by decide)) (separator_of_check (by decide)) fun a b => ?_
  simp only [String.append_assoc]

theorem truncate_framed {unit : TruncateUnit} (h : unit.IsCut) : (truncate unit).Framed := by
  cases h with
  | quarter => exact truncateQuarter_framed
  | minute | hour | day | month | year =>
      exact .around (firm_of_check (by decide)) separator_close

theorem extract_framed (field : DateField) : (extract field).Framed := by
  cases field <;> exact .around (firm_of_check (by decide)) (separator_of_check (by decide))

theorem intervalAdd_framed (unit : IntervalUnit) :
    FramedBoth fun base amount => intervalAdd unit amount base := by
  have hcall : Firm (intervalFunction unit) := by
    cases unit <;> exact firm_of_check (by decide)
  have hbefore : Separator (", " ++ (modifier unit).1) := by
    cases unit <;> exact separator_of_check (by decide)
  have hafter : Separator ((modifier unit).2 ++ ")") := by
    cases unit <;> exact separator_of_check (by decide)
  refine .inOrder _ _ _ hcall hbefore hafter fun a b => ?_
  cases unit <;> simp only [modifier, String.append_assoc]

theorem cast_framed {name : String} (h : Firm name) : (cast name).Framed := by
  rw [cast.eq_def]
  split
  · exact .around (firm_of_check (by decide)) separator_close
  · exact .around (firm_of_check (by decide)) separator_close
  · exact .around (firm_of_check (by decide)) separator_close
  · exact Ansi.cast_framed h

theorem descriptor_framed : descriptor.Framed where
  dialect := {
    truncate := by
      rintro _ ⟨⟩ unit
      exact truncate_framed
    extract := by
      rintro _ ⟨⟩
      exact extract_framed
    intervalAdd := by
      rintro _ ⟨⟩ unit
      exact ⟨fun h => absurd h (by decide), fun _ => intervalAdd_framed unit⟩
    dayOfWeek := by
      rintro _ ⟨⟩
      exact .around (firm_of_check (by decide)) (separator_of_check (by decide))
    cast := by
      rintro _ ⟨⟩ name
      exact cast_framed
    quoteIdentifier := nofun
    regexMatch := nofun }
  casts := firm_of_mem_casts (by decide +kernel)

end Sqlite

end Sluice
