import Sluice.Proofs.Registry.Declarations
import Sluice.Proofs.Scan.Turns
import Sluice.Proofs.Translation.OneStatement

/-!
# Sessions

A driver prepares a session with statements of its own. The one text in them that comes from outside
is the time zone, and it is quoted. Whatever it is, every statement stays a single one, and the
literal is read back as the time zone.
-/

namespace Sluice

open Text Scan

/-! ## Setting a session up -/

/-- What holds of the statements that prepare a session; `setsZone` tells whether a time zone can be
set at all. -/
structure SetsUp (setup : SessionOptions → List String) (setsZone : Prop) : Prop where
  oneStatement : ∀ options, ∀ sql ∈ setup options, OneStatement sql.toList
  /-- A time zone is set where there is one, by a literal that is read back as this time zone. -/
  zone_iff : ∀ options literal, "SET TIME ZONE " ++ literal ∈ setup options ↔
    setsZone ∧ ∃ zone, options.timeZone = some zone ∧ unquote? '\'' literal = some zone
  /-- The scanner takes the literal by quoted runs, and all before it character by character. -/
  scanned : ∀ options literal, "SET TIME ZONE " ++ literal ∈ setup options →
    turns (octets ("SET TIME ZONE " ++ literal).toList) =
      "SET TIME ZONE ".toList.map ([·]) ++ quotedRuns '\'' (octets literal.toList)

/-- A single statement that sets no time zone. -/
structure IsFixed (sql : String) : Prop where
  oneStatement : OneStatement sql.toList
  noZone : ¬ "SET TIME ZONE ".toList <+: sql.toList

/-- The statement for the time zone of some options, if they have one. -/
def zoneStatements (options : SessionOptions) : List String :=
  (options.timeZone.map fun zone => "SET TIME ZONE " ++ quoteString zone).toList

theorem mem_zoneStatements {options : SessionOptions} {sql : String} :
    sql ∈ zoneStatements options ↔
      ∃ zone, options.timeZone = some zone ∧ sql = "SET TIME ZONE " ++ quoteString zone := by
  simp [zoneStatements, eq_comm]

theorem oneStatement_zone (zone : String) :
    OneStatement ("SET TIME ZONE " ++ quoteString zone).toList := by
  have hinert : Inert ("SET TIME ZONE " ++ quoteString zone).toList := by
    rw [String.toList_append]
    exact (inert_of_check (by decide)).append (inert_quoteWith (.inl rfl) zone)
  apply oneStatement_of_inert hinert (c := 'S')
  · rw [String.toList_append]
    rfl
  · decide

theorem turns_zone (zone : String) :
    turns (octets ("SET TIME ZONE " ++ quoteString zone).toList) =
      "SET TIME ZONE ".toList.map ([·]) ++ quotedRuns '\'' (octets (quoteString zone).toList) := by
  have hsafe : ∀ c ∈ "SET TIME ZONE ".toList, isSafe c = true := List.all_eq_true.mp (by decide)
  have hascii := octets_ascii fun c hc => toNat_lt_of_isSafe (hsafe c hc)
  have hquoted : TakenByRuns '\'' (quoteString zone).toList [] :=
    takenByRuns_quoteWith .single zone (by simp)
  have hresumes := hquoted.resumes
  simp only [List.append_nil, octets_nil, turns_nil] at hresumes
  rw [String.toList_append, octets_append, hascii, turns_of_isSafe hsafe, hresumes]

theorem zone_eq_iff {literal zone : String} :
    "SET TIME ZONE " ++ literal = "SET TIME ZONE " ++ quoteString zone ↔
      literal = quoteString zone := by
  rw [← String.toList_inj, String.toList_append, String.toList_append, List.append_cancel_left_eq,
    String.toList_inj]

theorem IsFixed.ne_zone {sql : String} (h : IsFixed sql) (literal : String) :
    sql ≠ "SET TIME ZONE " ++ literal := by
  rintro rfl
  apply h.noZone
  rw [String.toList_append]
  exact List.prefix_append _ _

section

variable {fixed : SessionOptions → List String}
  (hfixed : ∀ options, ∀ sql ∈ fixed options, IsFixed sql)

include hfixed

theorem setsUp_fixed : SetsUp fixed False where
  oneStatement options sql hsql := (hfixed options sql hsql).oneStatement
  zone_iff options literal := by
    simpa using fun hmem => (hfixed options _ hmem).ne_zone literal rfl
  scanned options literal hmem := ((hfixed options _ hmem).ne_zone literal rfl).elim

theorem setsUp_zone : SetsUp (fun options => fixed options ++ zoneStatements options) True := by
  have hliteral : ∀ options literal,
      "SET TIME ZONE " ++ literal ∈ fixed options ++ zoneStatements options ↔
        ∃ zone, options.timeZone = some zone ∧ literal = quoteString zone := by
    intro options literal
    have hnot : "SET TIME ZONE " ++ literal ∉ fixed options :=
      fun hmem => (hfixed options _ hmem).ne_zone literal rfl
    simp only [List.mem_append, hnot, false_or, mem_zoneStatements, zone_eq_iff]
  constructor
  · intro options sql hsql
    rcases List.mem_append.mp hsql with hsql | hsql
    · exact (hfixed options sql hsql).oneStatement
    · obtain ⟨zone, -, rfl⟩ := mem_zoneStatements.mp hsql
      exact oneStatement_zone zone
  · intro options literal
    rw [hliteral]
    simp only [true_and, unquote?_eq_some_iff]
    rfl
  · intro options literal hmem
    obtain ⟨zone, -, rfl⟩ := (hliteral options literal).mp hmem
    exact turns_zone zone

end

/-! ## The built-in drivers -/

theorem isFixed_of_check {sql : String} (hinert : isInertIn none sql.toList = true)
    (hhead : sql.toList.head?.any isWordChar = true)
    (hzone : ¬ "SET TIME ZONE ".toList <+: sql.toList) : IsFixed sql := by
  obtain ⟨c, hc, hword⟩ := (Option.any_eq_true _ _).mp hhead
  exact ⟨oneStatement_of_inert (inert_of_check hinert) hc hword, hzone⟩

theorem Ansi.setsUp : SetsUp (fun _ => []) False :=
  setsUp_fixed fun _ _ hsql => (List.not_mem_nil hsql).elim

theorem H2.setsUp : SetsUp H2.sessionSetup True := by
  have hsetup : H2.sessionSetup = fun options => [] ++ zoneStatements options := by
    funext options
    cases h : options.timeZone <;> simp [H2.sessionSetup, zoneStatements, h]
  rw [hsetup]
  exact setsUp_zone fun _ _ hsql => (List.not_mem_nil hsql).elim

theorem Postgres.setsUp : SetsUp Postgres.sessionSetup True := by
  have hsetup : Postgres.sessionSetup = fun options =>
      (if options.readOnly then ["SET SESSION CHARACTERISTICS AS TRANSACTION READ ONLY"] else []) ++
        zoneStatements options := by
    funext options
    cases h : options.timeZone <;> simp [Postgres.sessionSetup, zoneStatements, h]
  rw [hsetup]
  apply setsUp_zone
  intro options sql hsql
  split at hsql
  · rw [List.mem_singleton.mp hsql]
    exact isFixed_of_check (by decide) (by decide) (by decide)
  · exact (List.not_mem_nil hsql).elim

theorem Sqlite.setsUp : SetsUp Sqlite.sessionSetup False := by
  apply setsUp_fixed
  intro options sql hsql
  rw [Sqlite.sessionSetup] at hsql
  split at hsql
  · rw [List.mem_singleton.mp hsql]
    exact isFixed_of_check (by decide) (by decide) (by decide)
  · exact (List.not_mem_nil hsql).elim

theorem SetsUp.congr {setup : SessionOptions → List String} {p q : Prop} (h : SetsUp setup p)
    (hiff : p ↔ q) : SetsUp setup q :=
  propext hiff ▸ h

namespace Registry

/-- H2 and PostgreSQL have time zones. -/
theorem setsUp_of_builtin {b : Driver} (hb : b ∈ builtin.drivers) :
    SetsUp b.sessionSetup (b.inheritsFrom H2.id = true ∨ b.inheritsFrom Postgres.id = true) := by
  simp only [drivers, builtin, List.mem_cons, List.not_mem_nil, or_false] at hb
  rcases hb with rfl | rfl | rfl | rfl
  · exact Ansi.setsUp.congr (by decide)
  · exact H2.setsUp.congr (by decide)
  · exact Postgres.setsUp.congr (by decide)
  · exact Sqlite.setsUp.congr (by decide)

/-! ## Configured drivers -/

variable {c : Config} {r : Registry} {d b : Driver}

/-- Only the built-in drivers have slots of their own. -/
theorem dialect_eq_empty (h : ofConfig c = .ok r) (hd : d ∈ r.drivers) :
    ∀ e ∈ d.chain, e.id ∉ builtinIds → e.dialect = {} := by
  apply ofConfig_chain (P := fun e => e.id ∉ builtinIds → e.dialect = {}) _ _ h hd
  · intro e he hid
    exact absurd (List.mem_map_of_mem (f := (·.id)) he) hid
  · intro c e he _
    exact (toDescriptor_eq_ok he).1

theorem NearestBuiltin.sessionSetup_eq (hb : NearestBuiltin d b) (h : ofConfig c = .ok r)
    (hd : d ∈ r.drivers) : d.sessionSetup = b.sessionSetup := by
  obtain ⟨below, hchain, hbelow⟩ := hb.below
  -- what stands below the built-in driver was declared, so its slot is empty
  have hnone : below.findSome? (fun e => e.dialect.sessionSetup) = none := by
    apply List.findSome?_eq_none_iff.mpr
    intro e he
    have hchained : e ∈ d.chain := hchain ▸ List.mem_append_left _ he
    rw [dialect_eq_empty h hd e hchained (hbelow e he)]
  have hslot : d.slot? (·.sessionSetup) = b.slot? (·.sessionSetup) := by
    rw [Driver.slot?, Driver.nearest, hchain, List.findSome?_append, hnone, Option.none_or]
    rfl
  funext options
  rw [Driver.sessionSetup, Driver.sessionSetup, hslot]

theorem NearestBuiltin.inheritsFrom_eq (hb : NearestBuiltin d b) {id : String}
    (hid : id ∈ builtinIds) : d.inheritsFrom id = b.inheritsFrom id := by
  obtain ⟨below, hchain, hbelow⟩ := hb.below
  have hnot : below.any (·.id == id) = false := by
    simp only [List.any_eq_false, beq_iff_eq]
    rintro e he rfl
    exact hbelow e he hid
  rw [Driver.inheritsFrom, Driver.inheritsFrom, hchain, List.any_append, hnot, Bool.false_or]

/-- A configured driver prepares sessions as the nearest built-in one does. -/
theorem setsUp_of_ofConfig (h : ofConfig c = .ok r) (hd : d ∈ r.drivers) :
    SetsUp d.sessionSetup (d.inheritsFrom H2.id = true ∨ d.inheritsFrom Postgres.id = true) := by
  obtain ⟨b, hb, -⟩ := (holds_of_addConfigured h).descends d hd
  rw [hb.sessionSetup_eq h hd, hb.inheritsFrom_eq (by decide), hb.inheritsFrom_eq (by decide)]
  exact setsUp_of_builtin hb.builtin

end Registry

/-! ## Quoting -/

/-- Quoting hides a text from the scanner and loses nothing of it. -/
structure Confines (mark : Char) (quote : String → String) : Prop where
  taken : ∀ s t, t.head? ≠ some mark → TakenByRuns mark (quote s).toList t
  unquotes : ∀ s, unquote? mark (quote s) = some s

theorem confines_quoteWith {mark : Char} (hmark : IsQuote mark) :
    Confines mark (quoteWith mark) where
  taken s _ ht := takenByRuns_quoteWith hmark s ht
  unquotes s := unquote?_quoteWith mark s

/-- Quoted names and quoted texts keep what is in them from the scanner. So whatever the time zone,
every driver of a configured registry prepares sessions with single statements, and the time zone
that is set is that of the options. -/
theorem quoting_confines :
    Confines '"' quoteName ∧ Confines '\'' quoteString ∧
      ∀ (c : Config) (r : Registry), Registry.ofConfig c = .ok r → ∀ d ∈ r.drivers,
        SetsUp d.sessionSetup
          (d.inheritsFrom H2.id = true ∨ d.inheritsFrom Postgres.id = true) :=
  ⟨confines_quoteWith .double, confines_quoteWith .single,
    fun _ _ h _ hd => Registry.setsUp_of_ofConfig h hd⟩

/-- Below PostgreSQL, a time zone that would end its literal and the statement; and a name that would
hide what follows it. -/
theorem replica_confines_hostile_texts :
    ∃ r d, Registry.ofConfig { drivers := [{ id := "replica", parent := "postgres" }] } = .ok r ∧
      d ∈ r.drivers ∧ d.id = "replica" ∧
      d.sessionSetup { timeZone := some "'; DROP TABLE t; --'" } =
        ["SET SESSION CHARACTERISTICS AS TRANSACTION READ ONLY",
          "SET TIME ZONE '''; DROP TABLE t; --'''"] ∧
      SetsUp d.sessionSetup (d.inheritsFrom H2.id = true ∨ d.inheritsFrom Postgres.id = true) ∧
      TakenByRuns '\'' (quoteString "'; DROP TABLE t; --'").toList ";".toList ∧
      TakenByRuns '"' (quoteName "t\" --").toList ".x".toList := by
  let replica : Descriptor := { id := "replica", displayName := "replica", parent := some "postgres" }
  let d : Driver := ⟨replica, [Postgres.descriptor, Ansi.descriptor]⟩
  have hr : Registry.ofConfig { drivers := [{ id := "replica", parent := "postgres" }] } =
      .ok (Registry.builtin.add d) := rfl
  have hd : d ∈ (Registry.builtin.add d).drivers := by
    rw [Registry.drivers_add]
    exact List.mem_append_right _ List.mem_cons_self
  exact ⟨_, d, hr, hd, rfl, by decide +kernel, quoting_confines.2.2 _ _ hr d hd,
    quoting_confines.2.1.taken _ _ (by decide), quoting_confines.1.taken _ _ (by decide)⟩

end Sluice
