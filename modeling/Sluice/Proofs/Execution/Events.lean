import Sluice.Execution
import Sluice.Proofs.Guard.Authorize
import Sluice.Proofs.Outcome

/-!
# What an execution asks and sends

A ledger keeps what is asked of a source and what is sent over a connection that it lent. Keeping
one changes no execution. What stands in it shows that nothing is asked before the query is
approved, that the query is sent behind the session statements, and that a connection goes back
once, at last.
-/

namespace Sluice

variable {σ κ : Type}

/-! ## Ledgers -/

/-- What happens between an execution, its source, and a connection that was lent under a number. -/
inductive Event where
  | lend (m : Metadata) (connection : Nat)
  | refuse (m : Metadata) (error : Error)
  | execute (connection : Nat) (sql : String) (parameters : List Value) (failure : Option Error)
  | send (connection : Nat) (statement : Statement) (failure : Option Error)
  | release (connection : Nat)
deriving DecidableEq

namespace Event

/-- The error that somebody answered with. -/
def failure? : Event → Option Error
  | lend _ _ | release _ => none
  | refuse _ e => some e
  | execute _ _ _ failure | send _ _ failure => failure

/-- The metadata that a connection was asked for with. -/
def asked? : Event → Option Metadata
  | lend m _ | refuse m _ => some m
  | execute _ _ _ _ | send _ _ _ | release _ => none

/-- The session statements on a connection, each of which succeeds. -/
def prepared (connection : Nat) (statements : List String) : List Event :=
  statements.map fun sql => execute connection sql [] none

theorem mem_prepared {event : Event} {connection : Nat} {statements : List String}
    (h : event ∈ prepared connection statements) :
    ∃ sql, event = execute connection sql [] none := by
  obtain ⟨sql, -, rfl⟩ := List.mem_map.mp h
  exact ⟨sql, rfl⟩

end Event

/-- A source with all that happened to it and to the connections that came back. -/
structure Ledger (σ : Type) where
  events : List Event := []
  state : σ

/-- A connection with its number and all that was sent over it. -/
structure Loan (κ : Type) where
  number : Nat
  events : List Event := []
  state : κ

namespace Loan

/-- The connection after one more event. -/
def enter (c : Loan κ) (e : Event) (state : κ) : Loan κ :=
  { c with events := c.events ++ [e], state }

end Loan

namespace Link

/-- The link that enters what is sent. -/
def recorded (l : Link κ) : Link (Loan κ) where
  execute sql parameters c :=
    let (result, state) := l.execute sql parameters c.state
    (result, c.enter (.execute c.number sql parameters (failureOf result)) state)
  query sql parameters c :=
    let (result, state) := l.query sql parameters c.state
    (result, c.enter (.send c.number ⟨sql, parameters⟩ (failureOf result)) state)

end Link

/-- The source that enters what is asked of it, and numbers the connections that it lends. -/
def Source.recorded (source : Source σ κ) : Source (Ledger σ) (Loan κ) where
  toLink := source.toLink.recorded
  acquire m l :=
    let number := l.events.length
    match source.acquire m l.state with
    | (.ok state, s) => (.ok { number, state }, ⟨l.events ++ [.lend m number], s⟩)
    | (.error e, s) => (.error e, ⟨l.events ++ [.refuse m e], s⟩)
  release c l :=
    ⟨l.events ++ (c.events ++ [.release c.number]), source.release c.state l.state⟩

/-- The pipeline that enters the statement it is given. -/
def Pipeline.recorded (p : Pipeline κ) : Pipeline (Loan κ) := fun statement c =>
  let (result, state) := p statement c.state
  (result, c.enter (.send c.number statement (failureOf result)) state)

/-- For the direct pipeline, what is entered is the query that the connection gets. -/
theorem Link.direct_recorded (l : Link κ) : l.recorded.direct = Pipeline.recorded l.direct := rfl

namespace Executor

/-- The executor that keeps a ledger. -/
def recorded (x : Executor σ κ) : Executor (Ledger σ) (Loan κ) where
  guard := x.guard
  source := x.source.recorded
  pipeline := Pipeline.recorded x.pipeline
  translation := x.translation
  session := x.session

end Executor

/-! ## Preparing a session -/

namespace Link

/-- Session statements are sent in order, up to the first that fails. -/
inductive Prepares (l : Link κ) (n : Nat) :
    List String → κ → List Event → Except Error Unit → κ → Prop where
  | done {c} : Prepares l n [] c [] (.ok ()) c
  | sent {sql changed rest c c₁ c₂ events outcome} : l.execute sql [] c = (.ok changed, c₁) →
      Prepares l n rest c₁ events outcome c₂ →
      Prepares l n (sql :: rest) c (.execute n sql [] none :: events) outcome c₂
  | failed {sql e rest c c₁} : l.execute sql [] c = (.error e, c₁) →
      Prepares l n (sql :: rest) c [.execute n sql [] (some e)] (.error e) c₁

variable {l : Link κ} {n : Nat} {statements : List String} {c c' : κ} {events : List Event}
  {outcome : Except Error Unit}

theorem Prepares.prepare_eq (h : l.Prepares n statements c events outcome c') :
    l.prepare statements c = (outcome, c') := by
  induction h with
  | done => rfl
  | sent hsql _ ih =>
      rw [prepare, hsql]
      exact ih
  | failed hsql => rw [prepare, hsql]

theorem recorded_execute {sql : String} {parameters : List Value} {c : Loan κ} {state : κ}
    {result : Except Error UInt64} (h : l.execute sql parameters c.state = (result, state)) :
    l.recorded.execute sql parameters c =
      (result, c.enter (.execute c.number sql parameters (failureOf result)) state) := by
  simp only [recorded, h]

theorem prepare_recorded (l : Link κ) (statements : List String) (c : Loan κ) :
    ∃ outcome events state, l.Prepares c.number statements c.state events outcome state ∧
      l.recorded.prepare statements c = (outcome, ⟨c.number, c.events ++ events, state⟩) := by
  induction statements generalizing c with
  | nil => exact ⟨_, [], c.state, .done, by rw [prepare, List.append_nil]⟩
  | cons sql rest ih =>
      rcases hsql : l.execute sql [] c.state with ⟨e | changed, state⟩
      · refine ⟨_, _, state, .failed hsql, ?_⟩
        rw [prepare, recorded_execute hsql]
        rfl
      · obtain ⟨outcome, events, state', hrest, heq⟩ :=
          ih (c.enter (.execute c.number sql [] none) state)
        refine ⟨outcome, _, state', .sent hsql hrest, ?_⟩
        rw [Loan.enter, List.append_assoc] at heq
        rw [prepare, recorded_execute hsql]
        exact heq

/-- A session is prepared when each of its statements succeeds. -/
theorem Prepares.of_ok (h : l.Prepares n statements c events (.ok ()) c') :
    events = Event.prepared n statements := by
  generalize hok : Except.ok () = outcome at h
  induction h with
  | done => rfl
  | sent _ _ ih => rw [ih hok]; rfl
  | failed => exact nomatch hok

/-- A session is not prepared when one of its statements fails, which is then the last. -/
theorem Prepares.of_error {e : Error} (h : l.Prepares n statements c events (.error e) c') :
    ∃ before sql after, statements = before ++ sql :: after ∧
      events = Event.prepared n before ++ [.execute n sql [] (some e)] := by
  generalize herror : Except.error e = outcome at h
  induction h with
  | done => exact nomatch herror
  | @sent sql _ _ _ _ _ _ _ _ _ ih =>
      obtain ⟨before, failing, after, rfl, rfl⟩ := ih herror
      exact ⟨sql :: before, failing, after, rfl, rfl⟩
  | @failed sql _ rest =>
      obtain rfl := Except.error.inj herror
      exact ⟨[], sql, rest, rfl, rfl⟩

end Link

/-! ## Approval -/

namespace Executor

variable {x : Executor σ κ} {driverId : String} {q : Query} {m : Metadata}

/-- The metadata name the driver, the driver is known, and the guard denies the query. -/
def Denies (x : Executor σ κ) (driverId : String) (q : Query) (m : Metadata) (v : Violation) :
    Prop :=
  m.driverId = driverId ∧ (∃ d, x.guard.registry.get? driverId = some d) ∧
    x.guard.authorize q m = .ok (.deny v)

/-- The metadata name the driver, the driver is known, the guard allows the query, and `compiled` is
what the driver makes of it. -/
def Compiles (x : Executor σ κ) (driverId : String) (q : Query) (m : Metadata) (d : Driver)
    (compiled : Except Error Statement) : Prop :=
  m.driverId = driverId ∧ x.guard.registry.get? driverId = some d ∧
    x.guard.authorize q m = .ok .allow ∧ q.compile d x.translation = compiled

/-- The work of an approved query: the session of its driver and the compiled statement. -/
def Approves (x : Executor σ κ) (driverId : String) (q : Query) (m : Metadata) (w : Work) : Prop :=
  ∃ d, x.Compiles driverId q m d (.ok w.statement) ∧ w.setup = d.sessionSetup x.session

/-- Why a query is not approved: the first of the checks that fails. -/
inductive Refuses (x : Executor σ κ) (driverId : String) (q : Query) (m : Metadata) :
    Error → Prop where
  | foreign : m.driverId ≠ driverId →
      Refuses x driverId q m (.configuration (.foreignMetadata m.driverId driverId))
  | unknown : m.driverId = driverId → x.guard.registry.get? driverId = none →
      Refuses x driverId q m (.unknownDriver driverId)
  | denied {v} : x.Denies driverId q m v → Refuses x driverId q m (.security v)
  | uncompiled {d e} : x.Compiles driverId q m d (.error e) → Refuses x driverId q m e

/-- A query that the guard allows is approved if it compiles. -/
theorem approve_of_allowed {d : Driver} (hd : x.guard.registry.get? m.driverId = some d)
    (hallow : x.guard.authorize q m = .ok .allow) :
    x.approve m.driverId q m =
      (q.compile d x.translation).map (Work.mk (d.sessionSetup x.session)) := by
  rw [approve, if_neg (not_not.mpr rfl), Registry.resolve_of_get? hd, hallow]
  cases hcompile : q.compile d x.translation <;>
    simp [Decision.toResult, hcompile, Except.map, bind, Except.bind, pure, Except.pure]

/-- A query that the guard denies is not approved. -/
theorem approve_of_denied {d : Driver} {v : Violation}
    (hd : x.guard.registry.get? m.driverId = some d)
    (hdeny : x.guard.authorize q m = .ok (.deny v)) :
    x.approve m.driverId q m = .error (.security v) := by
  rw [approve, if_neg (not_not.mpr rfl), Registry.resolve_of_get? hd, hdeny]
  rfl

/-- The guard comes to a decision for every known driver. -/
theorem exists_decision {d : Driver} (hd : x.guard.registry.get? m.driverId = some d) :
    ∃ decision, x.guard.authorize q m = .ok decision := by
  cases q with
  | plan p => exact ⟨_, Guard.authorize_plan hd p 0⟩
  | native sql params => exact ⟨_, Guard.authorize_native hd sql params 0⟩

theorem Approves.approve_eq {w : Work} (hw : x.Approves driverId q m w) :
    x.approve driverId q m = .ok w := by
  obtain ⟨d, ⟨rfl, hd, hallow, hcompile⟩, hsetup⟩ := hw
  rw [approve_of_allowed hd hallow, hcompile, Except.map, ← hsetup]

theorem Refuses.approve_eq {e : Error} (h : x.Refuses driverId q m e) :
    x.approve driverId q m = .error e := by
  cases h with
  | foreign hname => rw [approve, if_pos hname]
  | unknown hname hd =>
      subst hname
      rw [approve, if_neg (not_not.mpr rfl), Registry.resolve, hd]
      rfl
  | denied h =>
      obtain ⟨rfl, ⟨d, hd⟩, hdeny⟩ := h
      exact approve_of_denied hd hdeny
  | uncompiled h =>
      obtain ⟨rfl, hd, hallow, hcompile⟩ := h
      rw [approve_of_allowed hd hallow, hcompile, Except.map]

/-- A query is approved, or refused by the first of the checks that fails. -/
theorem approves_or_refuses (x : Executor σ κ) (driverId : String) (q : Query) (m : Metadata) :
    (∃ w, x.Approves driverId q m w) ∨ ∃ e, x.Refuses driverId q m e := by
  by_cases hname : m.driverId = driverId
  · subst hname
    cases hd : x.guard.registry.get? m.driverId with
    | none => exact .inr ⟨_, .unknown rfl hd⟩
    | some d =>
        obtain ⟨decision, hdecision⟩ := exists_decision (q := q) hd
        cases decision with
        | deny v => exact .inr ⟨_, .denied ⟨rfl, ⟨d, hd⟩, hdecision⟩⟩
        | allow =>
            cases hcompile : q.compile d x.translation with
            | ok statement =>
                refine .inl ⟨⟨d.sessionSetup x.session, statement⟩, ?_⟩
                exact ⟨d, ⟨rfl, hd, hdecision, hcompile⟩, rfl⟩
            | error e => exact .inr ⟨e, .uncompiled ⟨rfl, hd, hdecision, hcompile⟩⟩
  · exact .inr ⟨_, .foreign hname⟩

/-- What is approved is not refused. -/
theorem Approves.not_refuses {w : Work} {e : Error} (hw : x.Approves driverId q m w) :
    ¬ x.Refuses driverId q m e :=
  fun h => nomatch hw.approve_eq.symm.trans h.approve_eq

theorem Refuses.unique {e e' : Error} (h : x.Refuses driverId q m e)
    (h' : x.Refuses driverId q m e') : e = e' :=
  Except.error.inj (h.approve_eq.symm.trans h'.approve_eq)

/-! ## Executions -/

/-- All that can happen in an execution, with the events in their order, when the connection would
be lent under the number `n`. -/
inductive Run (x : Executor σ κ) (driverId : String) (q : Query) (m : Metadata) (n : Nat) (s : σ) :
    Except Error QueryResult → List Event → σ → Prop where
  | refused {e} : x.Refuses driverId q m e → Run x driverId q m n s (.error e) [] s
  | unavailable {w e s'} : x.Approves driverId q m w → x.source.acquire m s = (.error e, s') →
      Run x driverId q m n s (.error e) [.refuse m e] s'
  | unprepared {w c s' e events c'} : x.Approves driverId q m w →
      x.source.acquire m s = (.ok c, s') →
      x.source.Prepares n w.setup c events (.error e) c' →
      Run x driverId q m n s (.error e) (.lend m n :: (events ++ [.release n]))
        (x.source.release c' s')
  | performed {w c s' events c' result c''} : x.Approves driverId q m w →
      x.source.acquire m s = (.ok c, s') →
      x.source.Prepares n w.setup c events (.ok ()) c' →
      x.pipeline w.statement c' = (result, c'') →
      Run x driverId q m n s result
        (.lend m n :: (events ++ [.send n w.statement (failureOf result), .release n]))
        (x.source.release c'' s')

variable {n : Nat} {s s' : σ} {result : Except Error QueryResult} {events : List Event}

/-! The exits of an execution, one equation for each. -/

variable {w : Work} {e : Error} {c c' c'' : κ}

theorem execute_of_refused (hwork : x.approve driverId q m = .error e) :
    x.execute driverId q m s = (.error e, s) := by
  rw [execute, hwork]

theorem execute_of_unavailable (hwork : x.approve driverId q m = .ok w)
    (hacquire : x.source.acquire m s = (.error e, s')) :
    x.execute driverId q m s = (.error e, s') := by
  rw [execute, hwork, hacquire]

theorem execute_of_unprepared (hwork : x.approve driverId q m = .ok w)
    (hacquire : x.source.acquire m s = (.ok c, s'))
    (hsetup : x.source.prepare w.setup c = (.error e, c')) :
    x.execute driverId q m s = (.error e, x.source.release c' s') := by
  simp only [execute, hwork, hacquire, perform, hsetup]

theorem execute_of_prepared (hwork : x.approve driverId q m = .ok w)
    (hacquire : x.source.acquire m s = (.ok c, s'))
    (hsetup : x.source.prepare w.setup c = (.ok (), c'))
    (hsend : x.pipeline w.statement c' = (result, c'')) :
    x.execute driverId q m s = (result, x.source.release c'' s') := by
  simp only [execute, hwork, hacquire, perform, hsetup, hsend]

/-- A run says what the execution comes to. -/
theorem Run.execute_eq (h : x.Run driverId q m n s result events s') :
    x.execute driverId q m s = (result, s') := by
  cases h with
  | refused h => exact execute_of_refused h.approve_eq
  | unavailable hw hacquire => exact execute_of_unavailable hw.approve_eq hacquire
  | unprepared hw hacquire hsetup =>
      exact execute_of_unprepared hw.approve_eq hacquire hsetup.prepare_eq
  | performed hw hacquire hsetup hsend =>
      exact execute_of_prepared hw.approve_eq hacquire hsetup.prepare_eq hsend

/-- An execution that keeps a ledger enters the events of a run. -/
theorem execute_recorded (x : Executor σ κ) (driverId : String) (q : Query) (m : Metadata)
    (l : Ledger σ) :
    ∃ result events s', x.Run driverId q m l.events.length l.state result events s' ∧
      x.recorded.execute driverId q m l = (result, ⟨l.events ++ events, s'⟩) := by
  obtain ⟨w, hw⟩ | ⟨e, he⟩ := x.approves_or_refuses driverId q m
  · have hwork : x.recorded.approve driverId q m = .ok w := hw.approve_eq
    rcases hacquire : x.source.acquire m l.state with ⟨e | c, s'⟩
    · have hrefuse : x.recorded.source.acquire m l =
          (.error e, ⟨l.events ++ [.refuse m e], s'⟩) := by
        simp only [recorded, Source.recorded, hacquire]
      exact ⟨_, _, s', .unavailable hw hacquire, execute_of_unavailable hwork hrefuse⟩
    · have hlend : x.recorded.source.acquire m l =
          (.ok ⟨l.events.length, [], c⟩, ⟨l.events ++ [.lend m l.events.length], s'⟩) := by
        simp only [recorded, Source.recorded, hacquire]
      obtain ⟨outcome, events, c', hsetup, hprepare⟩ :=
        x.source.prepare_recorded w.setup ⟨l.events.length, [], c⟩
      cases outcome with
      | error e =>
          refine ⟨_, _, _, .unprepared hw hacquire hsetup, ?_⟩
          rw [execute_of_unprepared hwork hlend hprepare]
          simp only [recorded, Source.recorded, List.append_assoc, List.nil_append,
            List.singleton_append]
      | ok _ =>
          rcases hsend : x.pipeline w.statement c' with ⟨result, c''⟩
          have henter : x.recorded.pipeline w.statement ⟨l.events.length, events, c'⟩ =
              (result, ⟨l.events.length,
                events ++ [.send l.events.length w.statement (failureOf result)], c''⟩) := by
            simp only [recorded, Pipeline.recorded, hsend, Loan.enter]
          refine ⟨_, _, _, .performed hw hacquire hsetup hsend, ?_⟩
          rw [execute_of_prepared hwork hlend hprepare henter]
          simp only [recorded, Source.recorded, List.append_assoc, List.singleton_append]
  · exact ⟨_, _, _, .refused he, by rw [List.append_nil]; exact execute_of_refused he.approve_eq⟩

/-! ## What the events show -/

/-- What is sent over the connection that was lent under the number `n`. -/
inductive Course (work : Work) (n : Nat) : Except Error QueryResult → List Event → Prop where
  /-- A session statement failed: none behind it is sent, nor is the query. -/
  | stopped {before sql after failure} : work.setup = before ++ sql :: after →
      Course work n (.error failure)
        (Event.prepared n before ++ [.execute n sql [] (some failure), .release n])
  /-- The session was prepared: the query is sent, and its outcome is the result. -/
  | finished {outcome} :
      Course work n outcome
        (Event.prepared n work.setup ++
          [.send n work.statement (failureOf outcome), .release n])

/-- How an execution that comes to `result` with `events` conducts itself, when the connection would
be lent under the number `n`. -/
structure Conduct (x : Executor σ κ) (driverId : String) (q : Query) (m : Metadata) (n : Nat)
    (result : Except Error QueryResult) (events : List Event) : Prop where
  /-- A connection is asked for if and only if the query is approved, and with its own metadata. -/
  asks : ∀ asked, (∃ event ∈ events, event.asked? = some asked) ↔
    asked = m ∧ ∃ w, x.Approves driverId q m w
  /-- Unless the query is approved, the first check that fails is the result and nothing happens. -/
  refuses : ∀ e, x.Refuses driverId q m e → result = .error e ∧ events = []
  /-- A violation is the result exactly if the guard denied the query with it, unless the driver
  compiled the query to that very error or somebody who was asked answered with it. -/
  denies : ∀ v, result = .error (.security v) ↔ x.Denies driverId q m v ∨
    (∃ d, x.Compiles driverId q m d (.error (.security v))) ∨
    ∃ event ∈ events, event.failure? = some (.security v)
  /-- Where no connection is lent, nothing is sent and nothing comes back. -/
  unavailable : ∀ asked e, Event.refuse asked e ∈ events →
    result = .error e ∧ events = [.refuse m e]
  /-- A connection that is lent takes the course of the approved work, from the first event on. -/
  lends : ∀ asked k, Event.lend asked k ∈ events →
    ∃ w rest, x.Approves driverId q m w ∧ events = .lend m n :: rest ∧ Course w n result rest
  /-- A connection that is lent comes back once, as the last event. -/
  releases : ∀ asked k, Event.lend asked k ∈ events →
    ∃ before, events = before ++ [.release k] ∧ ∀ j, Event.release j ∉ before
  /-- An error that is met is the result. -/
  fails : ∀ event ∈ events, ∀ e, event.failure? = some e → result = .error e

/-- A course is statements and the release; the last of the statements has the error of the result,
those before it have none. -/
theorem Course.shape {rest : List Event} (h : Course w n result rest) :
    ∃ statements final, rest = Event.prepared n statements ++ [final, .release n] ∧
      final.asked? = none ∧ (∀ j, final ≠ .release j) ∧ final.failure? = failureOf result := by
  cases h with
  | stopped => exact ⟨_, _, rfl, rfl, nofun, rfl⟩
  | finished => exact ⟨_, _, rfl, rfl, nofun, rfl⟩

theorem Course.asks_nothing {rest : List Event} (h : Course w n result rest) :
    ∀ event ∈ rest, event.asked? = none := by
  obtain ⟨statements, final, rfl, hasked, -, -⟩ := h.shape
  intro event hevent
  obtain hprepared | hevent := List.mem_append.mp hevent
  · obtain ⟨sql, rfl⟩ := Event.mem_prepared hprepared
    rfl
  · obtain rfl | rfl := List.mem_pair.mp hevent
    · exact hasked
    · rfl

theorem Course.fails_iff {rest : List Event} (h : Course w n result rest) (e : Error) :
    (∃ event ∈ rest, event.failure? = some e) ↔ result = .error e := by
  obtain ⟨statements, final, rfl, -, -, hfailure⟩ := h.shape
  rw [← failureOf_eq_some, ← hfailure]
  constructor
  · rintro ⟨event, hevent, he⟩
    obtain hprepared | hevent := List.mem_append.mp hevent
    · obtain ⟨sql, rfl⟩ := Event.mem_prepared hprepared
      exact nomatch he
    · obtain rfl | rfl := List.mem_pair.mp hevent
      · exact he
      · exact nomatch he
  · exact fun he => ⟨final, by simp, he⟩

theorem Course.releases {rest : List Event} (h : Course w n result rest) :
    ∃ before, rest = before ++ [.release n] ∧ ∀ j, Event.release j ∉ before := by
  obtain ⟨statements, final, rfl, -, hrelease, -⟩ := h.shape
  refine ⟨Event.prepared n statements ++ [final], by rw [List.append_assoc]; rfl, fun j hj => ?_⟩
  obtain hprepared | hj := List.mem_append.mp hj
  · obtain ⟨sql, hsql⟩ := Event.mem_prepared hprepared
    exact nomatch hsql
  · exact hrelease j (List.mem_singleton.mp hj).symm

/-- The guard denies no query that is approved. -/
theorem Approves.not_denied (hw : x.Approves driverId q m w) (v : Violation) :
    ¬ (x.Denies driverId q m v ∨ ∃ d, x.Compiles driverId q m d (.error (.security v))) := by
  rintro (h | ⟨d, h⟩)
  · exact hw.not_refuses (.denied h)
  · exact hw.not_refuses (.uncompiled h)

/-- A query is refused with a violation by the guard or by the compiler. -/
theorem refuses_security {v : Violation} : x.Refuses driverId q m (.security v) ↔
    x.Denies driverId q m v ∨ ∃ d, x.Compiles driverId q m d (.error (.security v)) := by
  constructor
  · intro h
    cases h with
    | denied h => exact .inl h
    | uncompiled h => exact .inr ⟨_, h⟩
  · rintro (h | ⟨d, h⟩)
    · exact .denied h
    · exact .uncompiled h

theorem conduct_of_refuses (he : x.Refuses driverId q m e) :
    x.Conduct driverId q m n (.error e) [] where
  asks asked := by
    constructor
    · exact fun ⟨_, hevent, _⟩ => nomatch hevent
    · exact fun ⟨_, _, hw⟩ => absurd he hw.not_refuses
  refuses e' he' := ⟨by rw [he.unique he'], rfl⟩
  denies v := by
    rw [← or_assoc, ← refuses_security]
    constructor
    · intro h
      exact .inl (Except.error.inj h ▸ he)
    · rintro (h | ⟨_, hevent, _⟩)
      · rw [he.unique h]
      · exact nomatch hevent
  unavailable := nofun
  lends := nofun
  releases := nofun
  fails := nofun

theorem conduct_of_unavailable (hw : x.Approves driverId q m w) :
    x.Conduct driverId q m n (.error e) [.refuse m e] where
  asks asked := by
    simp only [List.mem_singleton, exists_eq_left, Event.asked?, Option.some.injEq]
    exact ⟨fun h => ⟨h.symm, w, hw⟩, fun h => h.1.symm⟩
  refuses e' he' := absurd he' hw.not_refuses
  denies v := by
    rw [← or_assoc, or_iff_right (hw.not_denied v)]
    simp only [List.mem_singleton, exists_eq_left, Event.failure?, Option.some.injEq,
      Except.error.injEq]
  unavailable asked e' h := by
    obtain ⟨rfl, rfl⟩ := Event.refuse.inj (List.mem_singleton.mp h)
    exact ⟨rfl, rfl⟩
  lends asked k h := nomatch List.mem_singleton.mp h
  releases asked k h := nomatch List.mem_singleton.mp h
  fails event hevent e' he' := by
    obtain rfl := List.mem_singleton.mp hevent
    rw [Option.some.inj he']

theorem conduct_of_lent {rest : List Event} (hw : x.Approves driverId q m w)
    (h : Course w n result rest) : x.Conduct driverId q m n result (.lend m n :: rest) where
  asks asked := by
    constructor
    · rintro ⟨event, hevent, hasked⟩
      obtain rfl | hrest := List.mem_cons.mp hevent
      · exact ⟨(Option.some.inj hasked).symm, w, hw⟩
      · exact nomatch (h.asks_nothing event hrest).symm.trans hasked
    · rintro ⟨rfl, -⟩
      exact ⟨_, List.mem_cons_self, rfl⟩
  refuses e' he' := absurd he' hw.not_refuses
  denies v := by
    rw [← or_assoc, or_iff_right (hw.not_denied v), List.exists_mem_cons_iff,
      h.fails_iff (.security v)]
    exact (or_iff_right nofun).symm
  unavailable asked e' hevent := by
    obtain heq | hrest := List.mem_cons.mp hevent
    · exact nomatch heq
    · exact nomatch h.asks_nothing _ hrest
  lends asked k _ := ⟨w, rest, hw, rfl, h⟩
  releases asked k hevent := by
    obtain heq | hrest := List.mem_cons.mp hevent
    · obtain ⟨rfl, rfl⟩ := Event.lend.inj heq
      obtain ⟨before, rfl, hbefore⟩ := h.releases
      refine ⟨.lend asked k :: before, rfl, fun j hj => ?_⟩
      obtain heq | hj := List.mem_cons.mp hj
      · exact nomatch heq
      · exact hbefore j hj
    · exact nomatch h.asks_nothing _ hrest
  fails event hevent e' he' := by
    obtain rfl | hrest := List.mem_cons.mp hevent
    · exact nomatch he'
    · exact (h.fails_iff e').mp ⟨event, hrest, he'⟩

theorem Run.conduct (h : x.Run driverId q m n s result events s') :
    x.Conduct driverId q m n result events := by
  cases h with
  | refused he => exact conduct_of_refuses he
  | unavailable hw _ => exact conduct_of_unavailable hw
  | unprepared hw _ hsetup =>
      obtain ⟨before, sql, after, hsplit, rfl⟩ := hsetup.of_error
      rw [List.append_assoc]
      exact conduct_of_lent hw (.stopped hsplit)
  | performed hw _ hsetup _ =>
      rw [hsetup.of_ok]
      exact conduct_of_lent hw .finished

/-- Every execution is a run and conducts itself as one: a connection is asked for only after
approval, takes the course of the approved work, and comes back once, as the last event, whatever
failed. A ledger enters all events of the run and changes nothing else. -/
theorem execute_conducts (x : Executor σ κ) (driverId : String) (q : Query) (m : Metadata)
    (l : Ledger σ) :
    ∃ result events s', x.Run driverId q m l.events.length l.state result events s' ∧
      x.execute driverId q m l.state = (result, s') ∧
      x.recorded.execute driverId q m l = (result, ⟨l.events ++ events, s'⟩) ∧
      x.Conduct driverId q m l.events.length result events := by
  obtain ⟨result, events, s', hrun, hrecorded⟩ := x.execute_recorded driverId q m l
  exact ⟨result, events, s', hrun, hrun.execute_eq, hrecorded, hrun.conduct⟩

/-- A source that answers every request for a connection with a violation of its own. -/
def vetoing : Source Unit Unit where
  execute _ _ c := (.ok 0, c)
  query _ _ c := (.ok .empty, c)
  acquire _ s := (.error (.security .unparseable), s)
  release _ s := s

/-- An executor over one driver, the standard one but for its truncation. -/
def vetoed (truncate : Option (TruncateUnit → Operation)) : Executor Unit Unit where
  guard :=
    let dialect : Dialect := { Ansi.dialect with truncate }
    ⟨⟨⟨{ Ansi.descriptor with dialect }, []⟩, []⟩, {}⟩
  source := vetoing

/-- The guard allows both queries, and yet both fail with a violation: the first with what the
source answers, the second already with what the driver answers when the query is compiled. -/
theorem vetoed_fails_undenied :
    let m : Metadata := { driverId := Ansi.id, descriptor := ⟨"db", []⟩ }
    let table : Query := .plan (.ofTable "t")
    let years : Query :=
      .plan { source := ⟨none, "t"⟩, groupBy := [.truncate .year (.column none "day")] }
    let standard := vetoed Ansi.dialect.truncate
    let failing := vetoed (some fun _ _ => throw (.security .unparseable))
    ((standard.execute Ansi.id table m ()).1 = .error (.security .unparseable) ∧
        ∀ v, ¬ standard.Denies Ansi.id table m v) ∧
      (failing.execute Ansi.id years m ()).1 = .error (.security .unparseable) ∧
        ∀ v, ¬ failing.Denies Ansi.id years m v := by
  intro m table years standard failing
  have hallowed : ∀ truncate p v, ¬ (vetoed truncate).Denies Ansi.id (.plan p) m v := by
    intro truncate p v ⟨_, ⟨d, hd⟩, hdeny⟩
    rw [Guard.authorize_plan hd] at hdeny
    exact nomatch hdeny
  exact ⟨⟨by rfl, hallowed _ _⟩, by rfl, hallowed _ _⟩

end Executor

end Sluice
