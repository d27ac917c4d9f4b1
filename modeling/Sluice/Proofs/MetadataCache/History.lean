import Mathlib.Data.List.Nodup
import Sluice.MetadataCache

/-!
# The cache against its history

Calls that do not overlap, with a clock that never goes back. Whether a call is answered from the
cache, and with what, is told by the calls before it: by the last fetch of the key that succeeded,
its age, and the invalidations since. Expired entries and the sweep show nowhere in the answers.
-/

namespace Sluice

namespace MetadataCache

/-! ## Calls and events -/

/-- A call with its readings of the clock. -/
inductive Call (κ : Type) where
  | get (key : κ) (asked : Nat) (answered : Readings κ)
  | invalidate (key : κ) (moment : Nat)

namespace Call

variable {κ : Type}

def key : Call κ → κ
  | get key _ _ | invalidate key _ => key

/-- The first reading of the clock. -/
def begins : Call κ → Nat
  | get _ asked _ => asked
  | invalidate _ moment => moment

/-- The last reading of the clock. -/
def ends : Call κ → Nat
  | get _ _ answered => answered.stamp
  | invalidate _ moment => moment

/-- The reading of the clock at which the entry of a key is looked at. -/
def looks (key : κ) : Call κ → Nat
  | get _ _ answered => answered.sweep key
  | invalidate _ moment => moment

end Call

/-- A finished call: what it returned, and what the source was asked meanwhile and answered. -/
structure Event (κ μ : Type) where
  call : Call κ
  result : Option (Except Error μ) := none
  fetches : List (κ × Except Error μ) := []

variable {κ μ σ : Type}

/-- The source with a ledger of what it is asked and answers. -/
def audited (fetch : Fetcher σ κ μ) : Fetcher (List (κ × Except Error μ) × σ) κ μ :=
  fun key (ledger, s) =>
    let (result, s) := fetch key s
    (result, ledger ++ [(key, result)], s)

/-- The call begins when all others have ended, and its readings of the clock never go back. -/
structure Follows (events : List (Event κ μ)) (call : Call κ) : Prop where
  after : ∀ e ∈ events, e.call.ends ≤ call.begins
  forward : ∀ key, call.begins ≤ call.looks key ∧ call.looks key ≤ call.ends

/-- The event of a call that fetched an entry. -/
def fetching (x : CachedEntry κ μ) (asked : Nat) (sweep : κ → Nat) : Event κ μ :=
  ⟨.get x.key asked ⟨sweep, x.fetchedAt⟩, some (.ok x.content), [(x.key, .ok x.content)]⟩

/-- An entry was fetched with success, and its key has not been invalidated since. -/
def Stands (events : List (Event κ μ)) (x : CachedEntry κ μ) : Prop :=
  ∃ before after asked sweep, events = before ++ fetching x asked sweep :: after ∧
    ∀ e ∈ after, ∀ moment, e.call ≠ .invalidate x.key moment

/-- A fetch less than the time to live ago answered `content`, and the key has not been invalidated
since. -/
def Remembers (ttl : Nat) (events : List (Event κ μ)) (now : Nat) (key : κ) (content : μ) : Prop :=
  ∃ fetchedAt, Stands events ⟨key, content, fetchedAt⟩ ∧ now - fetchedAt < ttl

theorem not_stands_nil (x : CachedEntry κ μ) : ¬ Stands [] x := by
  rintro ⟨before, after, asked, sweep, heq, -⟩
  simp at heq

/-- One more event is the fetch of an entry, or leaves it standing unless it invalidates its key. -/
theorem stands_concat {events : List (Event κ μ)} {e : Event κ μ} {x : CachedEntry κ μ} :
    Stands (events ++ [e]) x ↔
      (Stands events x ∧ ∀ moment, e.call ≠ .invalidate x.key moment) ∨
        ∃ asked sweep, e = fetching x asked sweep := by
  constructor
  · rintro ⟨before, after, asked, sweep, heq, hafter⟩
    rcases List.eq_nil_or_concat after with rfl | ⟨after, last, rfl⟩
    · obtain ⟨-, hlast⟩ := List.append_inj' heq rfl
      exact .inr ⟨asked, sweep, List.singleton_inj.mp hlast⟩
    · rw [List.concat_eq_append, ← List.cons_append, ← List.append_assoc] at heq
      obtain ⟨rfl, hlast⟩ := List.append_inj' heq rfl
      obtain rfl := List.singleton_inj.mp hlast
      exact .inl ⟨⟨before, after, asked, sweep, rfl, fun e he => hafter e (by simp [he])⟩,
        hafter e (by simp)⟩
  · rintro (⟨⟨before, after, asked, sweep, rfl, hafter⟩, he⟩ | ⟨asked, sweep, rfl⟩)
    · refine ⟨before, after ++ [e], asked, sweep, by simp, fun e' he' => ?_⟩
      rcases List.mem_append.mp he' with h | h
      · exact hafter e' h
      · exact List.mem_singleton.mp h ▸ he
    · exact ⟨events, [], asked, sweep, rfl, fun e he => (List.not_mem_nil he).elim⟩

/-! ### The invariant -/

/-- No key has two entries. -/
def DistinctKeys (c : MetadataCache κ μ) : Prop := (c.entries.map CachedEntry.key).Nodup

/-- The entries are those that stand, up to some that have expired. -/
structure Reflects (ttl : Nat) (events : List (Event κ μ)) (c : MetadataCache κ μ) : Prop where
  ttl_eq : c.ttl = ttl
  distinct : c.DistinctKeys
  recorded : ∀ x ∈ c.entries, Stands events x
  complete : ∀ x, Stands events x → ∀ now, (∀ e ∈ events, e.call.ends ≤ now) →
    now - x.fetchedAt < ttl → x ∈ c.entries

theorem Reflects.start (ttl : Nat) : Reflects (κ := κ) (μ := μ) ttl [] { ttl } where
  ttl_eq := rfl
  distinct := List.nodup_nil
  recorded _ hx := (List.not_mem_nil hx).elim
  complete x hx := (not_stands_nil x hx).elim

/-! ## Running calls -/

variable [DecidableEq κ]

/-- Make a call: its event, the cache afterwards, and the source afterwards. -/
def perform (fetch : Fetcher σ κ μ) (c : MetadataCache κ μ) (s : σ) (call : Call κ) :
    Event κ μ × MetadataCache κ μ × σ :=
  match call with
  | .get key asked answered =>
    let (result, c, ledger, s) := c.get (audited fetch) asked answered key ([], s)
    (⟨call, some result, ledger⟩, c, s)
  | .invalidate key _ => (⟨call, none, []⟩, c.invalidate key, s)

/-- Calls one after another, from an empty cache and any state of the source. -/
inductive Serial (fetch : Fetcher σ κ μ) (ttl : Nat) :
    List (Event κ μ) → MetadataCache κ μ → σ → Prop where
  | start (s : σ) : Serial fetch ttl [] { ttl } s
  | call {events c s} (call : Call κ) : Serial fetch ttl events c s → Follows events call →
      Serial fetch ttl (events ++ [(perform fetch c s call).1]) (perform fetch c s call).2.1
        (perform fetch c s call).2.2

/-- The ways in which a call can end. -/
inductive Performs (fetch : Fetcher σ κ μ) (c : MetadataCache κ μ) (s : σ) :
    Call κ → Event κ μ → MetadataCache κ μ → σ → Prop where
  | hit {key asked answered content} : c.lookup? asked key = some content →
      Performs fetch c s (.get key asked answered)
        ⟨.get key asked answered, some (.ok content), []⟩ c s
  | fetched {key asked answered content s'} : c.lookup? asked key = none →
      fetch key s = (.ok content, s') →
      Performs fetch c s (.get key asked answered)
        (fetching ⟨key, content, answered.stamp⟩ asked answered.sweep)
        (c.store answered key content) s'
  | failed {key asked answered error s'} : c.lookup? asked key = none →
      fetch key s = (.error error, s') →
      Performs fetch c s (.get key asked answered)
        ⟨.get key asked answered, some (.error error), [(key, .error error)]⟩ c s'
  | invalidated {key moment} :
      Performs fetch c s (.invalidate key moment) ⟨.invalidate key moment, none, []⟩
        (c.invalidate key) s

variable {fetch : Fetcher σ κ μ} {c c' : MetadataCache κ μ} {s s' : σ} {call : Call κ}
  {event : Event κ μ} {events : List (Event κ μ)} {ttl now asked : Nat} {clock : Readings κ}
  {key : κ} {content : μ} {x : CachedEntry κ μ} {sweep : κ → Nat}

theorem perform_performs (fetch : Fetcher σ κ μ) (c : MetadataCache κ μ) (s : σ) (call : Call κ) :
    Performs fetch c s call (perform fetch c s call).1 (perform fetch c s call).2.1
      (perform fetch c s call).2.2 := by
  cases call with
  | invalidate key moment => exact .invalidated
  | get key asked answered =>
      cases hlookup : c.lookup? asked key with
      | some content =>
          simp only [perform, MetadataCache.get, hlookup]
          exact .hit hlookup
      | none =>
          rcases hfetch : fetch key s with ⟨error | content, s'⟩
          · simp only [perform, MetadataCache.get, hlookup, audited, hfetch]
            exact .failed hlookup hfetch
          · simp only [perform, MetadataCache.get, hlookup, audited, hfetch]
            exact .fetched hlookup hfetch

theorem Performs.call_eq (h : Performs fetch c s call event c' s') : event.call = call := by
  cases h <;> rfl

/-! ## Entries -/

theorem mem_store : x ∈ (c.store clock key content).entries ↔
    (x ∈ c.entries ∧ clock.sweep x.key - x.fetchedAt < c.ttl ∧ x.key ≠ key) ∨
      x = ⟨key, content, clock.stamp⟩ := by
  simp [store, isFresh]

theorem mem_invalidate : x ∈ (c.invalidate key).entries ↔ x ∈ c.entries ∧ x.key ≠ key := by
  simp [invalidate]

theorem DistinctKeys.store (h : c.DistinctKeys) : (c.store clock key content).DistinctKeys := by
  rw [DistinctKeys, MetadataCache.store, List.map_append, List.map_singleton,
    List.nodup_append]
  refine ⟨h.sublist (List.filter_sublist.map _), List.nodup_singleton _, ?_⟩
  rintro _ hkept _ (_ | ⟨_, ⟨⟩⟩)
  obtain ⟨x, hx, rfl⟩ := List.mem_map.mp hkept
  have hother := (List.mem_filter.mp hx).2
  simp only [Bool.and_eq_true, decide_eq_true_eq] at hother
  exact hother.2

theorem DistinctKeys.invalidate (h : c.DistinctKeys) : (c.invalidate key).DistinctKeys :=
  List.Nodup.sublist (List.filter_sublist.map _) h

/-- A key is found exactly if it has an entry that is fresh. -/
theorem lookup?_eq_some (h : c.DistinctKeys) :
    c.lookup? now key = some content ↔
      ∃ fetchedAt, ⟨key, content, fetchedAt⟩ ∈ c.entries ∧ now - fetchedAt < c.ttl := by
  rw [lookup?]
  constructor
  · intro hfound
    split at hfound
    · next x hfind =>
        have hkey : x.key = key := by simpa using List.find?_some hfind
        by_cases hfresh : c.isFresh now x = true
        · rw [if_pos hfresh] at hfound
          obtain rfl := Option.some.inj hfound
          exact ⟨x.fetchedAt, hkey ▸ List.mem_of_find?_eq_some hfind, of_decide_eq_true hfresh⟩
        · rw [if_neg hfresh] at hfound
          exact nomatch hfound
    · exact nomatch hfound
  · rintro ⟨fetchedAt, hmem, hfresh⟩
    cases hfind : c.entries.find? fun e => e.key = key with
    | none => simpa using List.find?_eq_none.mp hfind _ hmem
    | some x =>
        have hkey : x.key = key := by simpa using List.find?_some hfind
        -- the only entry of the key
        obtain rfl := List.inj_on_of_nodup_map h (List.mem_of_find?_eq_some hfind) hmem hkey
        exact if_pos (decide_eq_true hfresh)

/-! ### The entries and the history -/

/-- A lookup finds what the history remembers. -/
theorem Reflects.lookup?_eq_some (h : Reflects ttl events c)
    (hclock : ∀ e ∈ events, e.call.ends ≤ now) :
    c.lookup? now key = some content ↔ Remembers ttl events now key content := by
  rw [MetadataCache.lookup?_eq_some h.distinct, h.ttl_eq, Remembers]
  constructor
  · rintro ⟨fetchedAt, hmem, hfresh⟩
    exact ⟨fetchedAt, h.recorded _ hmem, hfresh⟩
  · rintro ⟨fetchedAt, hstands, hfresh⟩
    exact ⟨fetchedAt, h.complete _ hstands now hclock hfresh, hfresh⟩

/-- An entry after a call was there before, untouched by it, or is the one that was fetched. -/
theorem Performs.mem_entries (h : Performs fetch c s call event c' s') (hx : x ∈ c'.entries) :
    (x ∈ c.entries ∧ ∀ moment, event.call ≠ .invalidate x.key moment) ∨
      ∃ asked sweep, event = fetching x asked sweep := by
  cases h with
  | hit | failed => exact .inl ⟨hx, nofun⟩
  | @fetched key asked answered _ _ _ _ =>
      rcases mem_store.mp hx with ⟨hold, -, -⟩ | rfl
      · exact .inl ⟨hold, nofun⟩
      · exact .inr ⟨asked, answered.sweep, rfl⟩
  | invalidated =>
      obtain ⟨hold, hother⟩ := mem_invalidate.mp hx
      refine .inl ⟨hold, fun moment heq => ?_⟩
      injection heq with hkey
      exact hother hkey.symm

/-- An entry that is fresh when a call looks at it is left alone, unless the call invalidates its
key. -/
theorem Performs.keeps (h : Performs fetch c s call event c' s') (hdistinct : c.DistinctKeys)
    (hforward : call.begins ≤ call.looks x.key) (hx : x ∈ c.entries)
    (hfresh : call.looks x.key - x.fetchedAt < c.ttl)
    (hvalid : ∀ moment, call ≠ .invalidate x.key moment) : x ∈ c'.entries := by
  cases h with
  | hit | failed => exact hx
  | @fetched key asked answered _ _ hlookup _ =>
      refine mem_store.mpr (.inl ⟨hx, hfresh, ?_⟩)
      -- had the key been its own, the lookup would have found it
      rintro rfl
      have hearlier : asked - x.fetchedAt < c.ttl :=
        Nat.lt_of_le_of_lt (Nat.sub_le_sub_right hforward _) hfresh
      rw [(MetadataCache.lookup?_eq_some hdistinct).mpr ⟨x.fetchedAt, hx, hearlier⟩] at hlookup
      exact nomatch hlookup
  | invalidated =>
      refine mem_invalidate.mpr ⟨hx, ?_⟩
      rintro rfl
      exact hvalid _ rfl

/-- What a fetch brought is kept. -/
theorem Performs.stores (h : Performs fetch c s call (fetching x asked sweep) c' s') :
    x ∈ c'.entries := by
  obtain ⟨key, content, fetchedAt⟩ := x
  generalize hevent : fetching _ asked sweep = event at h
  cases h with
  | fetched =>
      simp only [fetching, Event.mk.injEq, Call.get.injEq, Readings.mk.injEq, Option.some.injEq,
        Except.ok.injEq] at hevent
      obtain ⟨⟨rfl, -, -, rfl⟩, rfl, -⟩ := hevent
      exact mem_store.mpr (.inr rfl)
  | hit | failed | invalidated => simp [fetching] at hevent

theorem Performs.ttl_eq (h : Performs fetch c s call event c' s') : c'.ttl = c.ttl := by
  cases h <;> rfl

theorem Performs.distinct (h : Performs fetch c s call event c' s') (hc : c.DistinctKeys) :
    c'.DistinctKeys := by
  cases h with
  | hit | failed => exact hc
  | fetched => exact hc.store
  | invalidated => exact hc.invalidate

theorem Reflects.after (h : Reflects ttl events c) (hp : Performs fetch c s call event c' s')
    (hclock : Follows events call) : Reflects ttl (events ++ [event]) c' where
  ttl_eq := hp.ttl_eq.trans h.ttl_eq
  distinct := hp.distinct h.distinct
  recorded x hx := by
    refine stands_concat.mpr ?_
    rcases hp.mem_entries hx with ⟨hold, hvalid⟩ | hnew
    · exact .inl ⟨h.recorded x hold, hvalid⟩
    · exact .inr hnew
  complete x hx now hnow hfresh := by
    have hends : call.ends ≤ now := hp.call_eq ▸ hnow event (by simp)
    rcases stands_concat.mp hx with ⟨hstands, hvalid⟩ | ⟨asked, sweep, rfl⟩
    · have hold : x ∈ c.entries :=
        h.complete x hstands now (fun e he => hnow e (by simp [he])) hfresh
      rw [hp.call_eq] at hvalid
      obtain ⟨hbegins, hlooks⟩ := hclock.forward x.key
      apply hp.keeps h.distinct hbegins hold _ hvalid
      rw [h.ttl_eq]
      exact Nat.lt_of_le_of_lt (Nat.sub_le_sub_right (Nat.le_trans hlooks hends) _) hfresh
    · exact hp.stores

theorem Serial.reflects (h : Serial fetch ttl events c s) : Reflects ttl events c := by
  induction h with
  | start s => exact .start ttl
  | @call events c s call _ hclock ih => exact ih.after (perform_performs fetch c s call) hclock

/-! ## Answers -/

/-- A call told from the calls before it, and what it may do to the entries. -/
structure Accounts (fetch : Fetcher σ κ μ) (ttl : Nat) (events : List (Event κ μ))
    (c : MetadataCache κ μ) (s : σ) (event : Event κ μ) (c' : MetadataCache κ μ) (s' : σ) :
    Prop where
  /-- The ledger beside the source changes nothing. -/
  unaudited : ∀ key asked answered, event.call = .get key asked answered →
    ∃ result, c.get fetch asked answered key s = (result, c', s') ∧ event.result = some result
  /-- The source is left alone exactly if a fetch of the key is remembered. -/
  unasked_iff : ∀ key asked answered, event.call = .get key asked answered →
    (event.fetches = [] ↔ ∃ content, Remembers ttl events asked key content)
  /-- What is remembered is returned, and nothing changes. -/
  cached : ∀ key asked answered content, event.call = .get key asked answered →
    Remembers ttl events asked key content → event.result = some (.ok content) ∧ c' = c ∧ s' = s
  /-- Otherwise the source is asked once, and its answer is returned. -/
  asked_once : ∀ key asked answered, event.call = .get key asked answered →
    (¬ ∃ content, Remembers ttl events asked key content) →
    ∃ result, fetch key s = (result, s') ∧ event.fetches = [(key, result)] ∧
      event.result = some result
  /-- A failure changes no entry. -/
  failure : ∀ error, event.result = some (.error error) → c' = c
  /-- What was fetched is kept, and all that is kept beside it was fresh when it was looked at. -/
  swept : ∀ key asked answered content, event.call = .get key asked answered →
    event.fetches = [(key, .ok content)] →
    ⟨key, content, answered.stamp⟩ ∈ c'.entries ∧
      ∀ x ∈ c'.entries, x ≠ ⟨key, content, answered.stamp⟩ →
        x.key ≠ key ∧ answered.sweep x.key - x.fetchedAt < ttl
  /-- An entry of another key that is fresh when it is looked at stays as it is, the only one of its
  key. -/
  others : ∀ x ∈ c.entries, x.key ≠ event.call.key →
    event.call.looks x.key - x.fetchedAt < ttl → ∀ y, y ∈ c'.entries ∧ y.key = x.key ↔ y = x

theorem Reflects.accounts (h : Reflects ttl events c) (hp : Performs fetch c s call event c' s')
    (hclock : Follows events call) : Accounts fetch ttl events c s event c' s' where
  unaudited key asked answered hcall := by
    obtain rfl := hp.call_eq.symm.trans hcall
    rw [MetadataCache.get]
    cases hp with
    | hit hfound => exact ⟨_, by rw [hfound], rfl⟩
    | fetched hnone hfetch | failed hnone hfetch =>
        refine ⟨_, ?_, rfl⟩
        rw [hnone]
        simp only [hfetch]
  unasked_iff key asked answered hcall := by
    obtain rfl := hp.call_eq.symm.trans hcall
    have hlookup : ∀ content, c.lookup? asked key = some content ↔
        Remembers ttl events asked key content := fun _ => h.lookup?_eq_some hclock.after
    cases hp with
    | hit hfound => exact iff_of_true rfl ⟨_, (hlookup _).mp hfound⟩
    | fetched hnone _ | failed hnone _ =>
        refine iff_of_false nofun ?_
        rintro ⟨content, hremembers⟩
        exact nomatch hnone.symm.trans ((hlookup content).mpr hremembers)
  cached key asked answered content hcall hremembers := by
    obtain rfl := hp.call_eq.symm.trans hcall
    have hfound : c.lookup? asked key = some content :=
      (h.lookup?_eq_some hclock.after).mpr hremembers
    cases hp with
    | hit hfound' =>
        obtain rfl := Option.some.inj (hfound'.symm.trans hfound)
        exact ⟨rfl, rfl, rfl⟩
    | fetched hnone _ | failed hnone _ => exact nomatch hnone.symm.trans hfound
  asked_once key asked answered hcall hforgotten := by
    obtain rfl := hp.call_eq.symm.trans hcall
    cases hp with
    | hit hfound => exact (hforgotten ⟨_, (h.lookup?_eq_some hclock.after).mp hfound⟩).elim
    | fetched _ hfetch | failed _ hfetch => exact ⟨_, hfetch, rfl, rfl⟩
  failure error hresult := by
    cases hp with
    | hit | failed => rfl
    | fetched | invalidated => exact nomatch hresult
  swept key asked answered content hcall hfetches := by
    obtain rfl := hp.call_eq.symm.trans hcall
    cases hp with
    | hit | failed => simp at hfetches
    | fetched _ _ =>
        simp only [fetching, List.cons.injEq, Prod.mk.injEq, Except.ok.injEq] at hfetches
        obtain ⟨⟨-, rfl⟩, -⟩ := hfetches
        refine ⟨mem_store.mpr (.inr rfl), fun x hx hother => ?_⟩
        rcases mem_store.mp hx with ⟨-, hfresh, hkey⟩ | hnew
        · exact ⟨hkey, h.ttl_eq ▸ hfresh⟩
        · exact (hother hnew).elim
  others x hx hkey hfresh y := by
    rw [hp.call_eq] at hkey hfresh
    have hkept : x ∈ c'.entries := by
      apply hp.keeps h.distinct (hclock.forward x.key).1 hx (h.ttl_eq ▸ hfresh)
      rintro moment rfl
      exact hkey rfl
    constructor
    · rintro ⟨hy, hsame⟩
      exact List.inj_on_of_nodup_map (hp.distinct h.distinct) hy hkept hsame
    · rintro rfl
      exact ⟨hkept, rfl⟩

/-- Every call of a series is answered as its history says: from a fetch that is remembered, or
else by one new fetch. A failure changes nothing, a success sweeps out all that has expired, and no
call touches a fresh entry of another key. -/
theorem Serial.perform_accounts (h : Serial fetch ttl events c s) (hclock : Follows events call) :
    Accounts fetch ttl events c s (perform fetch c s call).1 (perform fetch c s call).2.1
      (perform fetch c s call).2.2 :=
  h.reflects.accounts (perform_performs fetch c s call) hclock

/-- A source that answers with the number of the fetch, and fails once. -/
def failsOnce : Fetcher Nat String Nat :=
  fun _ n => (if n = 2 then .error (.io "") else .ok n, n + 1)

/-- A request that reads the clock at each moment from one on: for its lookup, for all entries that
it looks at, and for its stamp. -/
def steadyGet (key : String) (moment : Nat) : Call String :=
  .get key moment ⟨fun _ => moment + 1, moment + 2⟩

theorem follows_steadyGet {events : List (Event String Nat)} {key : String} {moment : Nat}
    (h : ∀ e ∈ events, e.call.ends ≤ moment) : Follows events (steadyGet key moment) :=
  ⟨h, fun _ => ⟨Nat.le_succ _, Nat.le_succ _⟩⟩

/-- Two keys are fetched, one is invalidated and fails, the other expires after two hits. -/
theorem failsOnce_accounts :
    ∃ events c s, Serial failsOnce 10 events c s ∧
      events.map (·.fetches.length) = [1, 1, 0, 0, 1, 0] ∧
      Follows events (steadyGet "id" 13) ∧
      (perform failsOnce c s (steadyGet "id" 13)).1.result = some (.ok 3) ∧
      Accounts failsOnce 10 events c s (perform failsOnce c s (steadyGet "id" 13)).1
        (perform failsOnce c s (steadyGet "id" 13)).2.1
        (perform failsOnce c s (steadyGet "id" 13)).2.2 := by
  have h : ∃ events c s, Serial failsOnce 10 events c s ∧
      events.map (·.fetches.length) = [1, 1, 0, 0, 1, 0] ∧ Follows events (steadyGet "id" 13) ∧
      (perform failsOnce c s (steadyGet "id" 13)).1.result = some (.ok 3) :=
    ⟨_, _, _, .call (steadyGet "id" 11) (.call (steadyGet "other" 9)
      (.call (.invalidate "other" 8) (.call (steadyGet "id" 6) (.call (steadyGet "other" 3)
        (.call (steadyGet "id" 0) (.start 0) (follows_steadyGet (by decide)))
          (follows_steadyGet (by decide))) (follows_steadyGet (by decide)))
            ⟨by decide, fun _ => ⟨Nat.le_refl _, Nat.le_refl _⟩⟩)
              (follows_steadyGet (by decide))) (follows_steadyGet (by decide)),
      by decide, follows_steadyGet (by decide), by decide⟩
  obtain ⟨events, c, s, hserial, hfetches, hclock, hresult⟩ := h
  exact ⟨events, c, s, hserial, hfetches, hclock, hresult, hserial.perform_accounts hclock⟩

end MetadataCache

end Sluice
