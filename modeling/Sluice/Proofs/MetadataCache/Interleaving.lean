import Sluice.MetadataCache

/-!
# Interleaved requests to the cache

Requests run side by side: between the steps of one, any number of steps of others can happen. What
the source answered is stamped with the moment of the answer, so that one can say how old the
metadata are that a request returns. No lock is held while the source is asked. An answer that is in
flight while its key is invalidated, or while another request is answered, is stored all the same.
-/

namespace Sluice

namespace MetadataCache

/-! ## Requests -/

/-- What the source answered, and at which moment. -/
structure Answer (μ : Type) where
  content : μ
  producedAt : Nat
deriving DecidableEq

/-- How far a request has come. -/
inductive Phase (κ μ : Type) where
  | idle
  | missed (key : κ)
  | answered (key : κ) (answer : Answer μ)
  | returned (key : κ) (result : Except Error (Answer μ))

/-- What happens at one moment; all but an invalidation is a step of a numbered request. -/
inductive Action (κ μ : Type) where
  | hit (request : Nat) (key : κ) (answer : Answer μ)
  | miss (request : Nat) (key : κ)
  | answer (request : Nat) (key : κ) (content : μ)
  | failure (request : Nat) (key : κ) (error : Error)
  | store (request : Nat) (key : κ) (answer : Answer μ)
  | invalidate (key : κ)
deriving DecidableEq

/-- The cache and the requests that share it. -/
structure Shared (κ μ : Type) where
  cache : MetadataCache κ (Answer μ)
  requests : Nat → Phase κ μ

variable {κ μ : Type}

namespace Action

/-- The request that makes the step. -/
def request? : Action κ μ → Option Nat
  | hit r _ _ | miss r _ | answer r _ _ | failure r _ _ | store r _ _ => some r
  | invalidate _ => none

/-- The key whose entry the step writes or drops. -/
def touched? : Action κ μ → Option κ
  | store _ key _ | invalidate key => some key
  | hit _ _ _ | miss _ _ | answer _ _ _ | failure _ _ _ => none

end Action

namespace Shared

/-- No request has been made yet, and nothing is cached. -/
def start (ttl : Nat) : Shared κ μ where
  cache := { ttl }
  requests _ := .idle

/-- One request gets into a phase. -/
def enter (s : Shared κ μ) (r : Nat) (phase : Phase κ μ) : Shared κ μ :=
  { s with requests := fun r' => if r' = r then phase else s.requests r' }

theorem enter_requests (s : Shared κ μ) (r r' : Nat) (phase : Phase κ μ) :
    (s.enter r phase).requests r' = if r' = r then phase else s.requests r' := rfl

end Shared

/-! ## Histories -/

section Histories

variable {actions : List (Action κ μ)} {a : Action κ μ} {r i j : Nat} {key : κ}
  {answer : Answer μ}

/-- At moment `i` a request stored the answer that it had got from the source before. -/
structure Stores (actions : List (Action κ μ)) (r : Nat) (key : κ) (answer : Answer μ) (i : Nat) :
    Prop where
  produced : actions[answer.producedAt]? = some (.answer r key answer.content)
  stored : actions[i]? = some (.store r key answer)
  order : answer.producedAt < i

/-- An answer that was stored at moment `i` was in flight at moment `j`. -/
structure Overtaken (actions : List (Action κ μ)) (r : Nat) (key : κ) (answer : Answer μ)
    (j i : Nat) : Prop extends Stores actions r key answer i where
  produced_before : answer.producedAt < j
  stored_after : j < i

/-- A request that looked its key up at moment `i` came back with an answer: with one that was
cached, or after a miss with the one that it got from the source and stored. -/
inductive Returns (actions : List (Action κ μ)) (i : Nat) (key : κ) (answer : Answer μ) :
    Prop where
  | cached {r : Nat} : actions[i]? = some (.hit r key answer) → Returns actions i key answer
  | fetched {r k : Nat} : actions[i]? = some (.miss r key) →
      actions[k]? = some (.store r key answer) → Returns actions i key answer

/-- Strictly between two moments nobody stores or invalidates the key. -/
def Untouched (actions : List (Action κ μ)) (key : κ) (i j : Nat) : Prop :=
  ∀ k a, i < k → k < j → actions[k]? = some a → a.touched? ≠ some key

/-- The request has not missed at this moment or later. -/
def MissedBefore (actions : List (Action κ μ)) (r : Nat) (moment : Nat) : Prop :=
  ∀ i key, actions[i]? = some (.miss r key) → i < moment

/-- An action of a longer history is an old one or the last. -/
theorem getElem?_concat_eq_some {b : Action κ μ} :
    (actions ++ [a])[i]? = some b ↔ actions[i]? = some b ∨ i = actions.length ∧ a = b := by
  rw [List.getElem?_append]
  split
  · next h => exact ⟨.inl, fun hb => hb.resolve_right fun heq => Nat.ne_of_lt h heq.1⟩
  · next h =>
      rw [List.getElem?_eq_none (Nat.not_lt.mp h), List.getElem?_singleton]
      have hi : i - actions.length = 0 ↔ i = actions.length := by omega
      simp [hi]

theorem lt_length_of_getElem? {b : Action κ μ} (h : actions[i]? = some b) : i < actions.length :=
  (List.getElem?_eq_some_iff.mp h).1

theorem Stores.concat (h : Stores actions r key answer i) (a : Action κ μ) :
    Stores (actions ++ [a]) r key answer i :=
  ⟨getElem?_concat_eq_some.mpr (.inl h.produced), getElem?_concat_eq_some.mpr (.inl h.stored),
    h.order⟩

theorem Untouched.concat (h : Untouched actions key i j) (a : Action κ μ)
    (hj : j ≤ actions.length) : Untouched (actions ++ [a]) key i j := by
  intro k b hik hkj hb
  obtain hold | ⟨rfl, -⟩ := getElem?_concat_eq_some.mp hb
  · exact h k b hik hkj hold
  · omega

/-- A key stays untouched while a step does not touch it. -/
theorem Untouched.extend (h : Untouched actions key i actions.length)
    (ha : a.touched? ≠ some key) : Untouched (actions ++ [a]) key i (actions ++ [a]).length := by
  intro k b hik _ hb
  obtain hold | ⟨-, rfl⟩ := getElem?_concat_eq_some.mp hb
  · exact h k b hik (lt_length_of_getElem? hold) hold
  · exact ha

theorem MissedBefore.concat (h : MissedBefore actions r i) (ha : a.request? ≠ some r) :
    MissedBefore (actions ++ [a]) r i := by
  intro k key hk
  obtain hold | ⟨-, rfl⟩ := getElem?_concat_eq_some.mp hk
  · exact h k key hold
  · exact absurd rfl ha

/-- Where the answers in a history, in the cache and on the way to it come from. -/
structure Provenance (actions : List (Action κ μ)) (s : Shared κ μ) : Prop where
  idle : ∀ r, s.requests r = .idle → ∀ a ∈ actions, a.request? ≠ some r
  answered : ∀ r key answer, s.requests r = .answered key answer →
    actions[answer.producedAt]? = some (.answer r key answer.content) ∧
      MissedBefore actions r answer.producedAt
  entries : ∀ e ∈ s.cache.entries, ∃ r i, Stores actions r e.key e.content i ∧
    Untouched actions e.key i actions.length
  stores : ∀ i r key answer, actions[i]? = some (.store r key answer) →
    Stores actions r key answer i ∧ MissedBefore actions r answer.producedAt
  hits : ∀ i r key answer, actions[i]? = some (.hit r key answer) →
    ∃ r' j, Stores actions r' key answer j ∧ j < i ∧ Untouched actions key j i

theorem Provenance.start : Provenance ([] : List (Action κ μ)) (.start i) where
  idle := by simp
  answered := nofun
  entries := nofun
  stores := nofun
  hits := nofun

end Histories

/-! ## Steps -/

variable [DecidableEq κ]

/-- What can happen at a moment. The clock may read anything at a lookup and at a store. -/
inductive Step (moment : Nat) (s : Shared κ μ) : Action κ μ → Shared κ μ → Prop where
  | hit {r key found} (now : Nat) : s.requests r = .idle → s.cache.lookup? now key = some found →
      Step moment s (.hit r key found) (s.enter r (.returned key (.ok found)))
  | miss {r key} (now : Nat) : s.requests r = .idle → s.cache.lookup? now key = none →
      Step moment s (.miss r key) (s.enter r (.missed key))
  | answer {r key} (content : μ) : s.requests r = .missed key →
      Step moment s (.answer r key content) (s.enter r (.answered key ⟨content, moment⟩))
  | failure {r key} (e : Error) : s.requests r = .missed key →
      Step moment s (.failure r key e) (s.enter r (.returned key (.error e)))
  | store {r key got} (clock : Readings κ) : s.requests r = .answered key got →
      Step moment s (.store r key got)
        ({ s with cache := s.cache.store clock key got }.enter r (.returned key (.ok got)))
  | invalidate {key} :
      Step moment s (.invalidate key) { s with cache := s.cache.invalidate key }

/-- An interleaving: the action at each moment, and what it led to. -/
inductive Run (ttl : Nat) : List (Action κ μ) → Shared κ μ → Prop where
  | start : Run ttl [] (.start ttl)
  | step {actions s a s'} : Run ttl actions s → Step actions.length s a s' →
      Run ttl (actions ++ [a]) s'

/-! ### What a step can do -/

variable {moment ttl : Nat} {s s' : Shared κ μ} {actions : List (Action κ μ)} {a : Action κ μ}
  {r : Nat} {key : κ} {answer : Answer μ}

/-- A step of one request leaves all others where they are. -/
theorem Step.requests_eq (h : Step moment s a s') (hr : a.request? ≠ some r) :
    s'.requests r = s.requests r := by
  cases h with
  | invalidate => rfl
  | _ => exact if_neg fun heq => hr (congrArg some heq.symm)

/-- A request that makes a step is idle no more. -/
theorem Step.not_idle (h : Step moment s a s') (hr : a.request? = some r) :
    s'.requests r ≠ .idle := by
  cases h with
  | invalidate => exact nomatch hr
  | _ =>
      obtain rfl := Option.some.inj hr
      rw [Shared.enter_requests, if_pos rfl]
      exact nofun

/-- A request that is idle has been idle before. -/
theorem Step.idle (h : Step moment s a s') (hr : s'.requests r = .idle) :
    s.requests r = .idle ∧ a.request? ≠ some r := by
  have hother : a.request? ≠ some r := fun hmakes => h.not_idle hmakes hr
  exact ⟨(h.requests_eq hother).symm.trans hr, hother⟩

/-- A request that has an answer had it before, or got it at this moment. -/
theorem Step.answered (h : Step moment s a s') (hr : s'.requests r = .answered key answer) :
    (s.requests r = .answered key answer ∧ a.request? ≠ some r) ∨
      a = .answer r key answer.content ∧ answer.producedAt = moment := by
  by_cases hmakes : a.request? = some r
  · cases h with
    | invalidate => exact nomatch hmakes
    | @answer r' key' content _ =>
        obtain rfl := Option.some.inj hmakes
        rw [Shared.enter_requests, if_pos rfl] at hr
        obtain ⟨rfl, rfl⟩ := Phase.answered.inj hr
        exact .inr ⟨rfl, rfl⟩
    | _ =>
        obtain rfl := Option.some.inj hmakes
        rw [Shared.enter_requests, if_pos rfl] at hr
        exact nomatch hr
  · exact .inl ⟨(h.requests_eq hmakes).symm.trans hr, hmakes⟩

/-- An entry is an old one that the step did not touch, or the one that it stored. -/
theorem Step.entries (h : Step moment s a s') {e : CachedEntry κ (Answer μ)}
    (he : e ∈ s'.cache.entries) :
    (e ∈ s.cache.entries ∧ a.touched? ≠ some e.key) ∨ ∃ r, a = .store r e.key e.content := by
  cases h with
  | @store r key got clock _ =>
      obtain hkept | hnew := List.mem_append.mp he
      · obtain ⟨hold, hother⟩ := List.mem_filter.mp hkept
        refine .inl ⟨hold, fun htouched => ?_⟩
        simp [(Option.some.inj htouched).symm] at hother
      · obtain rfl := List.mem_singleton.mp hnew
        exact .inr ⟨r, rfl⟩
  | @invalidate key =>
      obtain ⟨hold, hother⟩ := List.mem_filter.mp he
      refine .inl ⟨hold, fun htouched => ?_⟩
      exact of_decide_eq_true hother (Option.some.inj htouched).symm
  | _ => exact .inl ⟨he, nofun⟩

theorem Step.of_store (h : Step moment s (.store r key answer) s') :
    s.requests r = .answered key answer := by
  cases h with
  | store _ hr => exact hr

theorem Step.of_miss (h : Step moment s (.miss r key) s') : s.requests r = .idle := by
  cases h with
  | miss _ hr _ => exact hr

/-- What is found for a key is the content of an entry. -/
theorem exists_of_lookup? {c : MetadataCache κ μ} {now : Nat} {content : μ}
    (h : c.lookup? now key = some content) :
    ∃ e ∈ c.entries, e.key = key ∧ e.content = content := by
  rw [lookup?] at h
  split at h
  · next e hfind =>
      split at h
      · have hkey : e.key = key := by simpa using List.find?_some hfind
        exact ⟨e, List.mem_of_find?_eq_some hfind, hkey, Option.some.inj h⟩
      · exact nomatch h
  · exact nomatch h

theorem Step.of_hit (h : Step moment s (.hit r key answer) s') :
    ∃ e ∈ s.cache.entries, e.key = key ∧ e.content = answer := by
  cases h with
  | hit _ _ hfound => exact exists_of_lookup? hfound

/-! ## Where answers come from -/

theorem Provenance.step (h : Provenance actions s) (hstep : Step actions.length s a s') :
    Provenance (actions ++ [a]) s' where
  idle r hr b hb := by
    obtain ⟨hidle, hother⟩ := hstep.idle hr
    obtain hold | hnew := List.mem_append.mp hb
    · exact h.idle r hidle b hold
    · rw [List.mem_singleton.mp hnew]
      exact hother
  answered r key answer hr := by
    obtain ⟨hold, hother⟩ | ⟨rfl, hmoment⟩ := hstep.answered hr
    · obtain ⟨hproduced, hmissed⟩ := h.answered r key answer hold
      exact ⟨getElem?_concat_eq_some.mpr (.inl hproduced), hmissed.concat hother⟩
    · refine ⟨getElem?_concat_eq_some.mpr (.inr ⟨hmoment, rfl⟩), fun k key hk => ?_⟩
      obtain hold | ⟨-, hlast⟩ := getElem?_concat_eq_some.mp hk
      · exact hmoment ▸ lt_length_of_getElem? hold
      · exact nomatch hlast
  entries e he := by
    obtain ⟨hold, huntouched⟩ | ⟨r, rfl⟩ := hstep.entries he
    · obtain ⟨r, stored, hstores, hkey⟩ := h.entries e hold
      exact ⟨r, stored, hstores.concat a, hkey.extend huntouched⟩
    · have hproduced := (h.answered r _ _ hstep.of_store).1
      refine ⟨r, actions.length, ⟨getElem?_concat_eq_some.mpr (.inl hproduced),
        getElem?_concat_eq_some.mpr (.inr ⟨rfl, rfl⟩), lt_length_of_getElem? hproduced⟩, ?_⟩
      intro k b hlt hle _
      rw [List.length_append, List.length_singleton] at hle
      omega
  stores stored r key answer hstored := by
    obtain hold | ⟨rfl, rfl⟩ := getElem?_concat_eq_some.mp hstored
    · obtain ⟨hstores, hmissed⟩ := h.stores stored r key answer hold
      refine ⟨hstores.concat a, fun k key' hk => ?_⟩
      obtain hbefore | ⟨-, rfl⟩ := getElem?_concat_eq_some.mp hk
      · exact hmissed k key' hbefore
      · -- a request that stored before is not idle, and misses no more
        exact absurd rfl (h.idle r hstep.of_miss _ (List.mem_of_getElem? hold))
    · obtain ⟨hproduced, hmissed⟩ := h.answered r key answer hstep.of_store
      refine ⟨⟨getElem?_concat_eq_some.mpr (.inl hproduced), hstored,
        lt_length_of_getElem? hproduced⟩, fun k key' hk => ?_⟩
      obtain hbefore | ⟨-, hlast⟩ := getElem?_concat_eq_some.mp hk
      · exact hmissed k key' hbefore
      · exact nomatch hlast
  hits i r key answer hi := by
    obtain hold | ⟨rfl, rfl⟩ := getElem?_concat_eq_some.mp hi
    · obtain ⟨r', stored, hstores, hlt, hkey⟩ := h.hits i r key answer hold
      exact ⟨r', stored, hstores.concat a, hlt,
        hkey.concat a (Nat.le_of_lt (lt_length_of_getElem? hold))⟩
    · obtain ⟨e, he, rfl, rfl⟩ := hstep.of_hit
      obtain ⟨r', stored, hstores, hkey⟩ := h.entries e he
      exact ⟨r', stored, hstores.concat _, lt_length_of_getElem? hstores.stored,
        hkey.concat _ (Nat.le_refl _)⟩

theorem Run.provenance (h : Run ttl actions s) : Provenance actions s := by
  induction h with
  | start => exact .start
  | step _ hstep ih => exact ih.step hstep

/-! ## Overtaken answers -/

/-- An answer that is returned is stored, and untouched up to the lookup, or was produced after
it. -/
theorem Run.returns (h : Run ttl actions s) {i : Nat} (hreturns : Returns actions i key answer) :
    (∃ r k, Stores actions r key answer k ∧ k < i ∧ Untouched actions key k i) ∨
      i < answer.producedAt := by
  cases hreturns with
  | cached hhit => exact .inl (h.provenance.hits _ _ _ _ hhit)
  | fetched hmiss hstore => exact .inr ((h.provenance.stores _ _ _ _ hstore).2 _ _ hmiss)

/-- Metadata from before an invalidation are returned after it exactly if they were in flight
then. -/
theorem Run.stale_iff (h : Run ttl actions s) {i j : Nat} (hreturns : Returns actions i key answer)
    (hinvalidate : actions[j]? = some (.invalidate key)) (hji : j < i) :
    answer.producedAt < j ↔
      ∃ r k, Overtaken actions r key answer j k ∧ k < i ∧ Untouched actions key k i := by
  constructor
  · intro hstale
    obtain ⟨r, k, hstores, hki, huntouched⟩ | hlate := h.returns hreturns
    · refine ⟨r, k, ⟨hstores, hstale, ?_⟩, hki, huntouched⟩
      -- had the answer been stored before, the invalidation would have dropped it
      obtain hjk | rfl | hkj := Nat.lt_trichotomy j k
      · exact hjk
      · exact nomatch hinvalidate.symm.trans hstores.stored
      · exact absurd rfl (huntouched j _ hkj hji hinvalidate)
    · omega
  · rintro ⟨r, k, hovertaken, -, -⟩
    exact hovertaken.produced_before

/-- An entry is replaced by older metadata exactly if these were in flight when the source produced
what the entry holds. -/
theorem Run.older_iff (h : Run ttl actions s)
    (hstep : Step actions.length s (.store r key answer) s') {e : CachedEntry κ (Answer μ)}
    (he : e ∈ s.cache.entries) (hkey : e.key = key) :
    answer.producedAt < e.content.producedAt ↔
      (∃ r' k, Stores actions r' key e.content k) ∧
        Overtaken (actions ++ [.store r key answer]) r key answer e.content.producedAt
          actions.length := by
  subst hkey
  obtain ⟨hstores, -⟩ := (h.step hstep).provenance.stores actions.length r e.key answer
    (getElem?_concat_eq_some.mpr (.inr ⟨rfl, rfl⟩))
  obtain ⟨r', k, hentry, -⟩ := h.provenance.entries e he
  constructor
  · exact fun hlt => ⟨⟨r', k, hentry⟩, hstores, hlt, lt_length_of_getElem? hentry.produced⟩
  · exact fun hovertaken => hovertaken.2.produced_before

/-- Metadata from before an invalidation are returned after it, and newer metadata are replaced by
older ones, exactly when what is returned or stored was in flight: a request had it from the source
before the invalidation, or before another request got the newer metadata, and stored it later. -/
theorem Run.outdated_iff_overtaken (h : Run ttl actions s) :
    (∀ i j key answer, Returns actions i key answer →
      actions[j]? = some (.invalidate key) → j < i →
      (answer.producedAt < j ↔
        ∃ r k, Overtaken actions r key answer j k ∧ k < i ∧ Untouched actions key k i)) ∧
    ∀ r key answer s', Step actions.length s (.store r key answer) s' →
      ∀ e ∈ s.cache.entries, e.key = key →
      (answer.producedAt < e.content.producedAt ↔
        (∃ r' k, Stores actions r' key e.content k) ∧
          Overtaken (actions ++ [.store r key answer]) r key answer e.content.producedAt
            actions.length) :=
  ⟨fun _ _ _ _ => h.stale_iff, fun _ _ _ _ hstep _ => h.older_iff hstep⟩

/-- A request has its answer when the key is invalidated, and stores it all the same. -/
def overtakenByInvalidation : List (Action String String) :=
  [.miss 0 "id", .answer 0 "id" "old", .invalidate "id", .store 0 "id" ⟨"old", 1⟩,
    .hit 1 "id" ⟨"old", 1⟩]

/-- A request has its answer when another one gets a newer answer, which is stored first. -/
def overtakenByRequest : List (Action String String) :=
  [.miss 0 "id", .miss 1 "id", .answer 0 "id" "old", .answer 1 "id" "new",
    .store 1 "id" ⟨"new", 3⟩]

theorem run_overtakenByInvalidation : ∃ s, Run 300 overtakenByInvalidation s :=
  ⟨_, .step (.step (.step (.step (.step .start (.miss 0 rfl rfl)) (.answer _ rfl))
    .invalidate) (.store (.same 0) rfl)) (.hit 0 rfl rfl)⟩

theorem overtakenByInvalidation_overtaken :
    (∃ s, Run 300 overtakenByInvalidation s) ∧
      ∃ r k, Overtaken overtakenByInvalidation r "id" ⟨"old", 1⟩ 2 k ∧ k < 4 ∧
        Untouched overtakenByInvalidation "id" k 4 := by
  obtain ⟨s, h⟩ := run_overtakenByInvalidation
  exact ⟨⟨s, h⟩, ((Run.outdated_iff_overtaken h).1 4 2 "id" ⟨"old", 1⟩ (.cached rfl) rfl
    (by decide)).mp (by decide)⟩

/-- A request that looks its key up after an invalidation returns metadata from before it, and an
entry is replaced by older metadata. -/
theorem outdated_metadata_returned_and_stored :
    (∃ s, Run 300 overtakenByInvalidation s ∧ ∃ i j key answer,
      Returns overtakenByInvalidation i key answer ∧
        overtakenByInvalidation[j]? = some (.invalidate key) ∧ j < i ∧ answer.producedAt < j) ∧
    ∃ s, Run 300 overtakenByRequest s ∧ ∃ r key answer s',
      Step overtakenByRequest.length s (.store r key answer) s' ∧
        ∃ e ∈ s.cache.entries, e.key = key ∧ answer.producedAt < e.content.producedAt := by
  constructor
  · obtain ⟨s, h⟩ := run_overtakenByInvalidation
    exact ⟨s, h, 4, 2, "id", ⟨"old", 1⟩, .cached rfl, rfl, by decide, by decide⟩
  · refine ⟨_, .step (.step (.step (.step (.step .start (.miss 0 rfl rfl))
      (.miss 0 rfl rfl)) (.answer _ rfl)) (.answer _ rfl)) (.store (.same 0) rfl),
      0, "id", ⟨"old", 2⟩, _, .store (.same 0) rfl, ⟨"id", ⟨"new", 3⟩, 0⟩, ?_, rfl, by decide⟩
    exact List.mem_singleton_self _

/-! ### The next lookup -/

/-- What was just stored is found at once. -/
theorem lookup?_store {c : MetadataCache κ μ} (httl : 0 < c.ttl) (clock : Readings κ) (key : κ)
    (content : μ) : (c.store clock key content).lookup? clock.stamp key = some content := by
  have hfind : (c.store clock key content).entries.find? (fun e => e.key = key) =
      some ⟨key, content, clock.stamp⟩ := by
    rw [store, List.find?_append, List.find?_eq_none.mpr, Option.none_or, List.find?_cons_of_pos]
    · simp
    · intro e he
      have hother := (List.mem_filter.mp he).2
      simp_all
  have hfresh :
      (c.store clock key content).isFresh clock.stamp ⟨key, content, clock.stamp⟩ = true := by
    rw [isFresh, Nat.sub_self]
    exact decide_eq_true httl
  rw [lookup?, hfind]
  exact if_pos hfresh

theorem Step.ttl_eq (h : Step moment s a s') : s'.cache.ttl = s.cache.ttl := by
  cases h <;> rfl

theorem Run.ttl_eq (h : Run ttl actions s) : s.cache.ttl = ttl := by
  induction h with
  | start => rfl
  | step _ hstep ih => rw [hstep.ttl_eq, ih]

/-- There is always a request that has not been made. -/
theorem Run.exists_idle (h : Run ttl actions s) : ∃ n, ∀ r, n ≤ r → s.requests r = .idle := by
  induction h with
  | start => exact ⟨0, fun _ _ => rfl⟩
  | @step actions s a s' _ hstep ih =>
      obtain ⟨n, hn⟩ := ih
      refine ⟨max n ((a.request?.getD 0) + 1), fun r hr => ?_⟩
      rw [hstep.requests_eq, hn r (by omega)]
      intro hmakes
      rw [hmakes] at hr
      simp only [Option.getD_some] at hr
      omega

/-- Whatever is stored, overtaken or not, is what the next lookup of its key can return. -/
theorem Run.hit_after_store (h : Run ttl actions s) (httl : 0 < ttl)
    (hr : s.requests r = .answered key answer) :
    ∃ r' final, Run ttl (actions ++ [.store r key answer] ++ [.hit r' key answer]) final := by
  have hstored := h.step (.store (.same 0) hr)
  obtain ⟨n, hidle⟩ := hstored.exists_idle
  exact ⟨n, _, hstored.step
    (.hit 0 (hidle n (Nat.le_refl n)) (lookup?_store (h.ttl_eq ▸ httl) (.same 0) key answer))⟩

/-- A request that has an answer in flight while its key is invalidated can make a later request
return metadata from before the invalidation. -/
theorem Run.stale_of_in_flight (h : Run ttl actions s) (httl : 0 < ttl)
    (hr : s.requests r = .answered key answer) {j : Nat}
    (hinvalidate : actions[j]? = some (.invalidate key)) (hstale : answer.producedAt < j) :
    ∃ later final i, Run ttl later final ∧ later[j]? = some (.invalidate key) ∧ j < i ∧
      Returns later i key answer ∧ answer.producedAt < j := by
  obtain ⟨r', final, hrun⟩ := h.hit_after_store httl hr
  have hkept : (actions ++ [Action.store r key answer])[j]? = some (.invalidate key) :=
    getElem?_concat_eq_some.mpr (.inl hinvalidate)
  refine ⟨_, final, (actions ++ [Action.store r key answer]).length, hrun,
    getElem?_concat_eq_some.mpr (.inl hkept), lt_length_of_getElem? hkept,
    .cached (r := r') (getElem?_concat_eq_some.mpr (.inr ⟨rfl, rfl⟩)), hstale⟩

/-! ### Requests one after another -/

/-- The source with the moment of its answer. -/
def stamped {σ : Type} (fetch : Fetcher σ κ μ) (moment : Nat) : Fetcher σ κ (Answer μ) :=
  fun key s =>
    let (result, s) := fetch key s
    (result.map fun content => ⟨content, moment⟩, s)

/-- A request that nothing interrupts returns what `get` does and leaves the same cache. -/
theorem Run.get {σ : Type} (h : Run ttl actions s) (hr : s.requests r = .idle)
    (fetch : Fetcher σ κ μ) (asked : Nat) (answered : Readings κ) (key : κ) (source : σ) :
    ∃ later final, actions <+: later ∧ Run ttl later final ∧
      final.requests r = .returned key
        (s.cache.get (stamped fetch (actions.length + 1)) asked answered key source).1 ∧
      final.cache =
        (s.cache.get (stamped fetch (actions.length + 1)) asked answered key source).2.1 := by
  rw [MetadataCache.get]
  cases hlookup : s.cache.lookup? asked key with
  | some found =>
      exact ⟨_, _, List.prefix_append _ _, h.step (.hit asked hr hlookup), if_pos rfl, rfl⟩
  | none =>
      have hmiss := h.step (.miss asked hr hlookup)
      have hmissed : (s.enter r (.missed key)).requests r = .missed key := if_pos rfl
      have hpre : actions <+: actions ++ [.miss r key] := List.prefix_append _ _
      rcases hfetch : fetch key source with ⟨e | content, source'⟩
      · refine ⟨_, _, hpre.trans (List.prefix_append _ _), hmiss.step (.failure e hmissed), ?_⟩
        simp only [stamped, hfetch, Except.map]
        exact ⟨if_pos rfl, rfl⟩
      · have hanswer := hmiss.step (.answer content hmissed)
        refine ⟨_, _, (hpre.trans (List.prefix_append _ _)).trans (List.prefix_append _ _),
          hanswer.step (.store answered (if_pos rfl)), ?_⟩
        simp only [stamped, hfetch, Except.map, List.length_append, List.length_singleton]
        exact ⟨if_pos rfl, rfl⟩

end MetadataCache

end Sluice
