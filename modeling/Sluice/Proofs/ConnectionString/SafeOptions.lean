import Sluice.Proofs.ConnectionString.Codec

/-!
# Safe options

Safe options act one after another, each on every spelling of its key. In the end the options that
none of them matches are left as they were, and for any other key the last safe option that
matches it has decided.
-/

namespace Sluice

open Text

theorem Text.eqIgnoreCase_iff {s t : String} :
    eqIgnoreCase s t = true ↔ lowerAscii s = lowerAscii t := by
  rw [eqIgnoreCase, beq_iff_eq, lowerAscii, lowerAscii, String.ofList_inj]

namespace SafeOption

/-- What a safe option puts in the place of the options that it matches. -/
def forced : SafeOption → List (String × String)
  | force key value => [(key, value)]
  | strip _ => []

/-- Whether some safe option matches a key. -/
def matched (os : List SafeOption) (key : String) : Bool := os.any fun o => eqIgnoreCase key o.key

/-- The last of the safe options `os` that matches a key is `o`. -/
def Decides (os : List SafeOption) (key : String) (o : SafeOption) : Prop :=
  ∃ before after, os = before ++ o :: after ∧ eqIgnoreCase key o.key = true ∧
    matched after key = false

/-- What a safe option forces can be written. -/
def Writable (o : SafeOption) : Prop :=
  ∀ entry ∈ o.forced, ConnectionDescriptor.IsOption entry.1 entry.2

/-- The forced options that no later safe option matches, in the order of the list. -/
def surviving : List SafeOption → List (String × String)
  | [] => []
  | o :: os => (if matched os o.key then [] else o.forced) ++ surviving os

variable {os : List SafeOption} {o : SafeOption} {key : String}

theorem key_of_mem_forced {entry : String × String} (h : entry ∈ o.forced) : entry.1 = o.key := by
  cases o with
  | force key value => rw [List.mem_singleton.mp h]; rfl
  | strip key => exact (List.not_mem_nil h).elim

/-- Safe options match keys that differ in case alike. -/
theorem matched_congr {key' : String} (h : eqIgnoreCase key key' = true) :
    matched os key = matched os key' := by
  have hsame : lowerAscii key = lowerAscii key' := eqIgnoreCase_iff.mp h
  refine List.any_congr rfl fun o => Bool.eq_iff_iff.mpr ?_
  rw [eqIgnoreCase_iff, eqIgnoreCase_iff, hsame]

theorem matched_of_mem_surviving {entry : String × String} (h : entry ∈ surviving os) :
    matched os entry.1 = true := by
  induction os with
  | nil => exact (List.not_mem_nil h).elim
  | cons o os ih =>
      rw [matched, List.any_cons, Bool.or_eq_true]
      rcases List.mem_append.mp h with h | h
      · split at h
        · exact (List.not_mem_nil h).elim
        · rw [key_of_mem_forced h]
          exact .inl (eqIgnoreCase_iff.mpr rfl)
      · exact .inr (ih h)

theorem exists_decides (h : matched os key = true) : ∃ o, Decides os key o := by
  induction os with
  | nil => exact nomatch h
  | cons o os ih =>
      by_cases hlater : matched os key = true
      · obtain ⟨last, before, after, rfl, hdecides⟩ := ih hlater
        exact ⟨last, o :: before, after, rfl, hdecides⟩
      · rw [matched, List.any_cons, Bool.or_eq_true] at h
        exact ⟨o, [], os, rfl, h.resolve_right hlater, Bool.eq_false_iff.mpr hlater⟩

theorem filter_forced (h : eqIgnoreCase key o.key = true) :
    o.forced.filter (fun entry => eqIgnoreCase entry.1 key) = o.forced := by
  refine List.filter_eq_self.mpr fun entry hentry => ?_
  rw [key_of_mem_forced hentry]
  exact eqIgnoreCase_iff.mpr (eqIgnoreCase_iff.mp h).symm

theorem Decides.matched (h : Decides os key o) : matched os key = true := by
  obtain ⟨before, after, rfl, ho, -⟩ := h
  exact List.any_eq_true.mpr ⟨o, List.mem_append_right before List.mem_cons_self, ho⟩

/-- Of the forced options that match a key, only the one that decides survives. -/
theorem Decides.filter_surviving (h : Decides os key o) :
    (surviving os).filter (fun entry => eqIgnoreCase entry.1 key) = o.forced := by
  obtain ⟨before, after, rfl, ho, hafter⟩ := h
  induction before with
  | nil =>
      have hlater : (surviving after).filter (fun entry => eqIgnoreCase entry.1 key) = [] := by
        refine List.filter_eq_nil_iff.mpr fun entry hentry hkey => ?_
        have hmatched := matched_of_mem_surviving hentry
        rw [matched_congr hkey, hafter] at hmatched
        exact nomatch hmatched
      rw [List.nil_append, surviving, ← matched_congr ho, hafter, if_neg Bool.false_ne_true,
        List.filter_append, filter_forced ho, hlater, List.append_nil]
  | cons o' before ih =>
      -- An earlier option that matches the key is overruled by `o`.
      have hhere :
          (if SafeOption.matched (before ++ o :: after) o'.key then [] else o'.forced).filter
            (fun entry => eqIgnoreCase entry.1 key) = [] := by
        split
        · rfl
        · rename_i hfree
          refine List.filter_eq_nil_iff.mpr fun entry hentry hkey => hfree ?_
          rw [key_of_mem_forced hentry] at hkey
          rw [matched_congr hkey]
          exact Decides.matched ⟨before, after, rfl, ho, hafter⟩
      rw [List.cons_append, surviving, List.filter_append, hhere, List.nil_append, ih]

end SafeOption

namespace ConnectionDescriptor

open SafeOption

variable (d : ConnectionDescriptor) (os : List SafeOption)

theorem applySafeOption_eq (o : SafeOption) :
    d.applySafeOption o =
      ⟨d.target, d.options.filter (fun entry => !eqIgnoreCase entry.1 o.key) ++ o.forced⟩ := by
  cases o with
  | strip key => exact congrArg (mk d.target) (List.append_nil _).symm
  | force key value =>
      refine congrArg (mk d.target) (setOption_of_not_mem fun hmem => ?_)
      obtain ⟨⟨k, v⟩, hentry, rfl⟩ := List.mem_map.mp hmem
      have hkept : (!eqIgnoreCase k k) = true := (List.mem_filter.mp hentry).2
      rw [eqIgnoreCase_iff.mpr rfl] at hkept
      exact nomatch hkept

/-- What safe options leave, and what they add. -/
theorem applySafeOptions_eq :
    d.applySafeOptions os =
      ⟨d.target, d.options.filter (fun entry => !matched os entry.1) ++ surviving os⟩ := by
  induction os generalizing d with
  | nil => simp [applySafeOptions, matched, surviving]
  | cons o os ih =>
      have hforced : o.forced.filter (fun entry => !matched os entry.1) =
          if matched os o.key then [] else o.forced := by
        split
        · rename_i hlater
          refine List.filter_eq_nil_iff.mpr fun entry hentry => ?_
          rw [key_of_mem_forced hentry, hlater]
          exact Bool.false_ne_true
        · rename_i hfree
          refine List.filter_eq_self.mpr fun entry hentry => ?_
          rw [key_of_mem_forced hentry, Bool.eq_false_iff.mpr hfree]
          rfl
      have hstep : d.applySafeOptions (o :: os) = (d.applySafeOption o).applySafeOptions os := rfl
      rw [hstep, ih, applySafeOption_eq, List.filter_append, List.filter_filter, hforced,
        List.append_assoc, surviving]
      simp only [matched, List.any_cons, Bool.not_or, Bool.and_comm]

/-- Safe options that have been applied change nothing more. -/
theorem applySafeOptions_idem :
    (d.applySafeOptions os).applySafeOptions os = d.applySafeOptions os := by
  have hsurviving : (surviving os).filter (fun entry => !matched os entry.1) = [] := by
    refine List.filter_eq_nil_iff.mpr fun entry hentry => ?_
    rw [matched_of_mem_surviving hentry]
    exact Bool.false_ne_true
  rw [applySafeOptions_eq, applySafeOptions_eq, List.filter_append, hsurviving, List.append_nil]
  simp only [List.filter_filter, Bool.and_self]

variable {d os}

/-- Under a key that safe options match stands what the last of them forces, and nothing else. -/
theorem filter_applySafeOptions {key : String} {o : SafeOption} (h : Decides os key o) :
    (d.applySafeOptions os).options.filter (fun entry => eqIgnoreCase entry.1 key) = o.forced := by
  have hkept : (d.options.filter fun entry => !matched os entry.1).filter
      (fun entry => eqIgnoreCase entry.1 key) = [] := by
    refine List.filter_eq_nil_iff.mpr fun entry hentry hkey => ?_
    have hfree := (List.mem_filter.mp hentry).2
    rw [matched_congr hkey, h.matched] at hfree
    exact nomatch hfree
  rw [applySafeOptions_eq, List.filter_append, hkept, List.nil_append, h.filter_surviving]

/-- What safe options make of a descriptor. -/
structure Enforces (d : ConnectionDescriptor) (os : List SafeOption) : Prop where
  /-- The options that no safe option matches, then the forced ones that no later one matches. -/
  result : d.applySafeOptions os =
    ⟨d.target, d.options.filter (fun entry => !matched os entry.1) ++ surviving os⟩
  idempotent : (d.applySafeOptions os).applySafeOptions os = d.applySafeOptions os
  /-- No spelling of a safe key stands there but the one that is forced last. -/
  decided : ∀ key, matched os key = true → ∃ o, Decides os key o ∧
    (d.applySafeOptions os).options.filter (fun entry => eqIgnoreCase entry.1 key) = o.forced

theorem enforces (d : ConnectionDescriptor) (os : List SafeOption) : d.Enforces os where
  result := applySafeOptions_eq d os
  idempotent := applySafeOptions_idem d os
  decided key h := by
    obtain ⟨o, ho⟩ := exists_decides h
    exact ⟨o, ho, filter_applySafeOptions ho⟩

/-! ## Writing the result -/

theorem DistinctKeys.applySafeOption (h : d.DistinctKeys) (o : SafeOption) :
    (d.applySafeOption o).DistinctKeys := by
  have hkept : ((d.options.filter fun entry => !eqIgnoreCase entry.1 o.key).map Prod.fst).Nodup :=
    h.sublist (List.filter_sublist.map Prod.fst)
  cases o with
  | strip key => exact hkept
  | force key value => exact nodup_setOption hkept

theorem DistinctKeys.applySafeOptions (h : d.DistinctKeys) (os : List SafeOption) :
    (d.applySafeOptions os).DistinctKeys := by
  induction os generalizing d with
  | nil => exact h
  | cons o os ih => exact ih (h.applySafeOption o)

theorem exists_of_mem_surviving {entry : String × String} (h : entry ∈ surviving os) :
    ∃ o ∈ os, entry ∈ o.forced := by
  induction os with
  | nil => exact (List.not_mem_nil h).elim
  | cons o os ih =>
      rcases List.mem_append.mp h with h | h
      · split at h
        · exact (List.not_mem_nil h).elim
        · exact ⟨o, List.mem_cons_self, h⟩
      · obtain ⟨o', ho', hentry⟩ := ih h
        exact ⟨o', List.mem_cons_of_mem o ho', hentry⟩

theorem Writable.applySafeOptions (h : d.Writable) (hos : ∀ o ∈ os, o.Writable) :
    (d.applySafeOptions os).Writable := by
  rw [applySafeOptions_eq]
  refine ⟨h.target, h.whole, fun key value hmem => ?_⟩
  rcases List.mem_append.mp hmem with hmem | hmem
  · exact h.options key value (List.mem_filter.mp hmem).1
  · obtain ⟨o, ho, hforced⟩ := exists_of_mem_surviving hmem
    exact hos o ho (key, value) hforced

/-- What was read stays readable when safe options are applied that can be written. -/
theorem decode_encode_applySafeOptions {s : String} (h : decode s = .ok d)
    (hos : ∀ o ∈ os, o.Writable) :
    decode (d.applySafeOptions os).encode = .ok (d.applySafeOptions os) := by
  have hreads := decode_eq_ok_iff.mp h
  exact decode_encode_iff.mpr
    ⟨hreads.distinctKeys.applySafeOptions os, hreads.writable.applySafeOptions hos⟩

end ConnectionDescriptor

end Sluice
