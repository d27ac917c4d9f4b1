import Sluice.Dialect

/-!
# Quoted texts

A text is quoted by a mark on either side and by doubling the marks inside. Read back, the outer
marks are dropped and the doubled ones halved. A mark that stands alone is refused, so exactly the
quoted texts are read.

Whoever closes a run at the first mark sees a quoted text as a row of runs, each of which opens where
the one before it is closed.
-/

namespace Sluice

/-- Write every mark of a text twice. -/
def doubled (mark : Char) (s : List Char) : List Char :=
  s.flatMap fun c => if c = mark then [mark, mark] else [c]

@[simp] theorem doubled_nil (mark : Char) : doubled mark [] = [] := rfl

@[simp] theorem doubled_mark (mark : Char) (s : List Char) :
    doubled mark (mark :: s) = mark :: mark :: doubled mark s := by
  simp [doubled]

theorem doubled_other {mark c : Char} (h : c ≠ mark) (s : List Char) :
    doubled mark (c :: s) = c :: doubled mark s := by
  simp [doubled, h]

theorem toList_quoteWith (mark : Char) (s : String) :
    (quoteWith mark s).toList = mark :: (doubled mark s.toList ++ [mark]) := by
  simp [quoteWith, doubled]

/-! ## Reading back -/

/-- Write once every mark that stands twice; a mark that stands alone is refused. -/
def halve? (mark : Char) : List Char → Option (List Char)
  | [] => some []
  | [c] => if c = mark then none else some [c]
  | c :: d :: rest =>
    if c = mark then
      if d = mark then (halve? mark rest).map (mark :: ·) else none
    else (halve? mark (d :: rest)).map (c :: ·)

/-- The text that was quoted: the outer marks are dropped, the doubled ones halved. -/
def unquote? (mark : Char) (quoted : String) : Option String :=
  match quoted.toList with
  | [] => none
  | c :: rest =>
    if c = mark ∧ rest.getLast? = some mark then (halve? mark rest.dropLast).map String.ofList
    else none

theorem halve?_mark (mark : Char) (s : List Char) :
    halve? mark (mark :: mark :: s) = (halve? mark s).map (mark :: ·) := by
  simp [halve?]

theorem halve?_other {mark c : Char} (h : c ≠ mark) (s : List Char) :
    halve? mark (c :: s) = (halve? mark s).map (c :: ·) := by
  cases s with
  | nil => simp [halve?, h]
  | cons d s => simp [halve?, h]

theorem halve?_doubled (mark : Char) (s : List Char) : halve? mark (doubled mark s) = some s := by
  induction s with
  | nil => rfl
  | cons c s ih =>
      by_cases hc : c = mark
      · subst hc
        rw [doubled_mark, halve?_mark, ih]
        rfl
      · rw [doubled_other hc, halve?_other hc, ih]
        rfl

theorem eq_doubled_of_halve? {mark : Char} {s t : List Char} (h : halve? mark t = some s) :
    t = doubled mark s := by
  fun_induction halve? mark t generalizing s with
  | case1 => simp_all
  | case2 => simp at h
  | case3 c hc =>
      obtain rfl := Option.some.inj h
      rw [doubled_other hc, doubled_nil]
  | case4 rest ih =>
      obtain ⟨s, hs, rfl⟩ := Option.map_eq_some_iff.mp h
      rw [doubled_mark, ← ih hs]
  | case5 => simp at h
  | case6 c d rest hc ih =>
      obtain ⟨s, hs, rfl⟩ := Option.map_eq_some_iff.mp h
      rw [doubled_other hc, ← ih hs]

@[simp] theorem unquote?_quoteWith (mark : Char) (s : String) :
    unquote? mark (quoteWith mark s) = some s := by
  simp [unquote?, toList_quoteWith, halve?_doubled]

/-- Exactly the quoted texts are read back. -/
theorem unquote?_eq_some_iff {mark : Char} {quoted s : String} :
    unquote? mark quoted = some s ↔ quoted = quoteWith mark s := by
  constructor
  · intro h
    rw [unquote?] at h
    split at h
    · cases h
    · rename_i c rest hquoted
      split at h
      · rename_i hmarks
        obtain ⟨rfl, hlast⟩ := hmarks
        obtain ⟨inner, rfl⟩ := List.getLast?_eq_some_iff.mp hlast
        obtain ⟨t, ht, rfl⟩ := Option.map_eq_some_iff.mp h
        rw [List.dropLast_concat] at ht
        apply String.toList_inj.mp
        rw [hquoted, toList_quoteWith, String.toList_ofList, ← eq_doubled_of_halve? ht]
      · cases h
  · rintro rfl
    exact unquote?_quoteWith mark s

/-! ## Runs -/

/-- A mark opens a run, and the first mark that follows closes it. -/
inductive IsRun (mark : Char) : List Char → Prop where
  | closed {body} : mark ∉ body → IsRun mark (mark :: (body ++ [mark]))

/-- The run that is open goes on up to the first mark. If that is the first of two, the second
opens a run of its own. -/
theorem exists_runs {mark : Char} (s : List Char) {body : List Char} (hbody : mark ∉ body) :
    ∃ runs : List (List Char), (∀ run ∈ runs, IsRun mark run) ∧
      runs.flatten = mark :: (body ++ (doubled mark s ++ [mark])) := by
  -- the induction is over what is still to be quoted, with what the open run holds so far
  induction s generalizing body with
  | nil => exact ⟨[mark :: (body ++ [mark])], by simpa using IsRun.closed hbody, by simp⟩
  | cons c s ih =>
      by_cases hc : c = mark
      · subst hc
        obtain ⟨runs, hruns, hflatten⟩ := ih List.not_mem_nil
        refine ⟨(c :: (body ++ [c])) :: runs, ?_, ?_⟩
        · exact List.forall_mem_cons.mpr ⟨.closed hbody, hruns⟩
        · simp [hflatten]
      · have hnext : mark ∉ body ++ [c] := by
          simpa [hbody] using fun h => hc h.symm
        obtain ⟨runs, hruns, hflatten⟩ := ih hnext
        exact ⟨runs, hruns, by simp [hflatten, doubled_other hc]⟩

theorem exists_runs_quoteWith (mark : Char) (s : String) :
    ∃ runs : List (List Char), (∀ run ∈ runs, IsRun mark run) ∧
      runs.flatten = (quoteWith mark s).toList := by
  simpa [toList_quoteWith] using exists_runs s.toList (List.not_mem_nil (a := mark))

end Sluice
