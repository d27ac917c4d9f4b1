import Sluice.Proofs.Scan.Offset

/-!
# The scanner, turn by turn

Each turn of the scanner's two loops takes one piece off the front of what is left. A scan that ends
with a semicolon has looked at nothing behind it: every turn is the same when more text follows.
-/

namespace Sluice.Scan

open Text

/-- Where the scanner stands: between two statements or inside one. -/
inductive Place where
  | between
  | inside
deriving DecidableEq

/-- One turn: the place and the text that is left, before and after it. -/
inductive Step : Place → List Char → Place → List Char → Prop where
  | blank {c s} : isAsciiBlank c = true → Step .between (c :: s) .between s
  /-- An empty statement. -/
  | empty {s} : Step .between (';' :: s) .between s
  | line {s} : Step .between ('-' :: '-' :: s) .between (skipLine s)
  | block {s} : Step .between ('/' :: '*' :: s) .between (skipBlock s)
  /-- Whatever is no trivia begins a statement; nothing is taken yet. -/
  | enter {s} : Settled s → s ≠ [] → Step .between s .inside s
  | terminator {s} : Step .inside (';' :: s) .between s
  | run {c s} : c ≠ ';' → Step .inside (c :: s) .inside (skipRun c s)

/-- A scan from here takes turn after turn and ends with a semicolon, that of a statement or of an
empty one. -/
inductive Finishes : Place → List Char → Prop where
  | semicolon {place} : Finishes place [';']
  | step {place place' s s'} : Step place s place' s' → Finishes place' s' → Finishes place s

/-- Scanning the bytes of a text ends, exactly at the end of the text, with a semicolon. -/
def Finished (s : List Char) : Prop := Finishes .between (octets s)

theorem Step.suffix {place place' : Place} {s s' : List Char} (h : Step place s place' s') :
    s' <:+ s := by
  cases h with
  | blank => exact List.suffix_cons _ _
  | empty => exact List.suffix_cons _ _
  | line =>
      exact (skipLine_suffix _).trans ((List.suffix_cons _ _).trans (List.suffix_cons _ _))
  | block =>
      exact (skipBlock_suffix _).trans ((List.suffix_cons _ _).trans (List.suffix_cons _ _))
  | enter => exact List.suffix_refl _
  | terminator => exact List.suffix_cons _ _
  | run => exact (skipRun_suffix _ _).trans (List.suffix_cons _ _)

theorem Finishes.suffix {place : Place} {s : List Char} (h : Finishes place s) : [';'] <:+ s := by
  induction h with
  | semicolon => exact List.suffix_refl _
  | step hstep _ ih => exact ih.trans hstep.suffix

theorem ne_nil_of_semicolon {s : List Char} (h : [';'] <:+ s) : s ≠ [] := by
  rintro rfl
  exact List.cons_ne_nil _ _ (List.suffix_nil.mp h)

/-! ## Runs that end before the text does -/

theorem skipLine_append {s : List Char} (h : skipLine s ≠ []) (t : List Char) :
    skipLine (s ++ t) = skipLine s ++ t := by
  induction s with
  | nil => exact absurd rfl h
  | cons c s ih =>
      rw [List.cons_append, skipLine, skipLine]
      rw [skipLine] at h
      split
      · rfl
      · rename_i hc
        rw [if_neg hc] at h
        exact ih h

theorem skipQuoted_append {close : Char} {s : List Char} (h : skipQuoted close s ≠ [])
    (t : List Char) : skipQuoted close (s ++ t) = skipQuoted close s ++ t := by
  induction s with
  | nil => exact absurd rfl h
  | cons c s ih =>
      rw [List.cons_append, skipQuoted, skipQuoted]
      rw [skipQuoted] at h
      split
      · rfl
      · rename_i hc
        rw [if_neg hc] at h
        exact ih h

theorem skipBlock_append {s : List Char} (h : skipBlock s ≠ []) (t : List Char) :
    skipBlock (s ++ t) = skipBlock s ++ t := by
  fun_induction skipBlock s with
  | case1 => exact absurd rfl h
  | case2 after => rw [List.cons_append, List.cons_append, skipBlock]
  | case3 c s hclose ih =>
      have hs : s ≠ [] := by
        rintro rfl
        exact h rfl
      obtain ⟨d, s, rfl⟩ := List.exists_cons_of_ne_nil hs
      rw [List.cons_append, skipBlock_cons, ih h]
      intro after heq
      obtain ⟨hc, heq⟩ := List.cons.inj heq
      obtain ⟨hd, -⟩ := List.cons.inj heq
      exact hclose s hc (hd ▸ rfl)

theorem dropPrefix?_append {mark s rest : List Char} (h : dropPrefix? mark s = some rest)
    (t : List Char) : dropPrefix? mark (s ++ t) = some (rest ++ t) := by
  fun_induction dropPrefix? mark s with
  | case1 s =>
      obtain rfl := Option.some.inj h
      rw [dropPrefix?]
  | case2 => cases h
  | case3 mark c s ih =>
      rw [List.cons_append, dropPrefix?, if_pos rfl]
      exact ih h
  | case4 => cases h

theorem dropPrefix?_append_none {mark s : List Char} (h : dropPrefix? mark s = none)
    (hlen : mark.length ≤ s.length) (t : List Char) : dropPrefix? mark (s ++ t) = none := by
  fun_induction dropPrefix? mark s with
  | case1 => cases h
  | case2 p mark => exact absurd hlen (by simp)
  | case3 mark c s ih =>
      rw [List.cons_append, dropPrefix?, if_pos rfl]
      exact ih h (by simpa using hlen)
  | case4 p mark c s hne => rw [List.cons_append, dropPrefix?, if_neg hne]

theorem length_le_of_dropPrefix? {mark s rest : List Char} (h : dropPrefix? mark s = some rest) :
    mark.length ≤ s.length := by
  fun_induction dropPrefix? mark s with
  | case1 => exact Nat.zero_le _
  | case2 => cases h
  | case3 mark c s ih => simpa using ih h
  | case4 => cases h

theorem length_le_of_skipPast {mark s : List Char} (h : skipPast mark s ≠ []) :
    mark.length ≤ s.length := by
  induction s with
  | nil => exact absurd rfl h
  | cons c s ih =>
      rw [skipPast] at h
      split at h
      · rename_i after hmark
        exact length_le_of_dropPrefix? hmark
      · exact (ih h).trans (Nat.le_succ _)

/-- A mark found in a text is found at the same place when more text follows: where it does not
stand in the text alone, there is room for it. -/
theorem skipPast_append {mark s : List Char} (h : skipPast mark s ≠ []) (t : List Char) :
    skipPast mark (s ++ t) = skipPast mark s ++ t := by
  induction s with
  | nil => exact absurd rfl h
  | cons c s ih =>
      rw [List.cons_append, skipPast, skipPast, ← List.cons_append]
      rw [skipPast] at h
      cases hmark : dropPrefix? mark (c :: s) with
      | some after => rw [dropPrefix?_append hmark]
      | none =>
          rw [hmark] at h
          have hlen : mark.length ≤ (c :: s).length :=
            (length_le_of_skipPast h).trans (Nat.le_succ _)
          rw [dropPrefix?_append_none hmark hlen]
          exact ih h

theorem takeWhile_append_of_dropWhile {p : Char → Bool} {s : List Char} (h : s.dropWhile p ≠ [])
    (t : List Char) : (s ++ t).takeWhile p = s.takeWhile p := by
  induction s with
  | nil => exact absurd rfl h
  | cons c s ih =>
      by_cases hc : p c
      · rw [List.dropWhile_cons_of_pos hc] at h
        rw [List.cons_append, List.takeWhile_cons_of_pos hc, List.takeWhile_cons_of_pos hc, ih h]
      · rw [List.cons_append, List.takeWhile_cons_of_neg hc, List.takeWhile_cons_of_neg hc]

theorem dropWhile_append_of_dropWhile {p : Char → Bool} {s : List Char} (h : s.dropWhile p ≠ [])
    (t : List Char) : (s ++ t).dropWhile p = s.dropWhile p ++ t := by
  rw [List.dropWhile_append, if_neg]
  simpa using h

/-- The tag of a dollar quote ends before the semicolon at the end of a text, so what follows the
text is no part of it. -/
theorem skipDollar_append {s : List Char} (h : [';'] <:+ skipDollar s) (t : List Char) :
    skipDollar (s ++ t) = skipDollar s ++ t := by
  have hs : ';' ∈ s := (h.trans (skipDollar_suffix s)).subset (List.mem_singleton_self _)
  have htag : s.dropWhile isWordChar ≠ [] := fun hnil =>
    Bool.noConfusion (List.dropWhile_eq_nil_iff.mp hnil ';' hs)
  have hleft : skipDollar s ≠ [] := ne_nil_of_semicolon h
  simp only [skipDollar, drop_length_takeWhile] at hleft ⊢
  rw [dropWhile_append_of_dropWhile htag, takeWhile_append_of_dropWhile htag]
  obtain ⟨d, rest, hrest⟩ := List.exists_cons_of_ne_nil htag
  rw [hrest] at hleft ⊢
  rw [List.cons_append]
  by_cases hd : d = '$'
  · subst hd
    exact skipPast_append hleft t
  · split
    · rename_i heq
      exact absurd (List.cons.inj heq).1 hd
    · split
      · rename_i heq
        exact absurd (List.cons.inj heq).1 hd
      · rfl

theorem skipRun_append {c : Char} {s : List Char} (h : [';'] <:+ skipRun c s) (t : List Char) :
    skipRun c (s ++ t) = skipRun c s ++ t := by
  have hleft : skipRun c s ≠ [] := ne_nil_of_semicolon h
  rw [skipRun.eq_def c s] at h hleft ⊢
  split at h
  · exact skipQuoted_append hleft t
  · exact skipQuoted_append hleft t
  · exact skipQuoted_append hleft t
  · exact skipQuoted_append hleft t
  · exact skipLine_append hleft t
  · exact skipBlock_append hleft t
  · exact skipDollar_append h t
  · rename_i h₁ h₂ h₃ h₄ hdollar hline hblock
    obtain ⟨d, s, rfl⟩ := List.exists_cons_of_ne_nil (ne_nil_of_semicolon h)
    rw [skipRun.eq_def]
    split
    · exact absurd rfl h₁
    · exact absurd rfl h₂
    · exact absurd rfl h₃
    · exact absurd rfl h₄
    · rename_i heq
      exact (hline s rfl ((List.cons.inj heq).1 ▸ rfl)).elim
    · rename_i heq
      exact (hblock s rfl ((List.cons.inj heq).1 ▸ rfl)).elim
    · exact absurd rfl hdollar
    · rfl

/-! ## Turns when more text follows -/

theorem Settled.append {s : List Char} (h : Settled s) (hend : [';'] <:+ s) (t : List Char) :
    Settled (s ++ t) := by
  obtain ⟨c, s, rfl⟩ := List.exists_cons_of_ne_nil (ne_nil_of_semicolon hend)
  cases s with
  | nil =>
      obtain rfl := List.mem_singleton.mp (hend.subset (List.mem_singleton_self ';'))
      exact absurd (h.padding ';' [] rfl) (by decide)
  | cons d s =>
      refine settled_cons (Bool.eq_false_iff.mp (h.padding c (d :: s) rfl)) ?_ ?_
      · rintro after rfl heq
        obtain ⟨rfl, -⟩ := List.cons.inj heq
        exact h.line s rfl
      · rintro after rfl heq
        obtain ⟨rfl, -⟩ := List.cons.inj heq
        exact h.block s rfl

/-- A turn that leaves a text with a semicolon at its end leaves what follows as well. -/
theorem Step.append {place place' : Place} {s s' : List Char} (h : Step place s place' s')
    (hend : [';'] <:+ s') (t : List Char) : Step place (s ++ t) place' (s' ++ t) := by
  have hne := ne_nil_of_semicolon hend
  cases h with
  | blank hc => exact .blank hc
  | empty => exact .empty
  | line =>
      rw [← skipLine_append hne]
      exact .line
  | block =>
      rw [← skipBlock_append hne]
      exact .block
  | enter hsettled _ => exact .enter (hsettled.append hend t) (List.append_ne_nil_of_left_ne_nil hne t)
  | terminator => exact .terminator
  | run hc =>
      rw [← skipRun_append hend]
      exact .run hc

/-! ## Bytes and characters -/

theorem settled_of_octets {s : List Char} (h : Settled (octets s)) : Settled s := by
  refine ⟨?_, ?_, ?_⟩
  · rintro c t rfl
    refine Bool.eq_false_iff.mpr fun hpadding => ?_
    have hbytes := octets_cons_ascii (toNat_lt_of_isPadding hpadding) t
    exact Bool.eq_false_iff.mp (h.padding c (octets t) hbytes) hpadding
  · rintro t rfl
    exact h.line (octets t) (by rw [octets_cons_ascii (by decide), octets_cons_ascii (by decide)])
  · rintro t rfl
    exact h.block (octets t) (by rw [octets_cons_ascii (by decide), octets_cons_ascii (by decide)])

theorem foreign_nil : Foreign [] := fun _ hb => (List.not_mem_nil hb).elim

/-- A turn over the bytes of a text is a turn over its characters. It may leave the other bytes `bs`
of a character beyond ASCII, but only inside a statement. -/
theorem Step.of_octets {place place' : Place} {s o : List Char}
    (h : Step place (octets s) place' o) :
    ∃ bs s', o = bs ++ octets s' ∧ Foreign bs ∧ (bs = [] ∨ place' = .inside) ∧
      Step place s place' s' := by
  generalize ho : octets s = bytes at h
  cases h with
  | @blank c _ hc =>
      have hpadding : isPadding c = true := by simp [isPadding, hc]
      obtain ⟨s, rfl, rfl⟩ := eq_cons_of_octets (toNat_lt_of_isPadding hpadding) ho
      exact ⟨[], s, rfl, foreign_nil, .inl rfl, .blank hc⟩
  | empty =>
      obtain ⟨s, rfl, rfl⟩ := eq_cons_of_octets (by decide) ho
      exact ⟨[], s, rfl, foreign_nil, .inl rfl, .empty⟩
  | line =>
      obtain ⟨s, rfl, hs⟩ := eq_cons_of_octets (by decide) ho
      obtain ⟨s, rfl, rfl⟩ := eq_cons_of_octets (by decide) hs
      exact ⟨[], skipLine s, skipLine_octets s, foreign_nil, .inl rfl, .line⟩
  | block =>
      obtain ⟨s, rfl, hs⟩ := eq_cons_of_octets (by decide) ho
      obtain ⟨s, rfl, rfl⟩ := eq_cons_of_octets (by decide) hs
      exact ⟨[], skipBlock s, skipBlock_octets s, foreign_nil, .inl rfl, .block⟩
  | enter hsettled hne =>
      subst ho
      exact ⟨[], s, rfl, foreign_nil, .inl rfl,
        .enter (settled_of_octets hsettled) fun hs => hne (octets_eq_nil.mpr hs)⟩
  | terminator =>
      obtain ⟨s, rfl, rfl⟩ := eq_cons_of_octets (by decide) ho
      exact ⟨[], s, rfl, foreign_nil, .inl rfl, .terminator⟩
  | @run c _ hc =>
      obtain ⟨d, s, rfl⟩ := List.exists_cons_of_ne_nil (l := s) fun hs => by
        rw [hs] at ho
        exact List.cons_ne_nil _ _ ho.symm
      by_cases hascii : d.toNat < 128
      · rw [octets_cons_ascii hascii] at ho
        obtain ⟨rfl, rfl⟩ := List.cons.inj ho
        exact ⟨[], skipRun d s, skipRun_octets d s, foreign_nil, .inl rfl, .run hc⟩
      · have hle := Nat.not_lt.mp hascii
        have hforeign := octetsOf_foreign hle
        obtain ⟨b, bs, hbytes⟩ := List.exists_cons_of_ne_nil (octetsOf_ne_nil d)
        rw [octets_cons, hbytes] at ho
        rw [hbytes] at hforeign
        obtain ⟨rfl, rfl⟩ := List.cons.inj ho
        have hd : d ≠ ';' := by
          rintro rfl
          exact hascii (by decide)
        have hstep := Step.run (s := s) hd
        rw [skipRun_of_le hle] at hstep
        exact ⟨bs, s, skipRun_of_le (hforeign b List.mem_cons_self) _, hforeign.tail, .inr rfl,
          hstep⟩

/-- A scan of bytes is a scan of characters. Inside a statement it may stand within a character; the
bytes `bs` of that character which are still to come are passed over. -/
theorem Finishes.of_bytes {place : Place} {o : List Char} (h : Finishes place o)
    {bs s : List Char} (ho : o = bs ++ octets s) (hbs : Foreign bs)
    (hplace : bs = [] ∨ place = .inside) : Finishes place s := by
  induction h generalizing bs s with
  | semicolon =>
      cases bs with
      | nil =>
          obtain ⟨s, rfl, hs⟩ := eq_cons_of_octets (by decide) ho.symm
          obtain rfl := octets_eq_nil.mp hs
          exact .semicolon
      | cons b bs => exact absurd (List.cons.inj ho).1.symm (hbs.ne (by decide))
  | step hstep _ ih =>
      cases bs with
      | nil =>
          rw [ho, List.nil_append] at hstep
          obtain ⟨bs, s', hrest, hforeign, hplace', hstep'⟩ := hstep.of_octets
          exact .step hstep' (ih hrest hforeign hplace')
      | cons b bs =>
          obtain rfl : _ = Place.inside := hplace.resolve_left (List.cons_ne_nil _ _)
          cases hstep with
          | terminator => exact absurd (List.cons.inj ho).1.symm (hbs.ne (by decide))
          | run =>
              obtain ⟨rfl, rfl⟩ := List.cons.inj ho
              exact ih (skipRun_of_le (hbs _ List.mem_cons_self) _) hbs.tail (.inr rfl)

theorem Finished.finishes {s : List Char} (h : Finished s) : Finishes .between s :=
  h.of_bytes rfl foreign_nil (.inl rfl)

end Sluice.Scan
