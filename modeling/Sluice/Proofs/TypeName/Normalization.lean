import Mathlib.Logic.Relation
import Sluice.Proofs.Text.Capitals
import Sluice.TypeName

/-!
# Normal forms of type names

A type name can be respelled in many ways: its letters change case, blanks are added around it and
between its words, parameter lists are written into it. No respelling changes the normal form, and
the normal form of a normal form is itself.
-/

namespace Sluice

namespace Text

/-! ## Words -/

/-- A text of blanks. -/
def AllBlank (cs : List Char) : Prop := ∀ c ∈ cs, isBlank c = true

variable {b c d : Char} {cs : List Char}

theorem words_cons (c : Char) (cs : List Char) :
    words (c :: cs) =
      if isBlank c then words cs
      else match cs, words cs with
        | d :: _, word :: later => if isBlank d then [c] :: word :: later else (c :: word) :: later
        | _, later => [c] :: later := rfl

theorem words_cons_blank (h : isBlank b = true) (cs : List Char) : words (b :: cs) = words cs := by
  rw [words_cons, if_pos h]

theorem words_cons_cons_blank (hc : isBlank c = false) (hd : isBlank d = true) (cs : List Char) :
    words (c :: d :: cs) = [c] :: words (d :: cs) := by
  rw [words_cons, if_neg (by simp [hc])]
  cases words (d :: cs) <;> simp [hd]

theorem words_ne_nil (hc : isBlank c = false) (cs : List Char) : words (c :: cs) ≠ [] := by
  rw [words_cons, if_neg (by simp [hc])]
  split
  · split <;> exact List.cons_ne_nil _ _
  · exact List.cons_ne_nil _ _

theorem words_cons_cons (hc : isBlank c = false) (hd : isBlank d = false) {word : List Char}
    {later : List (List Char)} (h : words (d :: cs) = word :: later) :
    words (c :: d :: cs) = (c :: word) :: later := by
  rw [words_cons, if_neg (by simp [hc]), h]
  simp [hd]

theorem words_singleton (hc : isBlank c = false) : words [c] = [[c]] := by
  rw [words_cons, if_neg (by simp [hc])]
  rfl

/-- Words end at a blank. -/
theorem words_append_blank (hb : isBlank b = true) (cs ds : List Char) :
    words (cs ++ b :: ds) = words cs ++ words ds := by
  induction cs with
  | nil => exact words_cons_blank hb ds
  | cons c cs ih =>
      rw [List.cons_append]
      cases hc : isBlank c with
      | true => rw [words_cons_blank hc, words_cons_blank hc, ih]
      | false =>
          cases cs with
          | nil =>
              rw [List.nil_append, words_cons_cons_blank hc hb, words_cons_blank hb,
                words_singleton hc]
              rfl
          | cons d cs =>
              rw [List.cons_append] at ih ⊢
              cases hd : isBlank d with
              | true =>
                  rw [words_cons_cons_blank hc hd, words_cons_cons_blank hc hd, ih]
                  rfl
              | false =>
                  obtain ⟨word, later, hwords⟩ := List.exists_cons_of_ne_nil (words_ne_nil hd cs)
                  rw [hwords] at ih
                  rw [words_cons_cons hc hd ih, words_cons_cons hc hd hwords]
                  rfl

theorem words_blanks (h : AllBlank cs) : words cs = [] := by
  induction cs with
  | nil => rfl
  | cons c cs ih =>
      rw [words_cons_blank (h c (by simp))]
      exact ih fun d hd => h d (by simp [hd])

theorem words_append_blanks (cs : List Char) {blanks : List Char} (h : AllBlank blanks) :
    words (cs ++ blanks) = words cs := by
  cases blanks with
  | nil => rw [List.append_nil]
  | cons b blanks =>
      have hrest : AllBlank blanks := fun d hd => h d (List.mem_cons_of_mem _ hd)
      rw [words_append_blank (h b (by simp)), words_blanks hrest, List.append_nil]

theorem words_blanks_append {blanks : List Char} (h : AllBlank blanks) (cs : List Char) :
    words (blanks ++ cs) = words cs := by
  induction blanks with
  | nil => rfl
  | cons b blanks ih =>
      rw [List.cons_append, words_cons_blank (h b (by simp))]
      exact ih fun d hd => h d (by simp [hd])

theorem words_between {blanks : List Char} (h : AllBlank blanks) (hne : blanks ≠ [])
    (cs ds : List Char) : words (cs ++ (blanks ++ ds)) = words cs ++ words ds := by
  cases blanks with
  | nil => exact absurd rfl hne
  | cons b blanks =>
      have hrest : AllBlank blanks := fun d hd => h d (List.mem_cons_of_mem _ hd)
      rw [List.cons_append, words_append_blank (h b (by simp)), words_blanks_append hrest]

/-- A word is not empty, and has no blanks. -/
structure IsWord (w : List Char) : Prop where
  ne_nil : w ≠ []
  not_blank : ∀ c ∈ w, isBlank c = false

theorem words_of_isWord {w : List Char} (h : IsWord w) : words w = [w] := by
  induction w with
  | nil => exact absurd rfl h.ne_nil
  | cons c w ih =>
      have hc := h.not_blank c (by simp)
      cases w with
      | nil => exact words_singleton hc
      | cons d w =>
          have hw : IsWord (d :: w) := ⟨List.cons_ne_nil _ _, fun x hx =>
            h.not_blank x (List.mem_cons_of_mem _ hx)⟩
          exact words_cons_cons hc (hw.not_blank d (by simp)) (ih hw)

theorem isWord_of_mem_words {cs w : List Char} (h : w ∈ words cs) :
    IsWord w ∧ ∀ c ∈ w, c ∈ cs := by
  induction cs generalizing w with
  | nil => exact absurd h List.not_mem_nil
  | cons c cs ih =>
      cases hc : isBlank c with
      | true =>
          rw [words_cons_blank hc] at h
          exact ⟨(ih h).1, fun x hx => List.mem_cons_of_mem _ ((ih h).2 x hx)⟩
      | false =>
          have hletter : IsWord [c] := ⟨List.cons_ne_nil _ _, by simp [hc]⟩
          cases cs with
          | nil =>
              rw [words_singleton hc, List.mem_singleton] at h
              subst h
              exact ⟨hletter, fun x hx => hx⟩
          | cons d cs =>
              cases hd : isBlank d with
              | true =>
                  rw [words_cons_cons_blank hc hd] at h
                  cases List.mem_cons.mp h with
                  | inl heq =>
                      subst heq
                      exact ⟨hletter, by simp⟩
                  | inr hw => exact ⟨(ih hw).1, fun x hx => List.mem_cons_of_mem _ ((ih hw).2 x hx)⟩
              | false =>
                  obtain ⟨word, later, hwords⟩ := List.exists_cons_of_ne_nil (words_ne_nil hd cs)
                  rw [words_cons_cons hc hd hwords] at h
                  rw [hwords] at ih
                  cases List.mem_cons.mp h with
                  | inl heq =>
                      have hword := ih (List.mem_cons_self (l := later))
                      subst heq
                      constructor
                      · constructor
                        · exact List.cons_ne_nil _ _
                        · simpa [hc] using hword.1.not_blank
                      · intro x hx
                        cases List.mem_cons.mp hx with
                        | inl hxc => simp [hxc]
                        | inr hxw => exact List.mem_cons_of_mem _ (hword.2 x hxw)
                  | inr hw =>
                      have hlater := ih (List.mem_cons_of_mem _ hw)
                      exact ⟨hlater.1, fun x hx => List.mem_cons_of_mem _ (hlater.2 x hx)⟩

/-- A change of characters that keeps blanks and the others apart changes the words only so. -/
theorem words_map {f : Char → Char} (hf : ∀ c, isBlank (f c) = isBlank c) (cs : List Char) :
    words (cs.map f) = (words cs).map (List.map f) := by
  induction cs with
  | nil => rfl
  | cons c cs ih =>
      rw [List.map_cons]
      cases hc : isBlank c with
      | true => rw [words_cons_blank hc, words_cons_blank ((hf c).trans hc), ih]
      | false =>
          have hfc := (hf c).trans hc
          cases cs with
          | nil =>
              rw [List.map_nil, words_singleton hc, words_singleton hfc]
              rfl
          | cons d cs =>
              rw [List.map_cons] at ih ⊢
              cases hd : isBlank d with
              | true =>
                  rw [words_cons_cons_blank hc hd, words_cons_cons_blank hfc ((hf d).trans hd), ih]
                  rfl
              | false =>
                  obtain ⟨word, later, hwords⟩ := List.exists_cons_of_ne_nil (words_ne_nil hd cs)
                  rw [hwords] at ih
                  rw [words_cons_cons hfc ((hf d).trans hd) ih, words_cons_cons hc hd hwords]
                  rfl

end Text

namespace TypeName

open Text

variable {c : Char} {cs ds : List Char} {depth : Nat}

/-! ## Parameter lists -/

/-- How many parentheses are open after a text. -/
def depthAfter (depth : Nat) : List Char → Nat
  | [] => depth
  | '(' :: cs => depthAfter (depth + 1) cs
  | ')' :: cs => depthAfter (depth - 1) cs
  | _ :: cs => depthAfter depth cs

/-- Every parenthesis is closed, and none before it is opened. -/
inductive Balanced : List Char → Prop where
  | nil : Balanced []
  | char {c : Char} {cs : List Char} : c ≠ '(' → c ≠ ')' → Balanced cs → Balanced (c :: cs)
  | nested {cs ds : List Char} : Balanced cs → Balanced ds → Balanced ('(' :: cs ++ ')' :: ds)

/-- A text without parentheses. -/
def Flat (cs : List Char) : Prop := ∀ c ∈ cs, c ≠ '(' ∧ c ≠ ')'

theorem dropParameters_cons (hopen : c ≠ '(') (hclose : c ≠ ')') :
    dropParameters depth (c :: cs) =
      if depth = 0 then c :: dropParameters depth cs else dropParameters depth cs :=
  dropParameters.eq_4 depth c cs hopen hclose

theorem depthAfter_cons (hopen : c ≠ '(') (hclose : c ≠ ')') :
    depthAfter depth (c :: cs) = depthAfter depth cs :=
  depthAfter.eq_4 depth c cs hopen hclose

theorem dropParameters_append (depth : Nat) (cs ds : List Char) :
    dropParameters depth (cs ++ ds) =
      dropParameters depth cs ++ dropParameters (depthAfter depth cs) ds := by
  fun_induction depthAfter depth cs with
  | case1 depth => rfl
  | case2 depth cs ih => exact ih
  | case3 depth cs ih => exact ih
  | case4 depth c cs hopen hclose ih =>
      rw [List.cons_append, dropParameters_cons hopen hclose, dropParameters_cons hopen hclose, ih]
      by_cases hdepth : depth = 0 <;> simp [hdepth]

theorem depthAfter_append (depth : Nat) (cs ds : List Char) :
    depthAfter depth (cs ++ ds) = depthAfter (depthAfter depth cs) ds := by
  fun_induction depthAfter depth cs with
  | case1 depth => rfl
  | case2 depth cs ih => exact ih
  | case3 depth cs ih => exact ih
  | case4 depth c cs hopen hclose ih => rw [List.cons_append, depthAfter_cons hopen hclose, ih]

theorem Balanced.depthAfter_eq (h : Balanced cs) (depth : Nat) : depthAfter depth cs = depth := by
  induction h generalizing depth with
  | nil => rfl
  | char hopen hclose _ ih => rw [depthAfter_cons hopen hclose, ih]
  | nested _ _ ih₁ ih₂ =>
      change depthAfter (depth + 1) (_ ++ ')' :: _) = depth
      rw [depthAfter_append, ih₁]
      exact ih₂ depth

theorem Balanced.dropParameters_eq (h : Balanced cs) (depth : Nat) :
    dropParameters (depth + 1) cs = [] := by
  induction h generalizing depth with
  | nil => rfl
  | char hopen hclose _ ih => rw [dropParameters_cons hopen hclose, if_neg (Nat.succ_ne_zero _), ih]
  | nested h₁ _ ih₁ ih₂ =>
      change dropParameters (depth + 1 + 1) (_ ++ ')' :: _) = []
      rw [dropParameters_append, ih₁, h₁.depthAfter_eq]
      exact ih₂ depth

/-- A parameter list leaves no trace, wherever it stands. -/
theorem dropParameters_list (h : Balanced cs) (depth : Nat) (before after : List Char) :
    dropParameters depth (before ++ '(' :: cs ++ ')' :: after) =
      dropParameters depth (before ++ after) := by
  rw [List.append_assoc, dropParameters_append, dropParameters_append depth before after]
  congr 1
  change dropParameters (depthAfter depth before + 1) (cs ++ ')' :: after) = _
  rw [dropParameters_append, h.dropParameters_eq, h.depthAfter_eq]
  rfl

theorem dropParameters_flat (h : Flat cs) (depth : Nat) :
    dropParameters depth cs = if depth = 0 then cs else [] := by
  induction cs with
  | nil => simp [dropParameters]
  | cons c cs ih =>
      have hc := h c (by simp)
      rw [dropParameters_cons hc.1 hc.2, ih fun d hd => h d (by simp [hd])]
      by_cases hdepth : depth = 0 <;> simp [hdepth]

theorem depthAfter_flat (h : Flat cs) (depth : Nat) : depthAfter depth cs = depth := by
  induction cs with
  | nil => rfl
  | cons c cs ih =>
      have hc := h c (by simp)
      rw [depthAfter_cons hc.1 hc.2, ih fun d hd => h d (by simp [hd])]

theorem flat_dropParameters (depth : Nat) (cs : List Char) : Flat (dropParameters depth cs) := by
  fun_induction dropParameters depth cs with
  | case1 => exact fun c hc => absurd hc List.not_mem_nil
  | case2 depth cs ih => exact ih
  | case3 depth cs ih => exact ih
  | case4 c cs hopen hclose ih =>
      intro d hd
      cases List.mem_cons.mp hd with
      | inl heq => exact heq ▸ ⟨hopen, hclose⟩
      | inr hmem => exact ih d hmem
  | case5 depth c cs hopen hclose hdepth ih => exact ih

/-! ## Respelling -/

/-- One step from a spelling of a type name to another. -/
inductive Respells : List Char → List Char → Prop where
  /-- ASCII letters may change case. -/
  | recase {cs ds : List Char} : cs.map Char.toLower = ds.map Char.toLower → Respells cs ds
  | leading {blanks : List Char} (cs : List Char) : AllBlank blanks → Respells cs (blanks ++ cs)
  | trailing {blanks : List Char} (cs : List Char) : AllBlank blanks → Respells cs (cs ++ blanks)
  /-- Where a blank is, there may be more. -/
  | lengthen {b : Char} {blanks : List Char} (before after : List Char) : isBlank b = true →
      AllBlank blanks → Respells (before ++ b :: after) (before ++ b :: blanks ++ after)
  /-- A parameter list may stand anywhere. -/
  | parameters {inner : List Char} (before after : List Char) : Balanced inner →
      Respells (before ++ after) (before ++ '(' :: inner ++ ')' :: after)

theorem isBlank_toLower (c : Char) : isBlank c.toLower = isBlank c := by
  by_cases hascii : c.toNat < 0x80
  · exact forall_ascii (P := fun c => isBlank c.toLower = isBlank c) (by decide) hascii
  · rw [toLower_of_not_ascii hascii]

theorem flat_of_allBlank (h : AllBlank cs) : Flat cs := by
  intro c hc
  have hblank := h c hc
  constructor
  · intro hopen
    subst hopen
    exact absurd hblank (by decide)
  · intro hclose
    subst hclose
    exact absurd hblank (by decide)

theorem toLower_ne (hopen : c ≠ '(') (hclose : c ≠ ')') : c.toLower ≠ '(' ∧ c.toLower ≠ ')' := by
  by_cases hascii : c.toNat < 0x80
  · exact forall_ascii
      (P := fun c => c ≠ '(' → c ≠ ')' → c.toLower ≠ '(' ∧ c.toLower ≠ ')') (by decide)
      hascii hopen hclose
  · rw [toLower_of_not_ascii hascii]
    exact ⟨hopen, hclose⟩

theorem dropParameters_map_toLower (depth : Nat) (cs : List Char) :
    dropParameters depth (cs.map Char.toLower) =
      (dropParameters depth cs).map Char.toLower := by
  fun_induction dropParameters depth cs with
  | case1 => rfl
  | case2 depth cs ih => exact ih
  | case3 depth cs ih => exact ih
  | case4 c cs hopen hclose ih =>
      have hne := toLower_ne hopen hclose
      rw [List.map_cons, dropParameters_cons hne.1 hne.2, if_pos rfl, ih]
      rfl
  | case5 depth c cs hopen hclose hdepth ih =>
      have hne := toLower_ne hopen hclose
      rw [List.map_cons, dropParameters_cons hne.1 hne.2, if_neg hdepth, ih]

/-- The words of a name, without its parameter lists. -/
def nameWords (cs : List Char) : List (List Char) := words (dropParameters 0 cs)

/-- The normal form, as a text. -/
def normalForm (cs : List Char) : List Char := upper (joinWords (nameWords cs))

theorem toList_normalize (name : String) : (normalize name).toList = normalForm name.toList :=
  String.toList_ofList

theorem upper_joinWords (ws : List (List Char)) :
    upper (joinWords ws) = joinWords (ws.map upper) := by
  fun_induction joinWords ws with
  | case1 => rfl
  | case2 w => rfl
  | case3 w rest hne ih =>
      cases rest with
      | nil => exact absurd rfl hne
      | cons v rest =>
          rw [upper_append, upper_cons, ih]
          rfl

theorem nameWords_map_toLower (cs : List Char) :
    nameWords (cs.map Char.toLower) = (nameWords cs).map (List.map Char.toLower) := by
  rw [nameWords, dropParameters_map_toLower, words_map isBlank_toLower, nameWords]

theorem normalForm_map_toLower (cs : List Char) :
    normalForm (cs.map Char.toLower) = normalForm cs := by
  rw [normalForm, nameWords_map_toLower, upper_joinWords, List.map_map, normalForm, upper_joinWords]
  congr 1
  exact List.map_congr_left fun w _ => upper_map_toLower w

/-- Blanks in a name are blanks between its words, or part of a parameter list. -/
theorem allBlank_dropParameters (h : AllBlank cs) (depth : Nat) :
    AllBlank (dropParameters depth cs) := by
  rw [dropParameters_flat (flat_of_allBlank h)]
  by_cases hdepth : depth = 0
  · simpa [hdepth] using h
  · simp [hdepth, AllBlank]

theorem nameWords_leading {blanks : List Char} (h : AllBlank blanks) (cs : List Char) :
    nameWords (blanks ++ cs) = nameWords cs := by
  rw [nameWords, dropParameters_append, depthAfter_flat (flat_of_allBlank h),
    words_blanks_append (allBlank_dropParameters h 0), nameWords]

theorem nameWords_trailing {blanks : List Char} (h : AllBlank blanks) (cs : List Char) :
    nameWords (cs ++ blanks) = nameWords cs := by
  rw [nameWords, dropParameters_append, words_append_blanks _ (allBlank_dropParameters h _),
    nameWords]

/-- How many blanks separate two words does not matter. -/
theorem nameWords_between {blanks : List Char} (h : AllBlank blanks) (hne : blanks ≠ [])
    (before after : List Char) :
    nameWords (before ++ (blanks ++ after)) =
      if depthAfter 0 before = 0 then
        words (dropParameters 0 before) ++ words (dropParameters 0 after)
      else words (dropParameters 0 before ++ dropParameters (depthAfter 0 before) after) := by
  have hflat := flat_of_allBlank h
  rw [nameWords, dropParameters_append, dropParameters_append, dropParameters_flat hflat,
    depthAfter_flat hflat]
  by_cases hdepth : depthAfter 0 before = 0
  · rw [if_pos hdepth, if_pos hdepth, words_between h hne, hdepth]
  · rw [if_neg hdepth, if_neg hdepth, List.nil_append]

theorem nameWords_lengthen {b : Char} {blanks : List Char} (hb : isBlank b = true)
    (h : AllBlank blanks) (before after : List Char) :
    nameWords (before ++ b :: blanks ++ after) = nameWords (before ++ b :: after) := by
  have hone : AllBlank [b] := by simpa [AllBlank] using hb
  have hmore : AllBlank (b :: blanks) := by
    intro c hc
    cases List.mem_cons.mp hc with
    | inl heq => exact heq ▸ hb
    | inr hmem => exact h c hmem
  rw [List.append_assoc, nameWords_between hmore (List.cons_ne_nil _ _),
    ← nameWords_between hone (List.cons_ne_nil _ _), List.singleton_append]

/-- Respelling a name does not change its normal form. -/
theorem Respells.normalForm_eq (h : Respells cs ds) : normalForm cs = normalForm ds := by
  cases h with
  | recase hcase => rw [← normalForm_map_toLower, hcase, normalForm_map_toLower]
  | leading _ hblanks => rw [normalForm, normalForm, nameWords_leading hblanks]
  | trailing _ hblanks => rw [normalForm, normalForm, nameWords_trailing hblanks]
  | lengthen before after hb hblanks =>
      rw [normalForm, normalForm, nameWords_lengthen hb hblanks]
  | parameters before after hinner =>
      rw [normalForm, normalForm, nameWords, nameWords, dropParameters_list hinner]

/-- However often a name is respelled, its normal form stays the same. -/
theorem normalize_of_respells {native native' : String}
    (h : Relation.EqvGen Respells native.toList native'.toList) :
    normalize native = normalize native' := by
  have hform : ∀ cs ds, Relation.EqvGen Respells cs ds → normalForm cs = normalForm ds := by
    intro cs ds h
    induction h with
    | rel cs ds h => exact h.normalForm_eq
    | refl cs => rfl
    | symm cs ds _ ih => exact ih.symm
    | trans cs ds es _ _ ih₁ ih₂ => exact ih₁.trans ih₂
  exact String.toList_inj.mp (by rw [toList_normalize, toList_normalize, hform _ _ h])

/-! ## Normal forms of normal forms -/

theorem words_joinWords {ws : List (List Char)} (h : ∀ w ∈ ws, IsWord w) :
    words (joinWords ws) = ws := by
  fun_induction joinWords ws with
  | case1 => rfl
  | case2 w => exact words_of_isWord (h w (by simp))
  | case3 w rest hne ih =>
      rw [words_append_blank (by decide), words_of_isWord (h w (by simp)),
        ih fun v hv => h v (List.mem_cons_of_mem _ hv)]
      rfl

theorem mem_joinWords {ws : List (List Char)} {c : Char} (h : c ∈ joinWords ws) :
    c = ' ' ∨ ∃ w ∈ ws, c ∈ w := by
  fun_induction joinWords ws with
  | case1 => exact absurd h List.not_mem_nil
  | case2 w => exact .inr ⟨w, by simp, h⟩
  | case3 w rest hne ih =>
      simp only [List.mem_append, List.mem_cons] at h
      rcases h with hw | hspace | hrest
      · exact .inr ⟨w, by simp, hw⟩
      · exact .inl hspace
      · cases ih hrest with
        | inl hspace => exact .inl hspace
        | inr hword =>
            obtain ⟨v, hv, hc⟩ := hword
            exact .inr ⟨v, List.mem_cons_of_mem _ hv, hc⟩

theorem isWord_upper {w : List Char} (h : IsWord w) : IsWord (upper w) := by
  constructor
  · exact upper_ne_nil h.ne_nil
  · intro c hc
    cases mem_upper hc with
    | inl hmem => exact h.not_blank c hmem
    | inr hsettled => exact hsettled.not_blank

theorem flat_normalForm (cs : List Char) : Flat (normalForm cs) := by
  intro c hc
  cases mem_upper hc with
  | inr hsettled => exact ⟨hsettled.not_open, hsettled.not_close⟩
  | inl hmem =>
      cases mem_joinWords hmem with
      | inl hspace =>
          subst hspace
          decide
      | inr hword =>
          obtain ⟨w, hw, hc⟩ := hword
          exact flat_dropParameters 0 cs c ((isWord_of_mem_words hw).2 c hc)

/-- The words of a normal form are the words of the name in capitals. -/
theorem nameWords_normalForm (cs : List Char) :
    nameWords (normalForm cs) = (nameWords cs).map upper := by
  rw [nameWords, dropParameters_flat (flat_normalForm cs), if_pos rfl, normalForm, upper_joinWords]
  refine words_joinWords fun w hw => ?_
  obtain ⟨v, hv, rfl⟩ := List.mem_map.mp hw
  exact isWord_upper (isWord_of_mem_words hv).1

theorem normalForm_normalForm (cs : List Char) : normalForm (normalForm cs) = normalForm cs := by
  rw [normalForm, nameWords_normalForm, ← upper_joinWords, upper_upper, normalForm]

@[simp] theorem normalize_normalize (name : String) : normalize (normalize name) = normalize name :=
  String.toList_inj.mp (by
    rw [toList_normalize, toList_normalize, normalForm_normalForm])

/-! ## Arrays -/

/-- A normal form that ends like the name of an array type. -/
def EndsLikeArray (normal : String) : Prop :=
  "[]".toList <:+ normal.toList ∨ " ARRAY".toList <:+ normal.toList

theorem isArray_iff {normal : String} : isArray normal = true ↔ EndsLikeArray normal := by
  have hends : ∀ ending : List Char,
      ending.reverse.isPrefixOf normal.toList.reverse = true ↔ ending <:+ normal.toList := by
    intro ending
    rw [List.isPrefixOf_iff_prefix, List.reverse_prefix]
  rw [isArray, Bool.or_eq_true, EndsLikeArray, ← hends, ← hends]
  rfl

theorem semanticType_of_endsLikeArray {name : String} (h : EndsLikeArray (normalize name)) :
    semanticType name = .other := by
  rw [semanticType, lookup?, if_pos (isArray_iff.mpr h), Option.getD_some]

end TypeName

end Sluice
