import Sluice.Proofs.Translation.Frames
import Sluice.Proofs.Translation.Tidy

/-!
# Masked names

Masking a text puts one token in place of every quoted name, doubled quotes included, and leaves all
else as it is. Two texts are twins if they have the same mask, whatever is masked behind them.
-/

namespace Sluice

/-! ## The mask -/

/-- Where a character stands: outside all quotes, in a quoted text, in a quoted name, or behind a
quote in a name, which ends the name unless it is doubled. -/
inductive Place where
  | outside
  | text
  | name
  | quote

/-- Mask a text from a place on. -/
def maskFrom (token : List Char) : Place → List Char → List Char
  | _, [] => []
  | .text, c :: rest => c :: maskFrom token (if c = '\'' then .outside else .text) rest
  | .name, c :: rest => maskFrom token (if c = '"' then .quote else .name) rest
  | .quote, c :: rest =>
    if c = '"' then maskFrom token .name rest
    else c :: maskFrom token (if c = '\'' then .text else .outside) rest
  | .outside, c :: rest =>
    if c = '"' then token ++ maskFrom token .name rest
    else c :: maskFrom token (if c = '\'' then .text else .outside) rest

/-- Put a token in place of every quoted name. -/
def maskNames (token sql : String) : String :=
  String.ofList (maskFrom token.toList .outside sql.toList)

/-- A text that does not go on a quoted name before it. -/
def StartsNoName (s : List Char) : Prop := s.head? ≠ some '"'

variable {token : List Char}

theorem maskFrom_outside_cons {c : Char} (hname : c ≠ '"') (htext : c ≠ '\'') (s : List Char) :
    maskFrom token .outside (c :: s) = c :: maskFrom token .outside s := by
  rw [maskFrom, if_neg hname, if_neg htext]

theorem maskFrom_quote_cons {c : Char} (hname : c ≠ '"') (s : List Char) :
    maskFrom token .quote (c :: s) = maskFrom token .outside (c :: s) := by
  rw [maskFrom, maskFrom, if_neg hname, if_neg hname]

theorem maskFrom_quote {s : List Char} (h : StartsNoName s) :
    maskFrom token .quote s = maskFrom token .outside s := by
  cases s with
  | nil => rfl
  | cons c s => exact maskFrom_quote_cons (fun heq => h (congrArg some heq)) s

theorem maskFrom_text_run {body : List Char} (h : '\'' ∉ body) (s : List Char) :
    maskFrom token .outside ('\'' :: (body ++ '\'' :: s)) =
      '\'' :: (body ++ '\'' :: maskFrom token .outside s) := by
  have hrun : ∀ body : List Char, '\'' ∉ body →
      maskFrom token .text (body ++ '\'' :: s) = body ++ '\'' :: maskFrom token .outside s := by
    intro body
    induction body with
    | nil => exact fun _ => rfl
    | cons c body ih =>
        intro hbody
        rw [List.mem_cons, not_or] at hbody
        rw [List.cons_append, maskFrom, if_neg (Ne.symm hbody.1), ih hbody.2, List.cons_append]
  exact congrArg _ (hrun body h)

theorem maskFrom_name_run {body : List Char} (h : '"' ∉ body) (s : List Char) :
    maskFrom token .name (body ++ '"' :: s) = maskFrom token .quote s := by
  induction body with
  | nil => rfl
  | cons c body ih =>
      rw [List.mem_cons, not_or] at h
      rw [List.cons_append, maskFrom, if_neg (Ne.symm h.1)]
      exact ih h.2

theorem maskFrom_of_inert {s : List Char} (h : Inert s) (hquote : '"' ∉ s) (t : List Char) :
    maskFrom token .outside (s ++ t) = s ++ maskFrom token .outside t := by
  induction h with
  | nil => rfl
  | safe hc _ ih =>
      rw [List.cons_append, maskFrom_outside_cons (ne_of_isSafe hc (by decide))
        (ne_of_isSafe hc (by decide)), ih fun h => hquote (List.mem_cons_of_mem _ h),
        List.cons_append]
  | minus _ _ ih =>
      rw [List.cons_append, maskFrom_outside_cons (by decide) (by decide),
        ih fun h => hquote (List.mem_cons_of_mem _ h)]
      rfl
  | slash _ _ ih =>
      rw [List.cons_append, maskFrom_outside_cons (by decide) (by decide),
        ih fun h => hquote (List.mem_cons_of_mem _ h)]
      rfl
  | @quoted mark body s hmark hbody _ ih =>
      obtain rfl | rfl := hmark
      · have hrest : '"' ∉ s := fun h => hquote (by simp [h])
        rw [List.cons_append, List.append_assoc, List.cons_append, maskFrom_text_run hbody,
          ih hrest, List.cons_append, List.append_assoc, List.cons_append]
      · exact absurd List.mem_cons_self hquote

/-- A firm text stays as it is. -/
theorem Firm.maskFrom_append {s : String} (h : Firm s) (t : List Char) :
    maskFrom token .outside (s.toList ++ t) = s.toList ++ maskFrom token .outside t :=
  maskFrom_of_inert h.inert h.unquoted t

/-- A quoted name becomes the token. -/
theorem maskFrom_quoteName (name : String) {t : List Char} (ht : StartsNoName t) :
    maskFrom token .outside ((quoteName name).toList ++ t) =
      token ++ maskFrom token .outside t := by
  have hrun : ∀ s : List Char,
      maskFrom token .name (s.flatMap (fun c => if c = '"' then ['"', '"'] else [c]) ++ '"' :: t) =
        maskFrom token .quote t := by
    intro s
    induction s with
    | nil => rfl
    | cons c s ih =>
        by_cases hc : c = '"'
        · rw [List.flatMap_cons, if_pos hc]
          exact ih
        · rw [List.flatMap_cons, if_neg hc, List.append_assoc, List.singleton_append, maskFrom,
            if_neg hc]
          exact ih
  have hall := hrun name.toList
  rw [quoteName, quoteWith, String.toList_ofList, List.cons_append, List.cons_append,
    List.append_assoc, List.singleton_append, maskFrom, if_pos rfl, hall, maskFrom_quote ht]

/-! ## Twins -/

/-- A text has the mask `m`, whatever is masked behind it. -/
def Masks (token s m : List Char) : Prop :=
  ∀ t, StartsNoName t → maskFrom token .outside (s ++ t) = m ++ maskFrom token .outside t

/-- Two texts have the same mask. -/
def Twin (token : List Char) (s s' : String) : Prop :=
  ∃ m, Masks token s.toList m ∧ Masks token s'.toList m

theorem StartsNoName.append {s t : List Char} (hs : StartsNoName s) (ht : StartsNoName t) :
    StartsNoName (s ++ t) := by
  cases s with
  | nil => exact ht
  | cons c s => exact hs

theorem Separator.startsNoName {s : String} (h : Separator s) (t : List Char) :
    StartsNoName (s.toList ++ t) := by
  obtain ⟨c, hc, -⟩ := h.apart
  cases hs : s.toList with
  | nil =>
      rw [hs] at hc
      exact nomatch hc
  | cons c rest =>
      intro hquote
      refine h.unquoted ?_
      rw [hs, Option.some.inj hquote]
      exact List.mem_cons_self

theorem Masks.append {s m r n : List Char} (hs : Masks token s m) (hr : Masks token r n)
    (hstart : StartsNoName r) : Masks token (s ++ r) (m ++ n) := by
  intro t ht
  rw [List.append_assoc, hs _ (hstart.append ht), hr t ht, List.append_assoc]

/-- An inert text has a mask, also behind a quote that may end a name. -/
theorem Inert.masks {s : List Char} (h : Inert s) :
    (∃ m, Masks token s m) ∧
      ∃ m, ∀ t, StartsNoName t →
        maskFrom token .quote (s ++ t) = m ++ maskFrom token .outside t := by
  have hcons : ∀ (c : Char) (s : List Char), c ≠ '"' → c ≠ '\'' → (∃ m, Masks token s m) →
      (∃ m, Masks token (c :: s) m) ∧ ∃ m, ∀ t, StartsNoName t →
        maskFrom token .quote (c :: s ++ t) = m ++ maskFrom token .outside t := by
    rintro c s hname htext ⟨m, hm⟩
    have hmasks : Masks token (c :: s) (c :: m) := by
      intro t ht
      rw [List.cons_append, maskFrom_outside_cons hname htext, hm t ht, List.cons_append]
    refine ⟨⟨_, hmasks⟩, c :: m, fun t ht => ?_⟩
    rw [List.cons_append, maskFrom_quote_cons hname]
    exact hmasks t ht
  induction h with
  | nil => exact ⟨⟨[], fun t _ => rfl⟩, [], fun t ht => maskFrom_quote ht⟩
  | safe hc _ ih =>
      exact hcons _ _ (ne_of_isSafe hc (by decide)) (ne_of_isSafe hc (by decide)) ih.1
  | minus _ _ ih => exact hcons _ _ (by decide) (by decide) ih.1
  | slash _ _ ih => exact hcons _ _ (by decide) (by decide) ih.1
  | @quoted mark body s hmark hbody _ ih =>
      obtain ⟨⟨m, hm⟩, m', hm'⟩ := ih
      obtain rfl | rfl := hmark
      · have hmasks : Masks token ('\'' :: (body ++ '\'' :: s)) ('\'' :: (body ++ '\'' :: m)) := by
          intro t ht
          rw [List.cons_append, List.append_assoc, List.cons_append, maskFrom_text_run hbody,
            hm t ht, List.cons_append, List.append_assoc, List.cons_append]
        refine ⟨⟨_, hmasks⟩, '\'' :: (body ++ '\'' :: m), fun t ht => ?_⟩
        rw [List.cons_append, maskFrom_quote_cons (by decide)]
        exact hmasks t ht
      · refine ⟨⟨token ++ m', fun t ht => ?_⟩, m', fun t ht => ?_⟩
        · rw [List.cons_append, maskFrom, if_pos rfl, List.append_assoc, List.cons_append,
            maskFrom_name_run hbody, hm' t ht, List.append_assoc]
        · rw [List.cons_append, maskFrom, if_pos rfl, List.append_assoc, List.cons_append,
            maskFrom_name_run hbody, hm' t ht]

theorem twin_of_inert {s : String} (h : Inert s.toList) : Twin token s s := by
  obtain ⟨m, hm⟩ : ∃ m, Masks token s.toList m := h.masks.1
  exact ⟨m, hm, hm⟩

theorem twin_mark {mark : String} (h : IsMark mark) : Twin token mark mark := by
  obtain rfl | ⟨n, rfl⟩ := h
  · exact ⟨['?'], fun _ _ => rfl, fun _ _ => rfl⟩
  · have hmasks : Masks token ("$" ++ toString n).toList ('$' :: (toString n).toList) := by
      intro t _
      rw [String.toList_append, List.append_assoc]
      exact (maskFrom_outside_cons (by decide) (by decide) _).trans
        (congrArg _ ((firm_natText n).maskFrom_append t))
    exact ⟨_, hmasks, hmasks⟩

theorem twin_quoteName (name name' : String) : Twin token (quoteName name) (quoteName name') :=
  ⟨token, fun _ ht => maskFrom_quoteName name ht, fun _ ht => maskFrom_quoteName name' ht⟩

/-- Texts that follow others: twins that do not go on a name before them. -/
structure TwinTail (token : List Char) (s s' : String) : Prop where
  twin : Twin token s s'
  left : StartsNoName s.toList
  right : StartsNoName s'.toList

variable {s s' r r' : String}

theorem Twin.append (hs : Twin token s s') (hr : TwinTail token r r') :
    Twin token (s ++ r) (s' ++ r') := by
  obtain ⟨m, hm, hm'⟩ := hs
  obtain ⟨⟨n, hn, hn'⟩, hleft, hright⟩ := hr
  refine ⟨m ++ n, ?_, ?_⟩
  · rw [String.toList_append]
    exact hm.append hn hleft
  · rw [String.toList_append]
    exact hm'.append hn' hright

theorem Twin.prepend (hr : Twin token r r') (hs : Firm s) : Twin token (s ++ r) (s ++ r') := by
  obtain ⟨m, hm, hm'⟩ := hr
  have hfirm : ∀ {r : String} (_ : Masks token r.toList m),
      Masks token (s ++ r).toList (s.toList ++ m) := by
    intro r hr t ht
    rw [String.toList_append, List.append_assoc, hs.maskFrom_append, hr t ht, List.append_assoc]
  exact ⟨_, hfirm hm, hfirm hm'⟩

theorem Twin.prependTail (hr : Twin token r r') (hs : Separator s) :
    TwinTail token (s ++ r) (s ++ r') := by
  refine ⟨hr.prepend hs.firm, ?_, ?_⟩
  · rw [String.toList_append]
    exact hs.startsNoName _
  · rw [String.toList_append]
    exact hs.startsNoName _

theorem twinTail_separator (hs : Separator s) : TwinTail token s s := by
  have hstart := hs.startsNoName []
  rw [List.append_nil] at hstart
  exact ⟨twin_of_inert hs.inert, hstart, hstart⟩

theorem twinTail_empty : TwinTail token "" "" := ⟨twin_of_inert .nil, nofun, nofun⟩

theorem TwinTail.append (hs : TwinTail token s s') (hr : TwinTail token r r') :
    TwinTail token (s ++ r) (s' ++ r') := by
  refine ⟨hs.twin.append hr, ?_, ?_⟩
  · rw [String.toList_append]
    exact hs.left.append hr.left
  · rw [String.toList_append]
    exact hs.right.append hr.right

/-- Twins are the same text once their names are masked. -/
theorem Twin.maskNames_eq {token : String} (h : Twin token.toList s s') :
    maskNames token s = maskNames token s' := by
  obtain ⟨m, hm, hm'⟩ := h
  have hleft := hm [] nofun
  have hright := hm' [] nofun
  rw [List.append_nil] at hleft hright
  rw [maskNames, maskNames, hleft, hright]

end Sluice
