import Sluice.Proofs.Classify.Units
import Sluice.Proofs.Translation.Parameters

/-!
# A compiled plan is one statement

No name and no literal of a plan gets out of its quotes, and no text of a dialect makes a comment or
a dollar quote together with what stands next to it. The scanner therefore takes the text of a plan
for a single statement.
-/

namespace Sluice

open Text Scan

/-- A text starts with what ends a statement or hides what follows: a semicolon, a comment, or a
dollar quote. -/
inductive Opens : List Char → Prop where
  | semicolon {s} : Opens (';' :: s)
  | line {s} : Opens ('-' :: '-' :: s)
  | block {s} : Opens ('/' :: '*' :: s)
  | dollar {tag s} : (∀ c ∈ tag, isWordChar c = true) → Opens ('$' :: (tag ++ '$' :: s))

/-- The text is a single statement: nothing but the statement stands in it, and outside quoted runs
nothing in it opens anything. -/
structure OneStatement (sql : List Char) : Prop where
  trivia : triviaLength sql = 0
  ends : statementEnd sql = byteLength sql
  quiet : ∀ rest ∈ outside (octets sql), ¬ Opens rest
  single : scanUnits 0 sql = [⟨0, byteLength sql, sql⟩]

/-! ## Texts without openings -/

/-- The scanner passes over `s` to `t`, and nothing opens in `s`. -/
structure Passes (s t : List Char) : Prop where
  after : afterStatement (s ++ t) = afterStatement t
  quiet : ∀ rest ∈ outside (s ++ t), Opens rest → rest ∈ outside t

theorem outside_cons (c : Char) (s : List Char) :
    outside (c :: s) = (c :: s) :: outside (skipQuote c s) := by
  rw [outside]

theorem not_opens_of_isSafe {c : Char} (h : isSafe c = true) (s : List Char) : ¬ Opens (c :: s) := by
  intro hopens
  cases hopens with
  | semicolon => exact Bool.noConfusion h
  | line => exact Bool.noConfusion h
  | block => exact Bool.noConfusion h
  | dollar => exact Bool.noConfusion h

/-- Where nothing opens at the first character, all that opens stands behind it. -/
theorem quiet_cons {c : Char} {s t : List Char} (hnot : ¬ Opens (c :: s))
    (hlater : ∀ rest ∈ outside (skipQuote c s), Opens rest → rest ∈ outside t) :
    ∀ rest ∈ outside (c :: s), Opens rest → rest ∈ outside t := by
  intro rest hrest hopens
  rw [outside_cons] at hrest
  rcases List.mem_cons.mp hrest with rfl | hrest
  · exact absurd hopens hnot
  · exact hlater rest hrest hopens

theorem Inert.quiet {s : List Char} (h : Inert s) (t : List Char) :
    ∀ rest ∈ outside (s ++ t), Opens rest → rest ∈ outside t := by
  induction h with
  | nil => exact fun _ hrest _ => hrest
  | @safe c s hc _ ih =>
      refine quiet_cons (not_opens_of_isSafe hc _) ?_
      rw [skipQuote_of_isSafe hc]
      exact ih
  | @minus c s hc _ ih =>
      refine quiet_cons (fun hopens => ?_) ih
      cases hopens with
      | line => exact hc rfl
  | @slash c s hc _ ih =>
      refine quiet_cons (fun hopens => ?_) ih
      cases hopens with
      | block => exact hc rfl
  | @quoted mark body s hmark hbody _ ih =>
      have hnot : ∀ rest, ¬ Opens (mark :: rest) := by
        rcases hmark with rfl | rfl <;> exact fun _ hopens => nomatch hopens
      rw [List.cons_append, List.append_assoc, List.cons_append]
      refine quiet_cons (hnot _) ?_
      rw [skipQuote_mark hmark, skipQuoted_body hbody]
      exact ih

theorem Inert.passes {s : List Char} (h : Inert s) (t : List Char) : Passes s t :=
  ⟨h.afterStatement t, h.quiet t⟩

theorem Passes.nil (t : List Char) : Passes [] t := ⟨rfl, fun _ hrest _ => hrest⟩

theorem Passes.append {s t u : List Char} (hs : Passes s (t ++ u)) (ht : Passes t u) :
    Passes (s ++ t) u := by
  refine ⟨?_, fun rest hrest hopens => ?_⟩
  · rw [List.append_assoc, hs.after, ht.after]
  · rw [List.append_assoc] at hrest
    exact ht.quiet rest (hs.quiet rest hrest hopens) hopens

/-! ## Placeholders -/

theorem isApart_dollar : isApart '$' = false := by decide

/-- The number of a placeholder is no tag: no dollar sign follows it. -/
theorem takeWhile_digits {digits t : List Char} (hdigits : ∀ c ∈ digits, c.isDigit = true)
    (ht : Apart t) : (digits ++ t).takeWhile isWordChar = digits := by
  have hword : ∀ c ∈ digits, isWordChar c = true := fun c hc => by
    simp [isWordChar, Char.isAlphanum, hdigits c hc]
  rw [List.takeWhile_append_of_pos hword]
  cases t with
  | nil => simp
  | cons c t =>
      have hc : isWordChar c = false := by
        have happart := ht c rfl
        rw [isApart, Bool.and_eq_true, Bool.not_eq_true'] at happart
        exact happart.1
      rw [List.takeWhile_cons_of_neg (Bool.eq_false_iff.mp hc), List.append_nil]

theorem Apart.not_dollar {t : List Char} (h : Apart t) (s : List Char) : t ≠ '$' :: s := by
  rintro rfl
  exact Bool.noConfusion (isApart_dollar.symm.trans (h '$' rfl))

theorem skipRun_number {digits t : List Char} (hdigits : ∀ c ∈ digits, c.isDigit = true)
    (ht : Apart t) : skipRun '$' (digits ++ t) = digits ++ t := by
  change skipDollar (digits ++ t) = digits ++ t
  simp only [skipDollar, takeWhile_digits hdigits ht, List.drop_left]
  split
  · rename_i body
    exact absurd rfl (ht.not_dollar body)
  · rfl

theorem not_opens_number {digits t : List Char} (hdigits : ∀ c ∈ digits, c.isDigit = true)
    (ht : Apart t) : ¬ Opens ('$' :: (digits ++ t)) := by
  intro hopens
  generalize hs : '$' :: (digits ++ t) = s at hopens
  cases hopens with
  | semicolon => exact nomatch hs
  | line => exact nomatch hs
  | block => exact nomatch hs
  | @dollar tag s htag =>
      have heq : digits ++ t = tag ++ '$' :: s := (List.cons.inj hs).2
      have htake : (tag ++ '$' :: s).takeWhile isWordChar = tag := by
        rw [List.takeWhile_append_of_pos htag, List.takeWhile_cons_of_neg (by decide),
          List.append_nil]
      have hsame : digits = tag := by
        rw [← takeWhile_digits hdigits ht, heq, htake]
      rw [hsame] at heq
      exact ht.not_dollar s (List.append_cancel_left heq)

theorem mark_passes {mark : String} (hmark : IsMark mark) {t : List Char} (ht : Apart t) :
    Passes mark.toList t := by
  rcases hmark with rfl | ⟨n, rfl⟩
  · exact ⟨afterStatement_cons (by decide) t,
      quiet_cons (fun hopens => nomatch hopens) fun _ hrest _ => hrest⟩
  · have hdigits : ∀ c ∈ (toString n).toList, c.isDigit = true := fun _ => isDigit_of_mem_natText
    have hnumber := (inert_natText n).passes t
    rw [String.toList_append]
    refine ⟨?_, quiet_cons (not_opens_number hdigits ht) hnumber.quiet⟩
    change afterStatement ('$' :: ((toString n).toList ++ t)) = _
    rw [afterStatement_cons (by decide), skipRun_number hdigits ht, hnumber.after]

/-! ## Bytes -/

/-- An ASCII character that does not start a text does not start its bytes either. -/
theorem octets_cons_of_ne {a c : Char} (ha : a.toNat < 128) (hc : c ≠ a) (s : List Char) :
    ∃ b t, octets (c :: s) = b :: t ∧ b ≠ a := by
  cases hbytes : octets (c :: s) with
  | nil => exact absurd (octets_eq_nil.mp hbytes) (List.cons_ne_nil c s)
  | cons b t =>
      refine ⟨b, t, rfl, ?_⟩
      rintro rfl
      obtain ⟨s', hs, -⟩ := eq_cons_of_octets ha hbytes
      exact hc (List.cons.inj hs).1

theorem Inert.octets {s : List Char} (h : Inert s) : Inert (octets s) := by
  induction h with
  | nil => exact .nil
  | safe hc _ ih =>
      rw [octets_cons_ascii (toNat_lt_of_isSafe hc)]
      exact .safe hc ih
  | @minus c s hc _ ih =>
      obtain ⟨b, t, hbytes, hb⟩ := octets_cons_of_ne (by decide) hc s
      rw [octets_cons_ascii (by decide), hbytes]
      rw [hbytes] at ih
      exact .minus hb ih
  | @slash c s hc _ ih =>
      obtain ⟨b, t, hbytes, hb⟩ := octets_cons_of_ne (by decide) hc s
      rw [octets_cons_ascii (by decide), hbytes]
      rw [hbytes] at ih
      exact .slash hb ih
  | @quoted mark body s hmark hbody _ ih =>
      have hascii : mark.toNat < 128 := by
        rcases hmark with rfl | rfl <;> decide
      rw [octets_cons_ascii hascii, octets_append, octets_cons_ascii hascii]
      exact .quoted hmark (fun hmem => hbody (mem_of_mem_octets hascii hmem)) ih

theorem Apart.octets {s : List Char} (h : Apart s) : Apart (octets s) := by
  cases s with
  | nil => exact h
  | cons c s =>
      intro b hb
      by_cases hc : c.toNat < 128
      · rw [octets_cons_ascii hc] at hb
        exact h b hb
      · have hforeign := octetsOf_foreign (Nat.not_lt.mp hc)
        cases hbytes : octetsOf c with
        | nil => exact absurd hbytes (octetsOf_ne_nil c)
        | cons a t =>
            rw [octets_cons, hbytes] at hb
            rw [hbytes] at hforeign
            obtain rfl := Option.some.inj hb
            have hle := hforeign a List.mem_cons_self
            have hne : a ≠ '$' := hforeign.ne (by decide)
            simp [isApart, isWordChar_of_le hle, hne]

theorem octets_mark {mark : String} (h : IsMark mark) : octets mark.toList = mark.toList := by
  refine octets_ascii fun c hc => ?_
  rcases h with rfl | ⟨n, rfl⟩
  · rw [List.mem_singleton.mp hc]
    decide
  · rw [String.toList_append] at hc
    rcases List.mem_cons.mp hc with rfl | hc
    · decide
    · exact toNat_lt_of_isSafe (isSafe_of_mem_natText hc)

/-! ## Statements -/

/-- The scanner passes over the text of a tidy emission to its end. -/
theorem Emission.Tidy.passes {e : Emission} (h : e.Tidy) {placeholder : Nat → String}
    (hmark : ∀ i, IsMark (placeholder i)) (n : Nat) :
    Passes (octets (e.render (fun i _ => placeholder i) n).toList) [] := by
  induction h generalizing n with
  | done => exact Passes.nil []
  | fail => exact Passes.nil []
  | text hs _ ih =>
      rw [render, String.toList_append, octets_append]
      exact (hs.octets.passes _).append (ih n)
  | value happart _ ih =>
      have hrest := (happart.apart_render (fun i _ => placeholder i) (n + 1)).octets
      rw [render, String.toList_append, octets_append, octets_mark (hmark _)]
      rw [← List.append_nil (octets _)] at hrest
      exact (mark_passes (hmark _) hrest).append (ih (n + 1))

theorem outside_nil : outside [] = [] := by rw [outside]

/-- A text that the scanner passes over, and that starts with no trivia, is one statement. -/
theorem oneStatement_of_passes {sql : List Char} (h : Passes (octets sql) []) (hsettled : Settled sql)
    (hne : sql ≠ []) : OneStatement sql := by
  have hafter : afterStatement (octets sql) = [] := by
    have hpasses := h.after
    rw [List.append_nil] at hpasses
    rw [hpasses, afterStatement]
  have hrest : afterStatement sql = [] := octets_eq_nil.mp (afterStatement_octets sql ▸ hafter)
  have htrivia : triviaLength sql = 0 := by
    rw [triviaLength, hsettled.octets.skipTrivia_eq, Nat.sub_self]
  have hends : statementEnd sql = byteLength sql := by
    rw [statementEnd, hafter, length_octets, List.length_nil, Nat.sub_zero]
  refine ⟨htrivia, hends, fun rest hmem hopens => ?_, ?_⟩
  · rw [← List.append_nil (octets sql)] at hmem
    have hnothing := h.quiet rest hmem hopens
    rw [outside_nil] at hnothing
    exact List.not_mem_nil hnothing
  · have hskip := hsettled.skipTrivia_eq
    have hall : statement sql = sql := by
      have hcut := statement_append sql
      rw [hrest, List.append_nil] at hcut
      exact hcut
    rw [scanUnits_of_ne_nil (by rw [hskip]; exact hne), hskip, hrest, hall, htrivia, hends,
      scanUnits_of_eq_nil (by rw [skipTrivia]), Nat.zero_add, Nat.zero_add]

theorem settled_of_isWordChar {c : Char} (h : isWordChar c = true) (s : List Char) :
    Settled (c :: s) := by
  have hne : ∀ d : Char, isWordChar d = false → c ≠ d := by
    rintro d hd rfl
    exact Bool.noConfusion (h.symm.trans hd)
  apply settled_cons
  · intro hpadding
    simp only [isPadding, isAsciiBlank, Bool.or_eq_true, decide_eq_true_eq] at hpadding
    rcases hpadding with ((((hc | hc) | hc) | hc) | hc) | hc <;> exact hne _ (by decide) hc
  · exact fun _ hc _ => hne '-' (by decide) hc
  · exact fun _ hc _ => hne '/' (by decide) hc

/-- An inert text that starts with a letter is a single statement. -/
theorem oneStatement_of_inert {sql : List Char} (h : Inert sql) {c : Char}
    (hhead : sql.head? = some c) (hc : isWordChar c = true) : OneStatement sql := by
  obtain ⟨s, rfl⟩ := List.head?_eq_some_iff.mp hhead
  exact oneStatement_of_passes (h.octets.passes []) (settled_of_isWordChar hc s)
    (List.cons_ne_nil c s)

theorem settled_select (s : List Char) : Settled ("SELECT ".toList ++ s) :=
  settled_of_isWordChar (by decide) _

theorem Driver.Faithful.oneStatement {d : Driver} (hd : d.Faithful) {options : TranslateOptions}
    {p : Plan} {s : Statement} (hs : p.compile d options = .ok s) : OneStatement s.sql.toList := by
  obtain ⟨placeholder, hslot, hmark⟩ := exists_placeholder hd
  obtain ⟨e, hspells⟩ := writePlan_spells hd options p
  have hafter := Spells.after hspells hslot []
  have hresult := (Prod.mk.inj (hafter.symm.trans (statement_eq_ok hs))).1
  obtain ⟨-, htext⟩ := Emission.result_eq_ok hresult
  have hpasses := hspells.tidy.passes hmark 0
  rw [← htext]
  refine oneStatement_of_passes hpasses ?_ ?_
  · rw [Emission.render, String.toList_append]
    exact settled_select _
  · rw [Emission.render, String.toList_append]
    exact List.append_ne_nil_of_left_ne_nil (by decide) _

/-- Whatever the names and literals of a plan, every driver of a configured registry compiles it to
one statement. -/
theorem configured_plan_oneStatement {c : Config} {r : Registry} {d : Driver}
    (hr : Registry.ofConfig c = .ok r) (hd : d ∈ r.drivers) {options : TranslateOptions} {p : Plan}
    {s : Statement} (hs : p.compile d options = .ok s) : OneStatement s.sql.toList :=
  (Registry.ofConfig_faithful hr d hd).oneStatement hs

theorem hostile_plan_oneStatement :
    let d : Driver := ⟨Postgres.descriptor, [Ansi.descriptor]⟩
    let p : Plan := {
      source := ⟨some "a;b", "t\"; DROP TABLE t; --"⟩
      projections := [⟨.column none "x--y", some "/*"⟩]
      filter := some (.binary .eq (.column none "$$") (.literal (.text "'; --")))
      limit := some 5 }
    let s : Statement := {
      sql := "SELECT \"x--y\" AS \"/*\" FROM \"a;b\".\"t\"\"; DROP TABLE t; --\" " ++
        "WHERE (\"$$\" = $1) LIMIT 5"
      parameters := [.text "'; --"] }
    Registry.ofConfig {} = .ok Registry.builtin ∧ d ∈ Registry.builtin.drivers ∧
      p.compile d {} = .ok s ∧ OneStatement s.sql.toList := by
  intro d p s
  have hr : Registry.ofConfig {} = .ok Registry.builtin := rfl
  have hd : d ∈ Registry.builtin.drivers :=
    List.mem_cons_of_mem _ (List.mem_cons_of_mem _ List.mem_cons_self)
  have hs : p.compile d {} = .ok s := by decide +kernel
  exact ⟨hr, hd, hs, configured_plan_oneStatement hr hd hs⟩

end Sluice
