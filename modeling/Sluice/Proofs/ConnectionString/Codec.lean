import Mathlib.Data.List.Induction
import Mathlib.Data.List.Nodup
import Sluice.ConnectionString
import Sluice.Proofs.Outcome

/-!
# Reading and writing connection strings

Nothing is escaped, so a descriptor can be written only if its parts are free of the signs that
separate them. What is read meets this condition: it is written in one way and read back from it.
-/

namespace Sluice

/-! ## Cutting at a separator -/

namespace Text

variable {sep : Char} {s piece : List Char} {pieces : List (List Char)}

theorem exists_splitChar_eq_cons (sep : Char) (s : List Char) :
    ∃ piece pieces, splitChar sep s = piece :: pieces := by
  cases s with
  | nil => exact ⟨[], [], rfl⟩
  | cons c rest =>
      rw [splitChar]
      split
      · split
        · exact ⟨_, _, rfl⟩
        · exact ⟨_, _, rfl⟩
      · exact ⟨_, _, rfl⟩

theorem splitChar_cons_sep (s : List Char) : splitChar sep (sep :: s) = [] :: splitChar sep s := by
  obtain ⟨piece, pieces, hs⟩ := exists_splitChar_eq_cons sep s
  simp only [splitChar, hs, ↓reduceIte]

theorem splitChar_cons_of_ne {c : Char} (hc : c ≠ sep) (hs : splitChar sep s = piece :: pieces) :
    splitChar sep (c :: s) = (c :: piece) :: pieces := by
  simp only [splitChar, hs, if_neg hc]

theorem splitChar_append_sep (h : sep ∉ piece) (s : List Char) :
    splitChar sep (piece ++ sep :: s) = piece :: splitChar sep s := by
  induction piece with
  | nil => exact splitChar_cons_sep s
  | cons c piece ih =>
      obtain ⟨hc, hpiece⟩ := not_or.mp (mt List.mem_cons.mpr h)
      exact splitChar_cons_of_ne (Ne.symm hc) (ih hpiece)

theorem splitChar_of_not_mem (h : sep ∉ piece) : splitChar sep piece = [piece] := by
  induction piece with
  | nil => rfl
  | cons c piece ih =>
      obtain ⟨hc, hpiece⟩ := not_or.mp (mt List.mem_cons.mpr h)
      exact splitChar_cons_of_ne (Ne.symm hc) (ih hpiece)

/-- The pieces are those texts without the separator that give the whole when it is put before
each of them but the first. -/
theorem splitChar_eq_cons_iff :
    splitChar sep s = piece :: pieces ↔
      s = piece ++ pieces.flatMap (fun p => sep :: p) ∧ ∀ p ∈ piece :: pieces, sep ∉ p := by
  constructor
  · intro h
    induction s generalizing piece pieces with
    | nil =>
        obtain ⟨rfl, rfl⟩ := List.cons.inj h
        simp
    | cons c rest ih =>
        obtain ⟨first, later, hrest⟩ := exists_splitChar_eq_cons sep rest
        obtain ⟨htext, hwhole⟩ := ih hrest
        by_cases hc : c = sep
        · subst hc
          rw [splitChar_cons_sep, hrest] at h
          obtain ⟨rfl, rfl⟩ := List.cons.inj h
          refine ⟨by simp [htext], List.forall_mem_cons.mpr ⟨List.not_mem_nil, hwhole⟩⟩
        · rw [splitChar_cons_of_ne hc hrest] at h
          obtain ⟨rfl, rfl⟩ := List.cons.inj h
          obtain ⟨hfirst, hlater⟩ := List.forall_mem_cons.mp hwhole
          refine ⟨by rw [htext, List.cons_append], List.forall_mem_cons.mpr ⟨?_, hlater⟩⟩
          exact List.not_mem_cons_of_ne_of_not_mem (Ne.symm hc) hfirst
  · rintro ⟨rfl, hwhole⟩
    obtain ⟨hpiece, hpieces⟩ := List.forall_mem_cons.mp hwhole
    induction pieces generalizing piece with
    | nil =>
        rw [List.flatMap_nil, List.append_nil]
        exact splitChar_of_not_mem hpiece
    | cons next later ih =>
        obtain ⟨hnext, hlater⟩ := List.forall_mem_cons.mp hpieces
        rw [List.flatMap_cons, List.cons_append, splitChar_append_sep hpiece,
          ih hpieces hnext hlater]

end Text

open Text

namespace ConnectionDescriptor

/-! ## The grammar -/

/-- A text is a target and segments, with a semicolon before each segment. -/
structure Cut (s : String) (target : List Char) (segments : List (List Char)) : Prop where
  text : s.toList = target ++ segments.flatMap fun segment => ';' :: segment
  whole : ∀ piece ∈ target :: segments, ';' ∉ piece

/-- A target is not blank. -/
def IsTarget (target : List Char) : Prop := ∃ c ∈ target, isBlank c = false

/-- A segment sets an option. Its key ends at the first equals sign and is not empty. -/
structure Sets (segment : List Char) (key value : String) : Prop where
  text : segment = key.toList ++ '=' :: value.toList
  first : '=' ∉ key.toList
  nonempty : key ≠ ""

/-- The options that segments set one after the other. Empty segments set none. -/
inductive Assigns : List (List Char) → List (String × String) → Prop where
  | done : Assigns [] []
  | skip {segments pairs} : Assigns segments pairs → Assigns ([] :: segments) pairs
  | set {segment key value segments pairs} : Sets segment key value → Assigns segments pairs →
      Assigns (segment :: segments) ((key, value) :: pairs)

/-- Each key stands once, in the order of the first appearances, with the value of its last
appearance. -/
structure Merges (pairs options : List (String × String)) : Prop where
  keys : options.map Prod.fst = (pairs.map Prod.fst).eraseDups
  values : ∀ key, options.lookup key = pairs.reverse.lookup key

/-- A text that can be read: a target, and segments each of which is empty or sets an option. -/
def Acceptable (s : String) : Prop :=
  ∃ target segments, Cut s target segments ∧ IsTarget target ∧
    ∀ segment ∈ segments, segment ≠ [] → ∃ key value, Sets segment key value

/-- A text spells a descriptor. -/
inductive Reads (s : String) (d : ConnectionDescriptor) : Prop where
  | intro {segments pairs} : Cut s d.target.toList segments → IsTarget d.target.toList →
      Assigns segments pairs → Merges pairs d.options → Reads s d

/-- No key occurs twice, as it is with every descriptor that is read or built by setting options. -/
def DistinctKeys (d : ConnectionDescriptor) : Prop := (d.options.map Prod.fst).Nodup

/-- A key and a value that stay apart from each other and from what follows them. -/
structure IsOption (key value : String) : Prop where
  nonempty : key ≠ ""
  equals : '=' ∉ key.toList
  semicolonKey : ';' ∉ key.toList
  semicolonValue : ';' ∉ value.toList

/-- All parts are free of the signs that would end them early. -/
structure Writable (d : ConnectionDescriptor) : Prop where
  target : IsTarget d.target.toList
  whole : ';' ∉ d.target.toList
  options : ∀ key value, (key, value) ∈ d.options → IsOption key value

/-! ## Setting options -/

section

variable {key value : String} {options : List (String × String)}

theorem setOption_of_not_mem (h : key ∉ options.map Prod.fst) :
    setOption key value options = options ++ [(key, value)] := by
  induction options with
  | nil => rfl
  | cons entry rest ih =>
      obtain ⟨k, v⟩ := entry
      obtain ⟨hk, hrest⟩ := not_or.mp (mt List.mem_cons.mpr h)
      rw [setOption, if_neg (Ne.symm hk), ih hrest, List.cons_append]

theorem keys_setOption_of_mem (h : key ∈ options.map Prod.fst) :
    (setOption key value options).map Prod.fst = options.map Prod.fst := by
  induction options with
  | nil => exact (List.not_mem_nil h).elim
  | cons entry rest ih =>
      obtain ⟨k, v⟩ := entry
      by_cases hk : k = key
      · rw [setOption, if_pos hk]
        rfl
      · have hrest : key ∈ rest.map Prod.fst := (List.mem_cons.mp h).resolve_left (Ne.symm hk)
        rw [setOption, if_neg hk, List.map_cons, List.map_cons, ih hrest]

theorem nodup_setOption (h : (options.map Prod.fst).Nodup) :
    ((setOption key value options).map Prod.fst).Nodup := by
  by_cases hkey : key ∈ options.map Prod.fst
  · rw [keys_setOption_of_mem hkey]
    exact h
  · rw [setOption_of_not_mem hkey, List.map_append]
    exact List.nodup_append_comm.mp (List.nodup_cons.mpr ⟨hkey, h⟩)

theorem lookup_cons (other : String) :
    ((key, value) :: options).lookup other =
      if other = key then some value else options.lookup other := by
  rw [List.lookup_cons]
  by_cases hother : other = key
  · rw [if_pos hother, beq_iff_eq.mpr hother]
  · rw [if_neg hother, beq_eq_false_iff_ne.mpr hother]

theorem lookup_setOption (other : String) :
    (setOption key value options).lookup other =
      if other = key then some value else options.lookup other := by
  induction options with
  | nil => exact lookup_cons other
  | cons entry rest ih =>
      obtain ⟨k, v⟩ := entry
      rw [setOption]
      by_cases hk : k = key
      · rw [if_pos hk, lookup_cons, lookup_cons, hk]
        split <;> rfl
      · rw [if_neg hk, lookup_cons, lookup_cons, ih]
        by_cases hother : other = k
        · have hkey : ¬ other = key := fun h => hk (hother.symm.trans h)
          rw [if_pos hother, if_neg hkey, if_pos hother]
        · rw [if_neg hother, if_neg hother]

theorem lookup_of_mem (hnodup : (options.map Prod.fst).Nodup) (h : (key, value) ∈ options) :
    options.lookup key = some value := by
  obtain ⟨before, after, rfl⟩ := List.append_of_mem h
  refine List.lookup_eq_some_iff.mpr ⟨before, after, rfl, fun entry hentry => bne_iff_ne.mpr ?_⟩
  rw [List.map_append, List.map_cons] at hnodup
  intro hkey
  exact (List.nodup_append.mp hnodup).2.2 entry.1 (List.mem_map_of_mem hentry) key
    List.mem_cons_self hkey.symm

/-- Options with distinct keys are what their keys and the look-ups of these make. -/
theorem eq_map_lookup (hnodup : (options.map Prod.fst).Nodup) :
    options = (options.map Prod.fst).map fun key => (key, (options.lookup key).getD "") := by
  rw [List.map_map]
  refine (List.map_id options).symm.trans (List.map_congr_left fun entry hentry => ?_)
  rw [Function.comp_apply, lookup_of_mem hnodup hentry]
  rfl

end

/-- Set options one after the other. -/
def setAll (options pairs : List (String × String)) : List (String × String) :=
  pairs.foldl (fun options (key, value) => setOption key value options) options

theorem setAll_concat (options pairs : List (String × String)) (pair : String × String) :
    setAll options (pairs ++ [pair]) = setOption pair.1 pair.2 (setAll options pairs) := by
  rw [setAll, List.foldl_append]
  rfl

theorem nodup_setAll {options : List (String × String)} (h : (options.map Prod.fst).Nodup)
    (pairs : List (String × String)) : ((setAll options pairs).map Prod.fst).Nodup := by
  induction pairs using List.reverseRecOn with
  | nil => exact h
  | append_singleton pairs pair ih =>
      rw [setAll_concat]
      exact nodup_setOption ih

/-- Options with distinct keys come out as they were set. -/
theorem setAll_of_nodup {options pairs : List (String × String)}
    (h : ((options ++ pairs).map Prod.fst).Nodup) : setAll options pairs = options ++ pairs := by
  induction pairs using List.reverseRecOn with
  | nil => exact (List.append_nil options).symm
  | append_singleton pairs pair ih =>
      obtain ⟨key, value⟩ := pair
      rw [← List.append_assoc, List.map_append] at h
      have hkey : key ∉ (options ++ pairs).map Prod.fst := fun hmem =>
        (List.nodup_append.mp h).2.2 key hmem key List.mem_cons_self rfl
      rw [setAll_concat, ih (List.nodup_append.mp h).1, setOption_of_not_mem hkey,
        List.append_assoc]

theorem merges_setAll (pairs : List (String × String)) : Merges pairs (setAll [] pairs) := by
  induction pairs using List.reverseRecOn with
  | nil => exact ⟨rfl, fun _ => rfl⟩
  | append_singleton pairs pair ih =>
      obtain ⟨key, value⟩ := pair
      rw [setAll_concat]
      refine ⟨?_, fun other => ?_⟩
      · have hmem : key ∈ (setAll [] pairs).map Prod.fst ↔ key ∈ pairs.map Prod.fst := by
          rw [ih.keys, List.mem_eraseDups]
        rw [List.map_append, List.eraseDups_append, ← ih.keys]
        by_cases hkey : key ∈ (setAll [] pairs).map Prod.fst
        · rw [keys_setOption_of_mem hkey]
          simp [List.removeAll, hmem.mp hkey]
        · rw [setOption_of_not_mem hkey]
          simp [List.removeAll, mt hmem.mpr hkey, List.eraseDups_cons]
      · rw [lookup_setOption, ih.values, List.reverse_concat, lookup_cons]

/-- Only one list merges the pairs. -/
theorem Merges.eq_setAll {pairs options : List (String × String)} (h : Merges pairs options) :
    options = setAll [] pairs := by
  have hall := merges_setAll pairs
  have hnodup : ((setAll [] pairs).map Prod.fst).Nodup := nodup_setAll (by simp) pairs
  have hkeys : options.map Prod.fst = (setAll [] pairs).map Prod.fst := by
    rw [hall.keys, h.keys]
  have hvalues : ∀ key, options.lookup key = (setAll [] pairs).lookup key := fun key => by
    rw [hall.values, h.values]
  refine (eq_map_lookup (hkeys ▸ hnodup)).trans (Eq.trans ?_ (eq_map_lookup hnodup).symm)
  rw [hkeys]
  simp only [hvalues]

/-! ## Reading -/

theorem splitAtEquals_eq_some {cs key value : List Char} :
    splitAtEquals cs = some (key, value) ↔ cs = key ++ '=' :: value ∧ '=' ∉ key := by
  induction cs generalizing key with
  | nil => simp [splitAtEquals]
  | cons c cs ih =>
      rw [splitAtEquals]
      by_cases hc : c = '='
      · rw [if_pos hc, hc]
        cases key with
        | nil => simp [eq_comm]
        | cons k key => grind
      · rw [if_neg hc, Option.map_eq_some_iff]
        cases key with
        | nil => simp [hc]
        | cons k key =>
            constructor
            · rintro ⟨⟨front, rest⟩, hsplit, hpair⟩
              obtain ⟨hfront, rfl⟩ := Prod.mk.inj hpair
              obtain ⟨rfl, rfl⟩ := List.cons.inj hfront
              obtain ⟨rfl, hfirst⟩ := ih.mp hsplit
              exact ⟨rfl, List.not_mem_cons_of_ne_of_not_mem (Ne.symm hc) hfirst⟩
            · rintro ⟨htext, hfirst⟩
              obtain ⟨rfl, hcs⟩ := List.cons.inj htext
              exact ⟨(key, value), ih.mpr ⟨hcs, mt (List.mem_cons_of_mem c) hfirst⟩, rfl⟩

theorem decodeOption_eq_ok {segment : List Char} {key value : String} :
    decodeOption segment = .ok (key, value) ↔ Sets segment key value := by
  constructor
  · intro h
    rw [decodeOption.eq_def] at h
    split at h
    · exact nomatch h
    · exact nomatch h
    · rename_i k v hne hsplit
      obtain ⟨rfl, rfl⟩ := Prod.mk.inj (Except.ok.inj h)
      obtain ⟨htext, hfirst⟩ := splitAtEquals_eq_some.mp hsplit
      refine ⟨by simpa using htext, by simpa using hfirst, fun hempty => ?_⟩
      exact hne (String.ofList_eq_empty_iff.mp hempty)
  · intro h
    have hsplit := splitAtEquals_eq_some.mpr ⟨h.text, h.first⟩
    rw [decodeOption, hsplit]
    cases hkey : key.toList with
    | nil => exact (h.nonempty (String.toList_eq_nil_iff.mp hkey)).elim
    | cons c cs => simp only [← hkey, String.ofList_toList]

/-- Segments are read if each of them is empty or sets an option. -/
theorem decodeOptions_eq_ok {options result : List (String × String)}
    {segments : List (List Char)} :
    decodeOptions options segments = .ok result ↔
      ∃ pairs, Assigns segments pairs ∧ result = setAll options pairs := by
  induction segments generalizing options with
  | nil =>
      constructor
      · intro h
        exact ⟨[], .done, (Except.ok.inj h).symm⟩
      · rintro ⟨pairs, ⟨⟩, rfl⟩
        rfl
  | cons segment segments ih =>
      cases segment with
      | nil =>
          rw [decodeOptions, ih]
          constructor
          · rintro ⟨pairs, hassigns, rfl⟩
            exact ⟨pairs, hassigns.skip, rfl⟩
          · rintro ⟨pairs, hassigns, rfl⟩
            cases hassigns with
            | skip hrest => exact ⟨pairs, hrest, rfl⟩
            | set hset => exact absurd hset.text (by simp)
      | cons c cs =>
          constructor
          · intro h
            simp only [decodeOptions] at h
            split at h
            · exact nomatch h
            · rename_i key value hoption
              obtain ⟨pairs, hassigns, rfl⟩ := ih.mp h
              exact ⟨(key, value) :: pairs, .set (decodeOption_eq_ok.mp hoption) hassigns, rfl⟩
          · rintro ⟨pairs, hassigns, rfl⟩
            cases hassigns with
            | set hset hrest =>
                simp only [decodeOptions, decodeOption_eq_ok.mpr hset]
                exact ih.mpr ⟨_, hrest, rfl⟩

theorem exists_assigns_iff {segments : List (List Char)} :
    (∃ pairs, Assigns segments pairs) ↔
      ∀ segment ∈ segments, segment ≠ [] → ∃ key value, Sets segment key value := by
  constructor
  · rintro ⟨pairs, h⟩
    induction h with
    | done => exact nofun
    | skip _ ih => exact List.forall_mem_cons.mpr ⟨fun hne => absurd rfl hne, ih⟩
    | set hset _ ih => exact List.forall_mem_cons.mpr ⟨fun _ => ⟨_, _, hset⟩, ih⟩
  · intro h
    induction segments with
    | nil => exact ⟨[], .done⟩
    | cons segment segments ih =>
        obtain ⟨hsegment, hsegments⟩ := List.forall_mem_cons.mp h
        obtain ⟨pairs, hpairs⟩ := ih hsegments
        cases segment with
        | nil => exact ⟨pairs, hpairs.skip⟩
        | cons c cs =>
            obtain ⟨key, value, hset⟩ := hsegment (List.cons_ne_nil c cs)
            exact ⟨(key, value) :: pairs, .set hset hpairs⟩

theorem cut_iff {s : String} {target : List Char} {segments : List (List Char)} :
    Cut s target segments ↔ splitChar ';' s.toList = target :: segments := by
  rw [splitChar_eq_cons_iff]
  exact ⟨fun h => ⟨h.text, h.whole⟩, fun h => ⟨h.1, h.2⟩⟩

theorem isTarget_iff {target : List Char} : IsTarget target ↔ target.all isBlank = false := by
  rw [List.all_eq_false]
  simp only [IsTarget, Bool.not_eq_true]

/-- What is read is what the text spells, and every text that spells a descriptor is read. -/
theorem decode_eq_ok_iff {s : String} {d : ConnectionDescriptor} :
    decode s = .ok d ↔ Reads s d := by
  obtain ⟨target, segments, hs⟩ := exists_splitChar_eq_cons ';' s.toList
  simp only [decode, hs]
  constructor
  · intro h
    split at h
    · exact nomatch h
    · rename_i htarget
      obtain ⟨options, hoptions, rfl⟩ := exists_of_map_eq_ok h
      obtain ⟨pairs, hassigns, rfl⟩ := decodeOptions_eq_ok.mp hoptions
      refine .intro (cut_iff.mpr ?_) ?_ hassigns (merges_setAll pairs)
      · rw [hs, String.toList_ofList]
      · rw [String.toList_ofList]
        exact isTarget_iff.mpr (Bool.eq_false_iff.mpr htarget)
  · rintro ⟨hcut, htarget, hassigns, hmerges⟩
    obtain ⟨rfl, rfl⟩ := List.cons.inj (hs.symm.trans (cut_iff.mp hcut))
    rw [if_neg (Bool.eq_false_iff.mp (isTarget_iff.mp htarget)),
      decodeOptions_eq_ok.mpr ⟨_, hassigns, rfl⟩, ← hmerges.eq_setAll]
    simp only [Except.map, String.ofList_toList]

theorem accepts_iff {s : String} : (∃ d, decode s = .ok d) ↔ Acceptable s := by
  constructor
  · rintro ⟨d, h⟩
    obtain ⟨hcut, htarget, hassigns, -⟩ := decode_eq_ok_iff.mp h
    exact ⟨_, _, hcut, htarget, exists_assigns_iff.mp ⟨_, hassigns⟩⟩
  · rintro ⟨target, segments, hcut, htarget, hsegments⟩
    obtain ⟨pairs, hassigns⟩ := exists_assigns_iff.mpr hsegments
    have hreads : Reads s ⟨String.ofList target, setAll [] pairs⟩ := by
      refine .intro ?_ ?_ hassigns (merges_setAll pairs)
      · rw [String.toList_ofList]
        exact hcut
      · rw [String.toList_ofList]
        exact htarget
    exact ⟨_, decode_eq_ok_iff.mpr hreads⟩

/-! ## Writing -/

/-- How an option is written. -/
def spelling (option : String × String) : List Char := option.1.toList ++ '=' :: option.2.toList

theorem toList_encode (d : ConnectionDescriptor) :
    d.encode.toList = d.target.toList ++ (d.options.map spelling).flatMap fun p => ';' :: p := by
  have hall : ∀ (options : List (String × String)) (s : String),
      (options.foldl (fun s (key, value) => s ++ ";" ++ key ++ "=" ++ value) s).toList =
        s.toList ++ (options.map spelling).flatMap fun p => ';' :: p := by
    intro options
    induction options with
    | nil => simp
    | cons option options ih =>
        intro s
        rw [List.foldl_cons, ih]
        simp [spelling]
  exact hall d.options d.target

theorem IsOption.sets {key value : String} (h : IsOption key value) :
    Sets (spelling (key, value)) key value :=
  ⟨rfl, h.equals, h.nonempty⟩

theorem IsOption.semicolon {key value : String} (h : IsOption key value) :
    ';' ∉ spelling (key, value) := by
  simp [spelling, h.semicolonKey, h.semicolonValue]

theorem assigns_spelling {options : List (String × String)}
    (h : ∀ key value, (key, value) ∈ options → IsOption key value) :
    Assigns (options.map spelling) options := by
  induction options with
  | nil => exact .done
  | cons option options ih =>
      obtain ⟨key, value⟩ := option
      exact .set (h key value List.mem_cons_self).sets
        (ih fun k v hmem => h k v (List.mem_cons_of_mem _ hmem))

/-- A writable descriptor with distinct keys is what its text spells. -/
theorem Writable.reads_encode {d : ConnectionDescriptor} (h : d.Writable) (hkeys : d.DistinctKeys) :
    Reads d.encode d := by
  refine .intro ⟨toList_encode d, ?_⟩ h.target (assigns_spelling h.options) ?_
  · refine List.forall_mem_cons.mpr ⟨h.whole, fun piece hpiece => ?_⟩
    obtain ⟨⟨key, value⟩, hoption, rfl⟩ := List.mem_map.mp hpiece
    exact (h.options key value hoption).semicolon
  · have hsame : setAll [] d.options = d.options := setAll_of_nodup hkeys
    have hmerges := merges_setAll d.options
    rwa [hsame] at hmerges

theorem Assigns.isOption {segments : List (List Char)} {pairs : List (String × String)}
    (h : Assigns segments pairs) (hwhole : ∀ segment ∈ segments, ';' ∉ segment) {key value : String}
    (hmem : (key, value) ∈ pairs) : IsOption key value := by
  induction h with
  | done => exact (List.not_mem_nil hmem).elim
  | skip _ ih => exact ih (List.forall_mem_cons.mp hwhole).2 hmem
  | set hset _ ih =>
      obtain ⟨hsegment, hsegments⟩ := List.forall_mem_cons.mp hwhole
      rcases List.mem_cons.mp hmem with heq | hmem
      · obtain ⟨rfl, rfl⟩ := Prod.mk.inj heq
        rw [hset.text] at hsegment
        refine ⟨hset.nonempty, hset.first, fun hc => hsegment ?_, fun hc => hsegment ?_⟩
        · exact List.mem_append_left _ hc
        · exact List.mem_append_right _ (List.mem_cons_of_mem _ hc)
      · exact ih hsegments hmem

theorem Reads.distinctKeys {s : String} {d : ConnectionDescriptor} (h : Reads s d) :
    d.DistinctKeys := by
  obtain ⟨-, -, -, hmerges⟩ := h
  rw [DistinctKeys, hmerges.eq_setAll]
  exact nodup_setAll (by simp) _

/-- What a text spells can be written. -/
theorem Reads.writable {s : String} {d : ConnectionDescriptor} (h : Reads s d) : d.Writable := by
  have hdistinct := h.distinctKeys
  obtain ⟨hcut, htarget, hassigns, hmerges⟩ := h
  obtain ⟨hwhole, hsegments⟩ := List.forall_mem_cons.mp hcut.whole
  refine ⟨htarget, hwhole, fun key value hmem => hassigns.isOption hsegments ?_⟩
  have hlookup := (hmerges.values key).symm.trans (lookup_of_mem hdistinct hmem)
  obtain ⟨before, after, hpairs, -⟩ := List.lookup_eq_some_iff.mp hlookup
  refine List.mem_reverse.mp ?_
  rw [hpairs]
  exact List.mem_append_right before List.mem_cons_self

/-- A descriptor is read back from its text exactly if it can be written and names each key once. -/
theorem decode_encode_iff {d : ConnectionDescriptor} :
    decode d.encode = .ok d ↔ d.DistinctKeys ∧ d.Writable := by
  rw [decode_eq_ok_iff]
  exact ⟨fun h => ⟨h.distinctKeys, h.writable⟩, fun h => h.2.reads_encode h.1⟩

theorem decode_encode_of_decode {s : String} {d : ConnectionDescriptor} (h : decode s = .ok d) :
    decode d.encode = .ok d :=
  decode_encode_iff.mpr ⟨(decode_eq_ok_iff.mp h).distinctKeys, (decode_eq_ok_iff.mp h).writable⟩

/-! ## Both together -/

/-- Reading a text and writing a descriptor. -/
structure Codec (s : String) (d : ConnectionDescriptor) : Prop where
  accepts : (∃ e, decode s = .ok e) ↔ Acceptable s
  reads : decode s = .ok d ↔ Reads s d
  /-- What was read is read again from its own text, which then stays the same. -/
  reread : decode s = .ok d → decode d.encode = .ok d
  fixed : decode s = .ok d → (decode d.encode).map encode = .ok d.encode
  writable : decode d.encode = .ok d ↔ d.DistinctKeys ∧ d.Writable

/-- Every text is read as it spells, and every descriptor that can be written is read back. -/
theorem encode_decode_codec (s : String) (d : ConnectionDescriptor) : Codec s d where
  accepts := accepts_iff
  reads := decode_eq_ok_iff
  reread := decode_encode_of_decode
  fixed h := by rw [decode_encode_of_decode h]; rfl
  writable := decode_encode_iff

/-- An equals sign in a value, empty segments and a repeated key. -/
example :
    decode "mem:x;A=1;;B=a=b;A=2;" = .ok ⟨"mem:x", [("A", "2"), ("B", "a=b")]⟩ := by
  decide

end ConnectionDescriptor

end Sluice
