import Mathlib.Data.List.Nodup
import Sluice.Result

/-!
# Asking rows for names

A row can be asked for a name directly, or through the map that it makes. Asked directly it answers
with the first value under the name, the map has the last one, and a name without a value is unknown
to both. So the two ways differ exactly where the first and the last value under a name do.
-/

namespace Sluice.Row

variable {row : Row} {name : String}

/-- The values under a name, in the order of the columns. -/
def under (row : Row) (name : String) : List Value :=
  ((row.columns.zip row.values).filter fun p => p.1 == name).map Prod.snd

theorem under_cons (column : String) (columns : List String) (value : Value)
    (values : List Value) :
    under ⟨column :: columns, value :: values⟩ name =
      if column = name then value :: under ⟨columns, values⟩ name
      else under ⟨columns, values⟩ name := by
  by_cases h : column = name <;> simp [under, h]

/-! ## The first value -/

/-- Asked directly, a row answers with the first value under the name. -/
theorem getByName?_eq_head? : row.getByName? name = (row.under name).head? := by
  obtain ⟨columns, values⟩ := row
  induction columns generalizing values with
  | nil => rfl
  | cons column columns ih =>
      by_cases h : column = name
      · cases values with
        | nil => simp [getByName?, get?, under]
        | cons value values => simp [getByName?, get?, under_cons, List.findIdx?_cons, h]
      · -- The position moves on by one, in the columns and in the values.
        have hnext : getByName? ⟨column :: columns, values⟩ name =
            getByName? ⟨columns, values.tail⟩ name := by
          rw [getByName?, getByName?, List.findIdx?_cons, if_neg (by simpa using h),
            Option.bind_map]
          congr 1
          funext i
          rw [Function.comp_apply, get?, get?, List.getElem?_tail]
        rw [hnext, ih]
        cases values with
        | nil => simp [under]
        | cons value values => rw [under_cons, if_neg h, List.tail_cons]

/-! ## The last value -/

theorem lookup_cons_eq (key : String) (value : Value) (map : List (String × Value)) :
    ((key, value) :: map).lookup name = if name = key then some value else map.lookup name := by
  by_cases h : name = key
  · rw [h, List.lookup_cons_self, if_pos rfl]
  · rw [List.lookup_cons, beq_eq_false_iff_ne.mpr h, if_neg h]

theorem lookup_setKey (key : String) (value : Value) (map : List (String × Value)) :
    (setKey key value map).lookup name = if name = key then some value else map.lookup name := by
  induction map with
  | nil => exact lookup_cons_eq key value []
  | cons entry rest ih =>
      obtain ⟨k, v⟩ := entry
      rw [setKey]
      by_cases hk : k = key
      · rw [if_pos (beq_iff_eq.mpr hk), lookup_cons_eq, lookup_cons_eq, hk]
        split <;> rfl
      · rw [if_neg (by simpa using hk), lookup_cons_eq, lookup_cons_eq, ih]
        by_cases h : name = k
        · rw [if_pos h, if_pos h, if_neg (h ▸ hk)]
        · rw [if_neg h, if_neg h]

theorem lookup_foldl_setKey (pairs map : List (String × Value)) :
    (pairs.foldl (fun map (k, v) => setKey k v map) map).lookup name =
      ((pairs.filter fun p => p.1 == name).map Prod.snd).getLast?.or (map.lookup name) := by
  induction pairs generalizing map with
  | nil => rfl
  | cons p pairs ih =>
      rw [List.foldl_cons, ih, lookup_setKey]
      by_cases h : p.1 = name
      · rw [if_pos h.symm, List.filter_cons_of_pos (by simpa using h), List.map_cons,
          List.getLast?_cons]
        cases ((pairs.filter fun p => p.1 == name).map Prod.snd).getLast? <;> rfl
      · rw [if_neg (Ne.symm h), List.filter_cons_of_neg (by simpa using h)]

/-- The map has the last value under a name. -/
theorem lookup_toMap : row.toMap.lookup name = (row.under name).getLast? := by
  rw [toMap, lookup_foldl_setKey, List.lookup_nil, Option.or_none, under]

theorem keys_setKey (key : String) (value : Value) (map : List (String × Value)) :
    (setKey key value map).map Prod.fst =
      if key ∈ map.map Prod.fst then map.map Prod.fst else map.map Prod.fst ++ [key] := by
  induction map with
  | nil => rfl
  | cons entry rest ih =>
      obtain ⟨k, v⟩ := entry
      rw [setKey]
      by_cases hk : k = key
      · simp [hk]
      · rw [if_neg (by simpa using hk), List.map_cons, ih]
        by_cases hmem : key ∈ rest.map Prod.fst <;> simp [hmem, Ne.symm hk]

/-- No key of the map stands there twice. -/
theorem nodup_keys_toMap (row : Row) : (row.toMap.map Prod.fst).Nodup := by
  have hstep : ∀ pairs map : List (String × Value), (map.map Prod.fst).Nodup →
      ((pairs.foldl (fun map (k, v) => setKey k v map) map).map Prod.fst).Nodup := by
    intro pairs
    induction pairs with
    | nil => exact fun _ h => h
    | cons p pairs ih =>
        intro map h
        refine ih _ ?_
        rw [keys_setKey]
        split
        · exact h
        · next hnew =>
            exact List.nodup_append_comm.mp (List.nodup_cons.mpr ⟨hnew, h⟩)
  exact hstep _ [] .nil

/-! ## Both ways -/

theorem length_under_le_count : (row.under name).length ≤ row.columns.count name := by
  obtain ⟨columns, values⟩ := row
  induction columns generalizing values with
  | nil => exact Nat.le_refl _
  | cons column columns ih =>
      cases values with
      | nil => exact Nat.zero_le _
      | cons value values =>
          have hrest := ih values
          rw [under_cons]
          by_cases h : column = name
          · rw [if_pos h, h, List.count_cons_self, List.length_cons]
            exact Nat.succ_le_succ hrest
          · rw [if_neg h, List.count_cons_of_ne h]
            exact hrest

/-- What a row answers when it is asked for a name in two ways. -/
structure AnswersTwice (row : Row) (name : String) : Prop where
  distinct : (row.toMap.map Prod.fst).Nodup
  first : row.getByName? name = (row.under name).head?
  last : row.toMap.lookup name = (row.under name).getLast?
  /-- Both know the name, or neither does. -/
  known_iff : (∃ v, row.toMap.lookup name = some v) ↔ ∃ v, row.getByName? name = some v
  /-- They agree exactly if the first and the last value under the name do. -/
  agree_iff : row.toMap.lookup name = row.getByName? name ↔
    (row.under name).head? = (row.under name).getLast?
  /-- They agree on a name that does not repeat. -/
  agree_of_single : row.columns.count name ≤ 1 → row.toMap.lookup name = row.getByName? name

/-- Every row answers both ways, from the two ends of what stands under a name. -/
theorem answersTwice (row : Row) (name : String) : row.AnswersTwice name := by
  have hfirst : row.getByName? name = (row.under name).head? := getByName?_eq_head?
  have hlast : row.toMap.lookup name = (row.under name).getLast? := lookup_toMap
  refine ⟨nodup_keys_toMap row, hfirst, hlast, ?_, ?_, fun hcount => ?_⟩
  · simp only [hfirst, hlast, ← Option.isSome_iff_exists, List.isSome_head?, List.getLast?_isSome]
  · rw [hfirst, hlast, eq_comm]
  · rw [hfirst, hlast]
    have hlength : (row.under name).length ≤ 1 := Nat.le_trans length_under_le_count hcount
    match hunder : row.under name with
    | [] => rfl
    | [v] => rfl
    | v :: w :: rest =>
        rw [hunder] at hlength
        simp at hlength

/-- Of two columns of one name, the map has the second and the row itself the first. -/
theorem repeated_name_disagrees :
    Row.toMap ⟨["id", "id"], [.int 1, .int 2]⟩ = [("id", .int 2)] ∧
      Row.getByName? ⟨["id", "id"], [.int 1, .int 2]⟩ "id" = some (.int 1) ∧
      (Row.toMap ⟨["id", "id"], [.int 1, .int 2]⟩).lookup "id" ≠
        Row.getByName? ⟨["id", "id"], [.int 1, .int 2]⟩ "id" := by
  decide

end Sluice.Row
