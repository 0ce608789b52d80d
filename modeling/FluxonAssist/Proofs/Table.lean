import FluxonAssist.Table

/-!
# Look-ups in tables

A look-up after an insertion or an erasure, and the rows that a filter leaves. A filter that looks
at values can bring an older row of a key to light, so its law needs tables in which no key is
repeated; insertions, erasures and filters keep them so.
-/
set_option autoImplicit false
namespace FluxonAssist.Table

variable {κ α : Type} [DecidableEq κ]

def Distinct (table : Table κ α) : Prop := (table.map Prod.fst).Nodup

theorem get?_nil (key : κ) : get? ([] : Table κ α) key = none := rfl

theorem get?_cons (row : κ × α) (table : Table κ α) (key : κ) :
    get? (row :: table) key = if row.1 = key then some row.2 else get? table key := by
  obtain ⟨rowKey, value⟩ := row
  simp only [get?, List.lookup_cons]
  by_cases same : rowKey = key
  · simp [same]
  · have differs : (key == rowKey) = false := beq_false_of_ne (Ne.symm same)
    simp [differs, same]

theorem get?_eq_none_of_notMem (table : Table κ α) (key : κ)
    (absent : key ∉ table.map Prod.fst) : table.get? key = none := by
  induction table with
  | nil => rfl
  | cons row rest ih =>
      simp only [List.map_cons, List.mem_cons, not_or] at absent
      rw [get?_cons, if_neg (Ne.symm absent.1), ih absent.2]

theorem get?_erase (table : Table κ α) (key other : κ) :
    (table.erase key).get? other = if other = key then none else table.get? other := by
  induction table with
  | nil => simp [erase, get?_nil]
  | cons row rest ih =>
      simp only [erase, List.filter_cons] at ih ⊢
      by_cases dropped : row.1 = key
      · simp only [dropped, ne_eq, not_true_eq_false, decide_false, Bool.false_eq_true, if_false]
        rw [ih, get?_cons, dropped]
        by_cases same : other = key
        · simp [same]
        · rw [if_neg same, if_neg same, if_neg (Ne.symm same)]
      · simp only [dropped, ne_eq, not_false_eq_true, decide_true, if_true]
        rw [get?_cons, get?_cons, ih]
        by_cases found : row.1 = other
        · have differs : other ≠ key := fun same => dropped (found.trans same)
          rw [if_pos found, if_pos found, if_neg differs]
        · rw [if_neg found, if_neg found]

theorem get?_insert (table : Table κ α) (key other : κ) (value : α) :
    (table.insert key value).get? other = if other = key then some value else table.get? other := by
  rw [insert, get?_cons, get?_erase]
  by_cases same : other = key
  · simp [same]
  · simp [same, Ne.symm same]

theorem get?_filter (table : Table κ α) (distinct : table.Distinct) (keep : κ × α → Bool)
    (key : κ) :
    get? (table.filter keep) key = (table.get? key).filter fun value => keep (key, value) := by
  induction table with
  | nil => rfl
  | cons row rest ih =>
      obtain ⟨rowKey, value⟩ := row
      obtain ⟨fresh, distinctRest⟩ := List.nodup_cons.mp distinct
      rw [List.filter_cons, get?_cons]
      by_cases same : rowKey = key
      · subst same
        have absent : get? rest rowKey = none := get?_eq_none_of_notMem rest rowKey fresh
        by_cases kept : keep (rowKey, value) = true
        · simp [kept, get?_cons, Option.filter]
        · simp [kept, ih distinctRest, absent, Option.filter]
      · by_cases kept : keep (rowKey, value) = true
        · simp [kept, get?_cons, same, ih distinctRest]
        · simp [kept, same, ih distinctRest]

theorem Distinct.get?_of_mem {table : Table κ α} (distinct : table.Distinct) {key : κ} {value : α}
    (member : (key, value) ∈ table) : table.get? key = some value := by
  induction table with
  | nil => cases member
  | cons row rest ih =>
      obtain ⟨fresh, distinctRest⟩ := List.nodup_cons.mp distinct
      rw [get?_cons]
      rcases List.mem_cons.mp member with rfl | member
      · exact if_pos rfl
      · have differs : row.1 ≠ key := by
          intro same
          exact fresh (List.mem_map.mpr ⟨(key, value), member, same.symm⟩)
        rw [if_neg differs]
        exact ih distinctRest member

omit [DecidableEq κ] in
theorem Distinct.filter {table : Table κ α} (distinct : table.Distinct) (keep : κ × α → Bool) :
    Distinct (table.filter keep) :=
  List.Nodup.sublist (List.filter_sublist.map Prod.fst) distinct

theorem Distinct.erase {table : Table κ α} (distinct : table.Distinct) (key : κ) :
    (table.erase key).Distinct :=
  distinct.filter _

theorem Distinct.insert {table : Table κ α} (distinct : table.Distinct) (key : κ) (value : α) :
    (table.insert key value).Distinct := by
  refine List.nodup_cons.mpr ⟨?_, distinct.erase key⟩
  intro member
  obtain ⟨row, kept, same⟩ := List.mem_map.mp member
  have differs : row.1 ≠ key := by simpa using (List.mem_filter.mp kept).2
  exact differs same

end FluxonAssist.Table
