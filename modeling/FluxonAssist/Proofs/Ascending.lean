import FluxonAssist.Ascending

/-!
# Lists without repetitions

`ascending` sorts strictly and keeps exactly the elements of the list, for every linear order. The
elements in the order of first occurrence grow at the end only, by an element that is new.
-/
set_option autoImplicit false
namespace FluxonAssist

section
variable {α : Type} [LT α] [DecidableLT α] [DecidableEq α]

theorem mem_insertAscending (a x : α) (xs : List α) :
    x ∈ insertAscending a xs ↔ x = a ∨ x ∈ xs := by
  induction xs with
  | nil => simp [insertAscending]
  | cons b rest ih =>
      rw [insertAscending]
      by_cases below : a < b
      · rw [if_pos below, List.mem_cons]
      · rw [if_neg below]
        by_cases same : a = b
        · subst same
          simp
        · rw [if_neg same, List.mem_cons, List.mem_cons, ih]
          exact or_left_comm

theorem mem_ascending (x : α) (xs : List α) : x ∈ ascending xs ↔ x ∈ xs := by
  induction xs with
  | nil => rfl
  | cons a rest ih =>
      rw [List.mem_cons, ← ih]
      exact mem_insertAscending a x (ascending rest)

theorem insertAscending_sorted [Trans (@LT.lt α _) (@LT.lt α _) (@LT.lt α _)]
    [Std.Trichotomous (@LT.lt α _)] (a : α) (xs : List α) (sorted : xs.Pairwise (· < ·)) :
    (insertAscending a xs).Pairwise (· < ·) := by
  induction xs with
  | nil => exact List.pairwise_singleton _ a
  | cons b rest ih =>
      obtain ⟨first, sortedRest⟩ := List.pairwise_cons.mp sorted
      rw [insertAscending]
      by_cases below : a < b
      · rw [if_pos below]
        refine List.pairwise_cons.mpr ⟨?_, sorted⟩
        intro x member
        rcases List.mem_cons.mp member with rfl | member
        · exact below
        · exact Std.lt_trans below (first x member)
      · rw [if_neg below]
        by_cases same : a = b
        · rwa [if_pos same]
        · rw [if_neg same]
          refine List.pairwise_cons.mpr ⟨?_, ih sortedRest⟩
          intro x member
          rcases (mem_insertAscending a x rest).mp member with rfl | member
          · exact ((Std.lt_trichotomy x b).resolve_left below).resolve_left same
          · exact first x member

theorem ascending_sorted [Trans (@LT.lt α _) (@LT.lt α _) (@LT.lt α _)]
    [Std.Trichotomous (@LT.lt α _)] (xs : List α) : (ascending xs).Pairwise (· < ·) := by
  induction xs with
  | nil => exact List.Pairwise.nil
  | cons a rest ih => exact insertAscending_sorted a (ascending rest) ih

end

theorem eraseDups_snoc {α : Type} [BEq α] [LawfulBEq α] [DecidableEq α] (xs : List α) (x : α) :
    (xs ++ [x]).eraseDups = if x ∈ xs then xs.eraseDups else xs.eraseDups ++ [x] := by
  rw [List.eraseDups_append]
  by_cases present : x ∈ xs
  · have nothing : List.removeAll [x] xs = [] := by simpa [List.removeAll] using present
    rw [if_pos present, nothing, List.eraseDups_nil, List.append_nil]
  · have itself : List.removeAll [x] xs = [x] := by simpa [List.removeAll] using present
    rw [if_neg present, itself]
    rfl

end FluxonAssist
