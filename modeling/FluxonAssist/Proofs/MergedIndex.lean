import Mathlib.Data.List.Nodup
import FluxonAssist.Catalog.Merge
import FluxonAssist.Proofs.Ascending

/-!
# What the merged index holds

A declaration either starts an entry at the end of the index or goes into the entry of its function,
wherever that stands. The invariant `IndexOf` ties an index to the declarations read so far: one
entry per namespace and name, in the order of first occurrence, each with exactly the counts and
flags of the declarations of its function. One declaration keeps it, hence the index of all host
types has it.
-/
set_option autoImplicit false
namespace FluxonAssist

namespace FunctionEntry

/-- What tells functions apart; no namespace is not the empty one. -/
def key (f : FunctionEntry) : Option String × String := (f.namespaceName, f.name)

/-- There is a count, and the counts ascend. -/
structure Normal (f : FunctionEntry) : Prop where
  nonempty : f.params ≠ []
  ascends : f.params.Pairwise (· < ·)

theorem sameFunction_iff (a b : FunctionEntry) : a.sameFunction b = true ↔ a.key = b.key := by
  simp [sameFunction, key]

end FunctionEntry

namespace Catalog

/-- The entry has exactly what the declarations of its function have. -/
structure Gathers (declared : List FunctionEntry) (entry : FunctionEntry) : Prop where
  counts : ∀ n, n ∈ entry.params ↔ ∃ f ∈ declared, f.key = entry.key ∧ n ∈ f.params
  isAsync : entry.isAsync = true ↔ ∃ f ∈ declared, f.key = entry.key ∧ f.isAsync = true
  primarySync :
    entry.primarySync = true ↔ ∃ f ∈ declared, f.key = entry.key ∧ f.primarySync = true

structure IndexOf (declared index : List FunctionEntry) : Prop where
  order : index.map FunctionEntry.key = (declared.map FunctionEntry.key).eraseDups
  distinct : (index.map FunctionEntry.key).Nodup
  normal : (∀ f ∈ declared, f.Normal) → ∀ entry ∈ index, entry.Normal
  gathers : ∀ entry ∈ index, Gathers declared entry

/-! ## One declaration -/

theorem key_combine (existing f : FunctionEntry) : (combine existing f).key = existing.key := rfl

theorem normal_combine {existing f : FunctionEntry} (normal : existing.Normal) :
    (combine existing f).Normal := by
  obtain ⟨n, rest, split⟩ := List.exists_cons_of_ne_nil normal.nonempty
  refine ⟨?_, ascending_sorted _⟩
  have member : n ∈ ascending (existing.params ++ f.params) := by
    rw [mem_ascending, split]
    exact List.mem_append_left _ List.mem_cons_self
  exact List.ne_nil_of_mem member

/-- What holds of a declaration of one key, after one more declaration. -/
theorem exists_key_snoc (declared : List FunctionEntry) (f : FunctionEntry)
    (key : Option String × String) (holds : FunctionEntry → Prop) :
    (∃ g ∈ declared ++ [f], g.key = key ∧ holds g) ↔
      (∃ g ∈ declared, g.key = key ∧ holds g) ∨ (f.key = key ∧ holds f) := by
  constructor
  · rintro ⟨g, member, same, held⟩
    rcases List.mem_append.mp member with member | member
    · exact Or.inl ⟨g, member, same, held⟩
    · cases List.mem_singleton.mp member
      exact Or.inr ⟨same, held⟩
  · rintro (⟨g, member, same, held⟩ | ⟨same, held⟩)
    · exact ⟨g, List.mem_append_left _ member, same, held⟩
    · exact ⟨f, List.mem_append_right _ List.mem_cons_self, same, held⟩

theorem Gathers.other {declared : List FunctionEntry} {entry f : FunctionEntry}
    (gathers : Gathers declared entry) (other : f.key ≠ entry.key) :
    Gathers (declared ++ [f]) entry := by
  constructor
  · intro n
    rw [exists_key_snoc, gathers.counts]
    exact (or_iff_left fun added => other added.1).symm
  · rw [exists_key_snoc, gathers.isAsync]
    exact (or_iff_left fun added => other added.1).symm
  · rw [exists_key_snoc, gathers.primarySync]
    exact (or_iff_left fun added => other added.1).symm

theorem Gathers.combine {declared : List FunctionEntry} {existing f : FunctionEntry}
    (gathers : Gathers declared existing) (same : f.key = existing.key) :
    Gathers (declared ++ [f]) (combine existing f) := by
  constructor
  · intro n
    rw [exists_key_snoc, key_combine, ← gathers.counts, and_iff_right same]
    show n ∈ ascending (existing.params ++ f.params) ↔ _
    rw [mem_ascending, List.mem_append]
  · rw [exists_key_snoc, key_combine, ← gathers.isAsync, and_iff_right same]
    exact Bool.or_eq_true _ _ ▸ Iff.rfl
  · rw [exists_key_snoc, key_combine, ← gathers.primarySync, and_iff_right same]
    exact Bool.or_eq_true _ _ ▸ Iff.rfl

theorem Gathers.first {declared : List FunctionEntry} {f : FunctionEntry}
    (fresh : f.key ∉ declared.map FunctionEntry.key) : Gathers (declared ++ [f]) f := by
  have none_before (holds : FunctionEntry → Prop) :
      ¬ ∃ g ∈ declared, g.key = f.key ∧ holds g := by
    rintro ⟨g, member, same, -⟩
    exact fresh (List.mem_map.mpr ⟨g, member, same⟩)
  constructor
  · intro n
    rw [exists_key_snoc, and_iff_right rfl]
    exact (or_iff_right (none_before _)).symm
  · rw [exists_key_snoc, and_iff_right rfl]
    exact (or_iff_right (none_before _)).symm
  · rw [exists_key_snoc, and_iff_right rfl]
    exact (or_iff_right (none_before _)).symm

theorem map_key_addDeclaration (f : FunctionEntry) (index : List FunctionEntry) :
    (addDeclaration f index).map FunctionEntry.key =
      if f.key ∈ index.map FunctionEntry.key then index.map FunctionEntry.key
      else index.map FunctionEntry.key ++ [f.key] := by
  induction index with
  | nil => rfl
  | cons existing rest ih =>
      rw [addDeclaration]
      by_cases same : existing.key = f.key
      · rw [if_pos ((FunctionEntry.sameFunction_iff _ _).mpr same), if_pos (by simp [same])]
        rfl
      · rw [if_neg (mt (FunctionEntry.sameFunction_iff _ _).mp same), List.map_cons, ih]
        by_cases later : f.key ∈ rest.map FunctionEntry.key
        · have present : f.key ∈ (existing :: rest).map FunctionEntry.key :=
            List.mem_cons_of_mem _ later
          rw [if_pos later, if_pos present]
          rfl
        · have absent : f.key ∉ (existing :: rest).map FunctionEntry.key := by
            rw [List.map_cons, List.mem_cons, not_or]
            exact ⟨Ne.symm same, later⟩
          rw [if_neg later, if_neg absent]
          rfl

/-- Where an entry of the index comes from after one declaration. -/
theorem mem_addDeclaration {f entry : FunctionEntry} {index : List FunctionEntry}
    (distinct : (index.map FunctionEntry.key).Nodup) (member : entry ∈ addDeclaration f index) :
    (entry ∈ index ∧ f.key ≠ entry.key) ∨
      (∃ existing ∈ index, f.key = existing.key ∧ entry = combine existing f) ∨
      (f.key ∉ index.map FunctionEntry.key ∧ entry = f) := by
  induction index with
  | nil => exact Or.inr (Or.inr ⟨List.not_mem_nil, List.mem_singleton.mp member⟩)
  | cons existing rest ih =>
      obtain ⟨fresh, distinctRest⟩ := List.nodup_cons.mp distinct
      rw [addDeclaration] at member
      by_cases same : existing.key = f.key
      · rw [if_pos ((FunctionEntry.sameFunction_iff _ _).mpr same)] at member
        rcases List.mem_cons.mp member with rfl | member
        · exact Or.inr (Or.inl ⟨existing, List.mem_cons_self, same.symm, rfl⟩)
        · left
          refine ⟨List.mem_cons_of_mem _ member, ?_⟩
          intro again
          apply fresh
          rw [same, again]
          exact List.mem_map_of_mem member
      · rw [if_neg (mt (FunctionEntry.sameFunction_iff _ _).mp same)] at member
        rcases List.mem_cons.mp member with rfl | member
        · exact Or.inl ⟨List.mem_cons_self, Ne.symm same⟩
        · rcases ih distinctRest member with
            ⟨kept, other⟩ | ⟨found, here, alike, rfl⟩ | ⟨absent, rfl⟩
          · exact Or.inl ⟨List.mem_cons_of_mem _ kept, other⟩
          · exact Or.inr (Or.inl ⟨found, List.mem_cons_of_mem _ here, alike, rfl⟩)
          · refine Or.inr (Or.inr ⟨?_, rfl⟩)
            rw [List.map_cons, List.mem_cons, not_or]
            exact ⟨Ne.symm same, absent⟩

theorem IndexOf.mem_keys_iff {declared index : List FunctionEntry}
    (indexed : IndexOf declared index) (key : Option String × String) :
    key ∈ index.map FunctionEntry.key ↔ key ∈ declared.map FunctionEntry.key := by
  rw [indexed.order, List.mem_eraseDups]

/-- One more declaration keeps the invariant. -/
theorem IndexOf.addDeclaration {declared index : List FunctionEntry}
    (indexed : IndexOf declared index) (f : FunctionEntry) :
    IndexOf (declared ++ [f]) (addDeclaration f index) := by
  have known := indexed.mem_keys_iff f.key
  have keys := map_key_addDeclaration f index
  refine ⟨?_, ?_, ?_, ?_⟩
  · rw [keys, List.map_append, List.map_singleton, eraseDups_snoc, ← indexed.order]
    by_cases present : f.key ∈ index.map FunctionEntry.key
    · rw [if_pos present, if_pos (known.mp present)]
    · rw [if_neg present, if_neg (mt known.mpr present)]
  · rw [keys]
    by_cases present : f.key ∈ index.map FunctionEntry.key
    · rw [if_pos present]
      exact indexed.distinct
    · rw [if_neg present, ← List.concat_eq_append]
      exact List.Nodup.concat present indexed.distinct
  · intro normal entry member
    obtain ⟨before, last⟩ := List.forall_mem_append.mp normal
    rcases mem_addDeclaration indexed.distinct member with
      ⟨kept, -⟩ | ⟨existing, here, -, rfl⟩ | ⟨-, rfl⟩
    · exact indexed.normal before entry kept
    · exact normal_combine (indexed.normal before existing here)
    · exact last entry List.mem_cons_self
  · intro entry member
    rcases mem_addDeclaration indexed.distinct member with
      ⟨kept, other⟩ | ⟨existing, here, same, rfl⟩ | ⟨fresh, rfl⟩
    · exact (indexed.gathers entry kept).other other
    · exact (indexed.gathers existing here).combine same
    · exact Gathers.first (mt known.mpr fresh)

/-! ## All declarations -/

theorem IndexOf.foldl_addDeclaration (functions declared index : List FunctionEntry)
    (indexed : IndexOf declared index) :
    IndexOf (declared ++ functions)
      (functions.foldl (fun index f => Catalog.addDeclaration f index) index) := by
  induction functions generalizing declared index with
  | nil =>
      rw [List.append_nil]
      exact indexed
  | cons f rest ih =>
      have next := ih (declared ++ [f]) _ (indexed.addDeclaration f)
      rwa [List.append_assoc] at next

theorem mergeDeclarations_indexOf (functions : List FunctionEntry) :
    IndexOf functions (mergeDeclarations functions) := by
  have empty : IndexOf [] [] := ⟨rfl, List.nodup_nil, by simp, by simp⟩
  exact IndexOf.foldl_addDeclaration functions [] [] empty

theorem exists_extensionFunction_iff (extensions : List (String × List FunctionEntry))
    (holds : FunctionEntry → Prop) :
    (∃ f ∈ extensionFunctions extensions, holds f) ↔ ∃ row ∈ extensions, ∃ f ∈ row.2, holds f := by
  constructor
  · intro found
    obtain ⟨f, member, held⟩ := found
    obtain ⟨row, here, inRow⟩ := List.mem_flatMap.mp member
    exact ⟨row, here, f, inRow, held⟩
  · intro found
    obtain ⟨row, here, f, inRow, held⟩ := found
    exact ⟨f, List.mem_flatMap.mpr ⟨row, here, inRow⟩, held⟩

/-- The merged index of host types whose functions are normal has one entry per namespace and name,
in the order in which the hosts' lists, one after the other, mention them first. An entry has the
counts of all the declarations of its function, ascending, and a flag exactly if one of them has
it. -/
theorem mergeExtensions_entries (extensions : List (String × List FunctionEntry))
    (normal : ∀ row ∈ extensions, ∀ f ∈ row.2, f.params ≠ [] ∧ f.params.Pairwise (· < ·)) :
    (mergeExtensions extensions).map FunctionEntry.key =
        ((extensions.map Prod.snd).flatten.map FunctionEntry.key).eraseDups ∧
      ((mergeExtensions extensions).map FunctionEntry.key).Nodup ∧
      (∀ key, key ∈ (mergeExtensions extensions).map FunctionEntry.key ↔
        ∃ row ∈ extensions, ∃ f ∈ row.2, f.key = key) ∧
      ∀ entry ∈ mergeExtensions extensions,
        entry.params ≠ [] ∧ entry.params.Pairwise (· < ·) ∧
        (∀ n, n ∈ entry.params ↔
          ∃ row ∈ extensions, ∃ f ∈ row.2, f.key = entry.key ∧ n ∈ f.params) ∧
        (entry.isAsync = true ↔
          ∃ row ∈ extensions, ∃ f ∈ row.2, f.key = entry.key ∧ f.isAsync = true) ∧
        (entry.primarySync = true ↔
          ∃ row ∈ extensions, ∃ f ∈ row.2, f.key = entry.key ∧ f.primarySync = true) := by
  have lists : extensionFunctions extensions = (extensions.map Prod.snd).flatten :=
    List.flatMap_def
  have declaredIff := exists_extensionFunction_iff extensions
  have indexed : IndexOf (extensionFunctions extensions) (mergeExtensions extensions) :=
    mergeDeclarations_indexOf _
  have normalFunctions : ∀ f ∈ extensionFunctions extensions, f.Normal := by
    intro f member
    obtain ⟨row, here, inRow⟩ := List.mem_flatMap.mp member
    obtain ⟨nonempty, ascends⟩ := normal row here f inRow
    exact ⟨nonempty, ascends⟩
  refine ⟨lists ▸ indexed.order, indexed.distinct, ?_, ?_⟩
  · intro key
    rw [indexed.mem_keys_iff, List.mem_map]
    exact declaredIff fun f => f.key = key
  · intro entry member
    have normalEntry := indexed.normal normalFunctions entry member
    have gathered := indexed.gathers entry member
    refine ⟨normalEntry.nonempty, normalEntry.ascends, ?_, ?_, ?_⟩
    · intro n
      exact (gathered.counts n).trans (declaredIff _)
    · exact gathered.isAsync.trans (declaredIff _)
    · exact gathered.primarySync.trans (declaredIff _)

/-- Three functions of one name, and a fourth one; the first is declared twice by one host and once
by the other. -/
def scatteredHosts : List (String × List FunctionEntry) :=
  [("Player",
      [⟨"get", none, [3], false, false⟩, ⟨"get", some "", [1], false, false⟩,
        ⟨"get", none, [0, 5], true, false⟩]),
    ("World",
      [⟨"put", some "", [2], false, true⟩, ⟨"get", some "net", [4], false, false⟩,
        ⟨"get", none, [1, 3], false, true⟩])]

theorem scatteredHosts_entries :
    (∀ row ∈ scatteredHosts, ∀ f ∈ row.2, f.params ≠ [] ∧ f.params.Pairwise (· < ·)) ∧
      (mergeExtensions scatteredHosts).map FunctionEntry.key =
        [(none, "get"), (some "", "get"), (some "", "put"), (some "net", "get")] ∧
      ∃ entry ∈ mergeExtensions scatteredHosts, entry.key = (none, "get") ∧
        entry.isAsync = true ∧ entry.primarySync = true ∧ 5 ∈ entry.params ∧ 2 ∉ entry.params := by
  have normal : ∀ row ∈ scatteredHosts, ∀ f ∈ row.2,
      f.params ≠ [] ∧ f.params.Pairwise (· < ·) := by decide
  obtain ⟨order, -, known, gathers⟩ := mergeExtensions_entries scatteredHosts normal
  refine ⟨normal, order.trans (by decide), ?_⟩
  have member := (known (none, "get")).mpr (by decide)
  obtain ⟨entry, here, key⟩ := List.mem_map.mp member
  obtain ⟨-, -, counts, isAsync, primarySync⟩ := gathers entry here
  refine ⟨entry, here, key, isAsync.mpr ?_, primarySync.mpr ?_, (counts 5).mpr ?_,
    mt (counts 2).mp ?_⟩ <;> rw [key] <;> decide

end Catalog
end FluxonAssist
