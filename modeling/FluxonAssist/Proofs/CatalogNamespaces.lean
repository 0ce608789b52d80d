import FluxonAssist.Proofs.RankedList

/-!
# The namespaces of a catalog

The namespaces that are offered ascend octet by octet, and they are those of the system functions
and of the functions of all host types. Merging the host types keeps every key and adds none, so the
merged index has the same namespaces. A function without a namespace adds none; the empty namespace
is one like the others.
-/
set_option autoImplicit false
namespace FluxonAssist

open FluxonAssist.Text

namespace Catalog

/-- A strictly ascending list is fixed by its elements. -/
theorem ascending_congr {xs ys : List String} (same : ∀ x, x ∈ xs ↔ x ∈ ys) :
    ascending xs = ascending ys := by
  refine (ascending_sorted xs).eq_of_mem_iff (ascending_sorted ys) ?_
  intro x
  rw [mem_ascending, mem_ascending]
  exact same x

theorem namespacesOf_congr {functions others : List FunctionEntry}
    (same : ∀ name, (∃ f ∈ functions, f.namespaceName = some name) ↔
      ∃ f ∈ others, f.namespaceName = some name) :
    namespacesOf functions = namespacesOf others := by
  apply ascending_congr
  intro name
  rw [List.mem_filterMap, List.mem_filterMap]
  exact same name

/-! ## Merging keeps the keys -/

theorem exists_namespace_of_keys {functions others : List FunctionEntry}
    (kept : ∀ key, key ∈ functions.map FunctionEntry.key → key ∈ others.map FunctionEntry.key)
    {name : Option String} (found : ∃ f ∈ functions, f.namespaceName = name) :
    ∃ f ∈ others, f.namespaceName = name := by
  obtain ⟨f, member, named⟩ := found
  obtain ⟨g, here, same⟩ := List.mem_map.mp (kept f.key (List.mem_map_of_mem member))
  exact ⟨g, here, (congrArg Prod.fst same).trans named⟩

theorem namespace_of_mergeExtensions_iff (extensions : List (String × List FunctionEntry))
    (name : Option String) :
    (∃ f ∈ mergeExtensions extensions, f.namespaceName = name) ↔
      ∃ row ∈ extensions, ∃ f ∈ row.2, f.namespaceName = name := by
  have indexed := mergeDeclarations_indexOf (extensionFunctions extensions)
  rw [← exists_extensionFunction_iff]
  constructor
  · exact exists_namespace_of_keys fun key => (indexed.mem_keys_iff key).mp
  · exact exists_namespace_of_keys fun key => (indexed.mem_keys_iff key).mpr

/-- Merging does not change the namespaces. -/
theorem namespacesOf_merged (system : List FunctionEntry)
    (extensions : List (String × List FunctionEntry)) :
    namespacesOf (system ++ mergeExtensions extensions) =
      namespacesOf (system ++ extensionFunctions extensions) := by
  apply namespacesOf_congr
  intro name
  simp only [List.mem_append, or_and_right, exists_or, namespace_of_mergeExtensions_iff,
    exists_extensionFunction_iff]

end Catalog

/-! ## Stores -/

/-- The namespaces of a loaded store ascend octet by octet, and they are the ones that its system
functions and the functions of its host types have. The same list comes from the system functions
and the merged index, which has exactly the namespaces of the host types. -/
theorem Store.namespaces_ascend_and_survive_merging (history : List (Disk × Store.Operation))
    (store : Store) (reached : store = Store.run {} history) (isLoaded : store.isLoaded = true) :
    ∃ names system extensions merged,
      store.namespaces = .ok names ∧ store.systemFunctions = .ok system ∧
      store.extensions = .ok extensions ∧ store.merged = .ok merged ∧
      names.Pairwise (fun a b => octets a < octets b) ∧
      (∀ name, name ∈ names ↔ (∃ f ∈ system, f.namespaceName = some name) ∨
        ∃ row ∈ extensions, ∃ f ∈ row.2, f.namespaceName = some name) ∧
      names = Catalog.namespacesOf (system ++ merged) ∧
      ∀ name, (∃ f ∈ merged, f.namespaceName = name) ↔
        ∃ row ∈ extensions, ∃ f ∈ row.2, f.namespaceName = name := by
  obtain ⟨loaded, current⟩ := Store.exists_current reached isLoaded
  have merged : loaded.merged = Catalog.mergeExtensions loaded.catalog.extensions :=
    Store.merged_of_loaded loaded
  refine ⟨loaded.catalog.namespaces, loaded.catalog.system, loaded.catalog.extensions,
    Catalog.mergeExtensions loaded.catalog.extensions, ?_, ?_, ?_, ?_,
    Catalog.namespacesOf_ascends _, Catalog.mem_namespaces _,
    (Catalog.namespacesOf_merged _ _).symm, Catalog.namespace_of_mergeExtensions_iff _⟩
  · rw [Store.namespaces, current]
    rfl
  · rw [Store.systemFunctions, current]
    rfl
  · rw [Store.extensions, current]
    rfl
  · rw [Store.merged, current, ← merged]
    rfl

def spreadStore : Store := Store.startedFrom "c.json" spread

theorem spreadStore_reached :
    spreadStore =
      Store.run {} [(Store.oneFile "c.json" spreadText, .load (.start "c.json" ""))] :=
  (Store.run_oneFile "c.json" spreadText (by decide) spread_parsed).symm

theorem spread_namespaces :
    spreadStore.isLoaded = true ∧ spreadStore.namespaces = .ok ["", "Net", "net"] ∧
      ∃ system merged, spreadStore.systemFunctions = .ok system ∧
        spreadStore.merged = .ok merged ∧
        ["", "Net", "net"] = Catalog.namespacesOf (system ++ merged) := by
  have isLoaded : spreadStore.isLoaded = true := rfl
  have listed : spreadStore.namespaces = .ok ["", "Net", "net"] := by
    show Except.ok spread.namespaces = _
    exact congrArg Except.ok (by decide)
  obtain ⟨names, system, -, merged, named, known, -, indexed, -, -, same, -⟩ :=
    Store.namespaces_ascend_and_survive_merging _ spreadStore spreadStore_reached isLoaded
  rw [listed] at named
  cases named
  exact ⟨isLoaded, listed, system, merged, known, indexed, same⟩

end FluxonAssist
