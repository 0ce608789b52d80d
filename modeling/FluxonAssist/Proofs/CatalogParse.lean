import FluxonAssist.Proofs.CatalogDecode

/-!
# What a catalog text serves

A text is read twice: the check takes its objects as maps, the decoder takes their members in order.
The catalog of a text serves what the check has seen and nothing else, with the argument counts of
every function normalized. Where the text repeats no key, the check alone decides.
-/
set_option autoImplicit false
namespace FluxonAssist

/-! ## Normalized functions -/

/-- The function is the declared one, its counts without repetitions in ascending order; a function
declared without any count takes no arguments. -/
structure FunctionEntry.Normalizes (declared f : FunctionEntry) : Prop where
  name : f.name = declared.name
  namespaceName : f.namespaceName = declared.namespaceName
  isAsync : f.isAsync = declared.isAsync
  primarySync : f.primarySync = declared.primarySync
  nonempty : f.params ≠ []
  ascends : f.params.Pairwise (· < ·)
  counts : ∀ n, n ∈ f.params ↔ n ∈ declared.params ∨ declared.params = [] ∧ n = 0

namespace FunctionEntry

theorem ascending_eq_nil_iff (params : List Nat) : ascending params = [] ↔ params = [] := by
  simp only [List.eq_nil_iff_forall_not_mem, mem_ascending]

theorem normalizedParams_nil : normalizedParams [] = [0] := rfl

theorem normalizedParams_of_ne_nil {params : List Nat} (nonempty : params ≠ []) :
    normalizedParams params = ascending params := by
  unfold normalizedParams
  split
  · rename_i empty
    exact absurd ((ascending_eq_nil_iff params).mp empty) nonempty
  · rfl

theorem normalizes_normalize (f : FunctionEntry) : f.Normalizes f.normalize := by
  by_cases empty : f.params = []
  · have counts : f.normalize.params = [0] := by rw [normalize, empty, normalizedParams_nil]
    refine ⟨rfl, rfl, rfl, rfl, ?_, ?_, ?_⟩
    · simp [counts]
    · simp [counts]
    · simp [counts, empty]
  · have counts : f.normalize.params = ascending f.params := normalizedParams_of_ne_nil empty
    refine ⟨rfl, rfl, rfl, rfl, ?_, ?_, ?_⟩
    · rw [counts]
      exact mt (ascending_eq_nil_iff _).mp empty
    · rw [counts]
      exact ascending_sorted _
    · intro n
      rw [counts, mem_ascending]
      simp [empty]

end FunctionEntry

namespace Catalog

/-! ## From documents to catalogs -/

/-- The function is the normalized form of the one that the entry declares. -/
def Serves (entry : Json) (f : FunctionEntry) : Prop :=
  ∃ declared, Declares entry declared ∧ declared.Normalizes f

theorem serves_map_normalize {items : List Json} {functions : List FunctionEntry}
    (declared : List.Forall₂ Declares items functions) :
    List.Forall₂ Serves items (functions.map FunctionEntry.normalize) := by
  rw [List.forall₂_map_right_iff]
  refine declared.imp ?_
  intro entry f declares
  exact ⟨f, declares, f.normalizes_normalize⟩

/-- The catalog holds what counts in the document: its functions in their order, and each host once,
in the order of first occurrence, with the functions of its last list. -/
structure Represents (members : List (String × Json)) (entries : List Json)
    (hosts : List (String × Json)) (c : Catalog) : Prop where
  generatedAt : Json.member? "generatedAt" members = some (.string c.generatedAt)
  system : Json.member? "system" members = some (.array entries)
  systemFunctions : List.Forall₂ Serves entries c.system
  extensions : Json.member? "extensions" members = some (.object hosts)
  order : c.extensions.map Prod.fst = (hosts.map Prod.fst).eraseDups
  distinct : (c.extensions.map Prod.fst).Nodup
  sameHosts : ∀ host, host ∈ c.extensions.map Prod.fst ↔ host ∈ Json.keys hosts
  hostFunctions : ∀ row ∈ c.extensions, ∃ items,
    Json.member? row.1 hosts = some (.array items) ∧ List.Forall₂ Serves items row.2

theorem map_fst_normalize (c : Catalog) :
    c.normalize.extensions.map Prod.fst = c.extensions.map Prod.fst := by
  simp [normalize, List.map_map, Function.comp_def]

theorem Shape.represents {members hosts : List (String × Json)} {generatedAt : String}
    {entries : List Json} (shape : Shape members generatedAt entries hosts) {c : Catalog}
    (decoded : decode (.object members) = .ok c) :
    Represents members entries hosts c.normalize := by
  obtain ⟨stamp, system, read⟩ := shape.decoded decoded
  have order := (map_fst_normalize c).trans read.order
  refine ⟨?_, shape.system, serves_map_normalize system, shape.extensions, order, ?_, ?_, ?_⟩
  · rw [shape.generatedAt, ← stamp]
    rfl
  · rw [map_fst_normalize]
    exact read.distinct
  · intro host
    rw [order, List.mem_eraseDups, mem_keys_iff]
  · intro row mem
    obtain ⟨original, here, rfl⟩ := List.mem_map.mp mem
    obtain ⟨items, list, declared⟩ := shape.host_declares read here
    exact ⟨items, list, serves_map_normalize declared⟩

/-! ## Reading a text -/

theorem parse_ok_iff (text : String) (c : Catalog) :
    parse text = .ok c ↔ ∃ document decoded, Json.parse? text = some document ∧
      flaw? document = none ∧ decode document = .ok decoded ∧ decoded.normalize = c := by
  rw [parse]
  cases Json.parse? text with
  | none => simp
  | some document =>
      cases passes : flaw? document with
      | some flaw => simp [ofJson, passes]
      | none => cases read : decode document <;> simp [ofJson, passes, read]

/-- The two readings of a text agree. A catalog that is read represents a document that passes the
check, repeated keys or not; and a text without repeated keys is a catalog exactly if it is JSON and
passes the check. -/
theorem parse_agrees_with_check (text : String) :
    (∀ c, parse text = .ok c → ∃ members entries hosts,
      Json.parse? text = some (.object members) ∧ flaw? (.object members) = none ∧
        Represents members entries hosts c) ∧
    ((Json.parse? text).all Json.noRepeats = true →
      ((∃ c, parse text = .ok c) ↔
        ∃ document, Json.parse? text = some document ∧ flaw? document = none)) := by
  constructor
  · intro c parsed
    obtain ⟨document, decoded, read, passes, decodes, rfl⟩ := (parse_ok_iff text c).mp parsed
    obtain ⟨members, generatedAt, entries, hosts, rfl, shape⟩ := (flaw?_eq_none_iff _).mp passes
    exact ⟨members, entries, hosts, read, passes, shape.represents decodes⟩
  · intro clean
    constructor
    · rintro ⟨c, parsed⟩
      obtain ⟨document, decoded, read, passes, -⟩ := (parse_ok_iff text c).mp parsed
      exact ⟨document, read, passes⟩
    · rintro ⟨document, read, passes⟩
      obtain ⟨members, generatedAt, entries, hosts, rfl, shape⟩ := (flaw?_eq_none_iff _).mp passes
      rw [read] at clean
      obtain ⟨decoded, decodes⟩ := shape.exists_decode clean
      exact ⟨decoded.normalize, (parse_ok_iff text _).mpr ⟨_, decoded, read, passes, decodes, rfl⟩⟩

/-- A host is repeated, and its first list holds a function in array form. -/
def repeatedHostText : String :=
  "\x7b\"generatedAt\":\"today\",\"system\":[\x7b\"name\":\"f\",\"namespace\":null," ++
    "\"params\":[3,1,3],\"async\":false,\"primarySync\":true\x7d],\"extensions\":" ++
    "\x7b\"b\":[[\"g\",null,[2],true,true]],\"a\":[],\"b\":[]\x7d\x7d"

/-- No key is repeated. -/
def distinctHostsText : String :=
  "\x7b\"generatedAt\":\"\",\"system\":[],\"extensions\":\x7b\"b\":[],\"a\":[]\x7d\x7d"

/-- The repeated host keeps its first place, and its first list is not served. -/
theorem repeatedHost_represents :
    (∃ members entries hosts, Json.parse? repeatedHostText = some (.object members) ∧
      flaw? (.object members) = none ∧
        Represents members entries hosts
          ⟨"today", [⟨"f", none, [1, 3], false, true⟩], [("b", []), ("a", [])]⟩) ∧
      ∃ c, parse distinctHostsText = .ok c := by
  constructor
  · refine (parse_agrees_with_check repeatedHostText).1 _ ?_
    have served : (parse repeatedHostText).toOption =
        some ⟨"today", [⟨"f", none, [1, 3], false, true⟩], [("b", []), ("a", [])]⟩ := by
      decide +kernel
    cases parsed : parse repeatedHostText with
    | error rejection =>
        rw [parsed] at served
        cases served
    | ok c =>
        rw [parsed] at served
        rw [Option.some.inj served]
  · have clean : (Json.parse? distinctHostsText).all Json.noRepeats = true := by decide +kernel
    have passes : (Json.parse? distinctHostsText).map flaw? = some none := by decide +kernel
    exact ((parse_agrees_with_check _).2 clean).mpr (Option.map_eq_some_iff.mp passes)

end Catalog
end FluxonAssist
