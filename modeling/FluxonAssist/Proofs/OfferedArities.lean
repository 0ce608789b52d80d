import FluxonAssist.Candidate.List
import FluxonAssist.Proofs.CatalogParse
import FluxonAssist.Proofs.MergedIndex
import FluxonAssist.Proofs.SnippetReader
import FluxonAssist.Proofs.StoreRun
import FluxonAssist.Proofs.Table

/-!
# Arities from the document to the snippet

The counts that a catalog document declares for a function are shown in the detail of its candidate,
and the least of them is the number of placeholders of its snippet. For a function of one list these
are the counts of its own entry; for one of the merged index, the counts of all the entries of its
namespace and name under any host. An entry without counts declares the count zero.
-/
set_option autoImplicit false
namespace FluxonAssist

namespace FunctionEntry

/-- A count that a declaration stands for. -/
def HasArity (declared : FunctionEntry) (n : Nat) : Prop :=
  n ∈ declared.params ∨ declared.params = [] ∧ n = 0

theorem Normalizes.normal {declared f : FunctionEntry} (normalizes : declared.Normalizes f) :
    f.Normal :=
  ⟨normalizes.nonempty, normalizes.ascends⟩

theorem Normalizes.key_eq {declared f : FunctionEntry} (normalizes : declared.Normalizes f) :
    f.key = declared.key :=
  Prod.ext normalizes.namespaceName normalizes.name

/-- The first count of a normal function is the least. -/
theorem Normal.minArity_least {f : FunctionEntry} (normal : f.Normal) :
    f.minArity ∈ f.params ∧ ∀ n ∈ f.params, f.minArity ≤ n := by
  obtain ⟨first, rest, split⟩ := List.exists_cons_of_ne_nil normal.nonempty
  have ascends := normal.ascends
  rw [split] at ascends
  have above := (List.pairwise_cons.mp ascends).1
  have least : f.minArity = first := by simp [minArity, split]
  rw [least, split]
  refine ⟨List.mem_cons_self, ?_⟩
  intro n member
  rcases List.mem_cons.mp member with rfl | member
  · exact Nat.le_refl _
  · exact Nat.le_of_lt (above n member)

end FunctionEntry

/-! ## What a candidate says of its function -/

namespace Candidate

/-- The part of a detail that names the namespace. -/
def namespaceNote (namespaceName : Option String) (showNamespace : Bool) : List String :=
  match namespaceName with
  | some name => if showNamespace then ["namespace: " ++ name] else []
  | none => []

/-- The candidate shows exactly the given counts in ascending order, and its snippet has as many
placeholders as the least of them; without placeholders it has the final stop. -/
structure OffersCall (key : Option String × String) (arity : Nat → Prop) (showNamespace : Bool)
    (candidate : Candidate) : Prop where
  label : candidate.label = key.2
  shown : ∃ (counts : List Nat) (flags : List String),
    counts.Pairwise (· < ·) ∧ (∀ n, n ∈ counts ↔ arity n) ∧
    flags.Sublist ["async", "primarySync"] ∧
    candidate.detail = joined " | " (namespaceNote key.1 showNamespace ++
      ("params: [" ++ joined ", " (counts.map toString) ++ "]") :: flags)
  inserted : ∃ k snippet parts, arity k ∧ (∀ n, arity n → k ≤ n) ∧
    candidate.insert = some (snippet, .snippet) ∧ Snippet.read snippet = some parts ∧
    Snippet.placeholders parts = List.range' 1 k ∧
    Snippet.stops parts = if k = 0 then [0] else []

theorem OffersCall.congr {key : Option String × String} {arity other : Nat → Prop}
    {showNamespace : Bool} {candidate : Candidate}
    (offers : OffersCall key arity showNamespace candidate) (same : ∀ n, arity n ↔ other n) :
    OffersCall key other showNamespace candidate := by
  have equal : arity = other := funext fun n => propext (same n)
  exact equal ▸ offers

theorem offersCall_ofEntry (f : FunctionEntry) (normal : f.Normal) (tier : SortTier)
    (showNamespace : Bool) :
    OffersCall f.key (· ∈ f.params) showNamespace (ofEntry f tier showNamespace) := by
  obtain ⟨declared, least⟩ := normal.minArity_least
  obtain ⟨parts, reads, placeholders, stops⟩ := Snippet.read_call_numbers f.name f.minArity
  refine ⟨rfl, ?_, ⟨f.minArity, _, parts, declared, least, rfl, reads, placeholders, stops⟩⟩
  refine ⟨f.params, (if f.isAsync then ["async"] else []) ++
    (if f.primarySync then ["primarySync"] else []), normal.ascends, fun n => Iff.rfl, ?_, ?_⟩
  · cases f.isAsync <;> cases f.primarySync <;> decide
  · show entryDetail f showNamespace = _
    rw [entryDetail, List.append_assoc, List.append_assoc]
    rfl

end Candidate

/-! ## What a document declares -/

namespace Catalog

theorem namespaceValue_injective {a b : Option String}
    (same : namespaceValue a = namespaceValue b) : a = b := by
  cases a <;> cases b <;> simp_all [namespaceValue]

theorem map_countValue_injective {a b : List Nat} (same : a.map countValue = b.map countValue) :
    a = b := by
  refine List.map_injective_iff.mpr ?_ same
  intro m n equal
  simpa [countValue] using equal

theorem Declares.unique {entry : Json} {f g : FunctionEntry} (first : Declares entry f)
    (second : Declares entry g) : f = g := by
  obtain ⟨members, rfl, asFirst⟩ := first
  obtain ⟨others, same, asSecond⟩ := second
  cases same
  have name := asFirst.name.symm.trans asSecond.name
  have namespaceName := asFirst.namespaceName.symm.trans asSecond.namespaceName
  have params := asFirst.params.symm.trans asSecond.params
  have isAsync := asFirst.isAsync.symm.trans asSecond.isAsync
  have primarySync := asFirst.primarySync.symm.trans asSecond.primarySync
  simp only [Option.some.injEq, Json.string.injEq, Json.array.injEq, Json.bool.injEq]
    at name namespaceName params isAsync primarySync
  cases f
  cases g
  simp only [FunctionEntry.mk.injEq]
  exact ⟨name, namespaceValue_injective namespaceName, map_countValue_injective params, isAsync,
    primarySync⟩

/-- Some entry under some host declares the function of this key with this count. -/
def HostsDeclare (hosts : List (String × Json)) (key : Option String × String) (n : Nat) : Prop :=
  ∃ host items entry declared, Json.member? host hosts = some (.array items) ∧ entry ∈ items ∧
    Declares entry declared ∧ declared.key = key ∧ declared.HasArity n

theorem exists_right_of_forall₂ {α β : Type} {related : α → β → Prop} {xs : List α} {ys : List β}
    (pairs : List.Forall₂ related xs ys) {x : α} (member : x ∈ xs) :
    ∃ y ∈ ys, related x y := by
  induction pairs with
  | nil => cases member
  | cons first _ ih =>
      rcases List.mem_cons.mp member with rfl | member
      · exact ⟨_, List.mem_cons_self, first⟩
      · obtain ⟨y, here, found⟩ := ih member
        exact ⟨y, List.mem_cons_of_mem _ here, found⟩

section
variable {members : List (String × Json)} {entries : List Json} {hosts : List (String × Json)}
  {c : Catalog}

theorem Represents.exists_row (represents : Represents members entries hosts c) {host : String}
    {items : List Json} (listed : Json.member? host hosts = some (.array items)) :
    ∃ functions, (host, functions) ∈ c.extensions ∧ List.Forall₂ Serves items functions := by
  have known : host ∈ c.extensions.map Prod.fst := by
    rw [represents.sameHosts, mem_keys_iff]
    exact List.mem_map_of_mem (mem_of_member? listed)
  obtain ⟨row, here, rfl⟩ := List.mem_map.mp known
  obtain ⟨others, same, serves⟩ := represents.hostFunctions row here
  rw [listed] at same
  cases same
  exact ⟨row.2, here, serves⟩

theorem Represents.normal (represents : Represents members entries hosts c) :
    ∀ f ∈ extensionFunctions c.extensions, f.Normal := by
  intro f member
  obtain ⟨row, here, inRow⟩ := List.mem_flatMap.mp member
  obtain ⟨items, -, serves⟩ := represents.hostFunctions row here
  obtain ⟨entry, -, declared, -, normalizes⟩ := exists_right_of_forall₂ serves.flip inRow
  exact normalizes.normal

/-- The counts served under some host for a key are those declared in the document. -/
theorem Represents.hostsDeclare_iff (represents : Represents members entries hosts c)
    (key : Option String × String) (n : Nat) :
    (∃ f ∈ extensionFunctions c.extensions, f.key = key ∧ n ∈ f.params) ↔
      HostsDeclare hosts key n := by
  constructor
  · rintro ⟨f, member, rfl, count⟩
    obtain ⟨row, here, inRow⟩ := List.mem_flatMap.mp member
    obtain ⟨items, listed, serves⟩ := represents.hostFunctions row here
    obtain ⟨entry, inItems, declared, declares, normalizes⟩ :=
      exists_right_of_forall₂ serves.flip inRow
    exact ⟨row.1, items, entry, declared, listed, inItems, declares, normalizes.key_eq.symm,
      (normalizes.counts n).mp count⟩
  · rintro ⟨host, items, entry, declared, listed, inItems, declares, rfl, count⟩
    obtain ⟨functions, here, serves⟩ := represents.exists_row listed
    obtain ⟨f, inRow, other, declaresOther, normalizes⟩ := exists_right_of_forall₂ serves inItems
    cases declares.unique declaresOther
    exact ⟨f, List.mem_flatMap.mpr ⟨_, here, inRow⟩, normalizes.key_eq,
      (normalizes.counts n).mpr count⟩

theorem Represents.functionsOfHost_eq (represents : Represents members entries hosts c)
    {host : String} {functions : List FunctionEntry} (here : (host, functions) ∈ c.extensions) :
    functionsOfHost c.extensions host = functions := by
  have found : Table.get? c.extensions host = some functions :=
    Table.Distinct.get?_of_mem represents.distinct here
  rw [functionsOfHost, show c.extensions.lookup host = some functions from found]
  rfl

theorem Represents.functionsOfHost_unknown (represents : Represents members entries hosts c)
    {host : String} (unknown : Json.member? host hosts = none) :
    functionsOfHost c.extensions host = [] := by
  have absent : host ∉ c.extensions.map Prod.fst := by
    rw [represents.sameHosts, mem_keys_iff]
    exact (member?_eq_none_iff host hosts).mp unknown
  have missing : Table.get? c.extensions host = none :=
    Table.get?_eq_none_of_notMem c.extensions host absent
  rw [functionsOfHost, show c.extensions.lookup host = none from missing]
  rfl

end

theorem exists_represents {text : String} {c : Catalog} (parsed : parse text = .ok c) :
    ∃ members entries hosts, Json.parse? text = some (.object members) ∧
      Represents members entries hosts c := by
  obtain ⟨document, decoded, read, passes, decodes, rfl⟩ := (parse_ok_iff text c).mp parsed
  obtain ⟨members, generatedAt, entries, hosts, rfl, shape⟩ := (flaw?_eq_none_iff _).mp passes
  exact ⟨members, entries, hosts, read, shape.represents decodes⟩

end Catalog

/-! ## Completion lists -/

namespace Candidate

/-- The candidate offers the function that the entry declares, with the entry's counts. -/
def OffersEntry (showNamespace : Bool) (entry : Json) (candidate : Candidate) : Prop :=
  ∃ declared, Catalog.Declares entry declared ∧
    OffersCall declared.key declared.HasArity showNamespace candidate

/-- The candidates that an extension call takes from the hosts of a document. -/
def OffersHosts (hosts : List (String × Json)) (showNamespace : Bool) :
    HostSelector → List Candidate → Prop
  | .all, offered => ∃ keys : List (Option String × String), keys.Nodup ∧
      (∀ key, key ∈ keys ↔ ∃ n, Catalog.HostsDeclare hosts key n) ∧
      List.Forall₂ (fun key => OffersCall key (Catalog.HostsDeclare hosts key) showNamespace)
        keys offered
  | .host name, offered =>
      (∀ items, Json.member? name hosts = some (.array items) →
        List.Forall₂ (OffersEntry showNamespace) items offered) ∧
      (Json.member? name hosts = none → offered = [])

theorem offersEntry_ofEntry {entry : Json} {f : FunctionEntry} (serves : Catalog.Serves entry f)
    (tier : SortTier) (showNamespace : Bool) :
    OffersEntry showNamespace entry (ofEntry f tier showNamespace) := by
  obtain ⟨declared, declares, normalizes⟩ := serves
  refine ⟨declared, declares, ?_⟩
  rw [← normalizes.key_eq]
  exact (offersCall_ofEntry f normalizes.normal tier showNamespace).congr normalizes.counts

theorem offersEntry_ofEntries {items : List Json} {functions : List FunctionEntry}
    (serves : List.Forall₂ Catalog.Serves items functions) (tier : SortTier)
    (options : ListOptions) :
    List.Forall₂ (OffersEntry options.showNamespaces) items (ofEntries functions tier options) := by
  rw [ofEntries, List.forall₂_map_right_iff]
  refine serves.imp ?_
  intro entry f served
  exact offersEntry_ofEntry served tier options.showNamespaces

theorem offersHosts_extensionEntries {members : List (String × Json)} {entries : List Json}
    {hosts : List (String × Json)} {loaded : LoadedCatalog}
    (represents : Catalog.Represents members entries hosts loaded.catalog)
    (selector : HostSelector) (tier : SortTier) (options : ListOptions) :
    OffersHosts hosts options.showNamespaces selector
      (ofEntries (extensionEntries loaded selector) tier options) := by
  cases selector with
  | all =>
      have indexed := Catalog.mergeDeclarations_indexOf
        (Catalog.extensionFunctions loaded.catalog.extensions)
      have merged : extensionEntries loaded .all =
          Catalog.mergeDeclarations (Catalog.extensionFunctions loaded.catalog.extensions) :=
        Store.merged_of_loaded loaded
      rw [merged]
      refine ⟨_, indexed.distinct, ?_, ?_⟩
      · intro key
        rw [indexed.mem_keys_iff, List.mem_map]
        constructor
        · rintro ⟨f, member, rfl⟩
          obtain ⟨n, count⟩ := List.exists_mem_of_ne_nil _ (represents.normal f member).nonempty
          exact ⟨n, (represents.hostsDeclare_iff _ n).mp ⟨f, member, rfl, count⟩⟩
        · rintro ⟨n, declared⟩
          obtain ⟨f, member, same, -⟩ := (represents.hostsDeclare_iff key n).mpr declared
          exact ⟨f, member, same⟩
      · rw [ofEntries, List.forall₂_map_left_iff, List.forall₂_map_right_iff, List.forall₂_same]
        intro entry member
        have gathers := indexed.gathers entry member
        have normal := indexed.normal represents.normal entry member
        refine (offersCall_ofEntry entry normal tier _).congr ?_
        intro n
        exact (gathers.counts n).trans (represents.hostsDeclare_iff entry.key n)
  | host name =>
      constructor
      · intro items listed
        obtain ⟨functions, here, serves⟩ := represents.exists_row listed
        rw [extensionEntries, represents.functionsOfHost_eq here]
        exact offersEntry_ofEntries serves tier options
      · intro unknown
        rw [extensionEntries, represents.functionsOfHost_unknown unknown]
        rfl

/-- The candidates that a loaded catalog gives show the counts that its text declares for them and
ask for the least one: at the top level those of the system functions, in an extension call also
those of one host or, for all hosts, one per namespace and name with the counts of all its
declarations. -/
theorem list_offers_declared_arities (text : String) (store : Store) (loaded : LoadedCatalog)
    (current : store.current = .ok loaded) (parsed : Catalog.parse text = .ok loaded.catalog)
    (users : List UserFunction) (options : ListOptions) :
    ∃ members entries hosts, Json.parse? text = some (.object members) ∧
      Json.member? "system" members = some (.array entries) ∧
      Json.member? "extensions" members = some (.object hosts) ∧
      (∃ system, list .topLevel store users options =
          keywords.map (fun (word, group) => ofKeyword word group) ++ system ++
            (if options.includeUserFunctions then users.map ofUserFunction else []) ∧
        List.Forall₂ (OffersEntry options.showNamespaces) entries system) ∧
      ∀ selector, ∃ offered system,
        list (.extensionCall selector) store users options = offered ++ system ∧
        List.Forall₂ (OffersEntry options.showNamespaces) entries system ∧
        (options.enableExtensions = false → offered = []) ∧
        (options.enableExtensions = true →
          OffersHosts hosts options.showNamespaces selector offered) := by
  obtain ⟨members, entries, hosts, read, represents⟩ := Catalog.exists_represents parsed
  have listed (context : Context) :
      list context store users options = listFor context loaded users options := by
    rw [list, current]
  refine ⟨members, entries, hosts, read, represents.system, represents.extensions, ?_, ?_⟩
  · exact ⟨_, listed .topLevel, offersEntry_ofEntries represents.systemFunctions .primary options⟩
  · intro selector
    refine ⟨_, _, listed (.extensionCall selector),
      offersEntry_ofEntries represents.systemFunctions .demoted options, ?_, ?_⟩
    · intro disabled
      rw [disabled]
      rfl
    · intro enabled
      rw [if_pos enabled]
      exact offersHosts_extensionEntries represents selector .primary options

/-- A function without counts, and one that two hosts declare with other counts. -/
def sharedCallText : String :=
  "\x7b\"generatedAt\":\"\",\"system\":[\x7b\"name\":\"now\",\"namespace\":null," ++
    "\"params\":[],\"async\":false,\"primarySync\":false\x7d],\"extensions\":\x7b\"a\":[" ++
    "\x7b\"name\":\"get$\",\"namespace\":\"net\",\"params\":[7,4],\"async\":true," ++
    "\"primarySync\":false\x7d],\"b\":[\x7b\"name\":\"get$\",\"namespace\":\"net\"," ++
    "\"params\":[4,2],\"async\":false,\"primarySync\":true\x7d]\x7d\x7d"

def sharedCallCatalog : LoadedCatalog where
  source := "c.json"
  catalog :=
    ⟨"", [⟨"now", none, [0], false, false⟩],
      [("a", [⟨"get$", some "net", [4, 7], true, false⟩]),
        ("b", [⟨"get$", some "net", [2, 4], false, true⟩])]⟩

def sharedCallStore : Store where
  paths := some ⟨"c.json", none⟩
  loaded := some sharedCallCatalog

theorem sharedCall_offers :
    sharedCallStore.current = .ok sharedCallCatalog ∧
      Catalog.parse sharedCallText = .ok sharedCallCatalog.catalog ∧
      ∃ hosts offered system,
        list (.extensionCall .all) sharedCallStore [] {} = offered ++ system ∧
        OffersHosts hosts true .all offered := by
  have current : sharedCallStore.current = .ok sharedCallCatalog := rfl
  have parsed : Catalog.parse sharedCallText = .ok sharedCallCatalog.catalog := by
    have served : (Catalog.parse sharedCallText).toOption = some sharedCallCatalog.catalog := by
      decide +kernel
    cases outcome : Catalog.parse sharedCallText with
    | error rejection =>
        rw [outcome] at served
        cases served
    | ok c =>
        rw [outcome] at served
        rw [Option.some.inj served]
  obtain ⟨members, entries, hosts, -, -, -, -, calls⟩ :=
    list_offers_declared_arities sharedCallText sharedCallStore sharedCallCatalog current parsed
      [] {}
  obtain ⟨offered, system, split, -, -, offers⟩ := calls .all
  exact ⟨current, parsed, hosts, offered, system, split, offers rfl⟩

example : (list (.extensionCall .all) sharedCallStore [] {}).map Candidate.insert =
    [some ("get\\$($\x7b1:arg1\x7d, $\x7b2:arg2\x7d)", .snippet),
      some ("now($0)", .snippet)] := by decide +kernel

end Candidate
end FluxonAssist
