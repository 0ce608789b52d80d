import FluxonAssist.Engine
import FluxonAssist.Proofs.CatalogNamespaces

/-!
# What each setting changes

Two lists of one place under settings that differ in one field are compared. The namespaces stand in
the details of catalog functions that have one and nowhere else; the functions of the document end a
top-level list and the extension functions begin the list of an extension call; and no list depends
on the catalog's path or the trace level. The sources of a list do not depend on whether namespaces
are shown, so both lists have the same items in the same places.
-/
set_option autoImplicit false
namespace FluxonAssist

/-- A place to complete at. -/
structure Place where
  uri : Uri
  line : List Char
  cursor : Nat
  kind : DocumentKind

def Place.context (place : Place) : Context := classify place.line place.cursor place.kind

def Engine.listAt (engine : Engine) (place : Place) (settings : Settings) : List Candidate :=
  { engine with settings }.complete place.uri place.line place.cursor place.kind

theorem Engine.listAt_eq {engine : Engine} {loaded : LoadedCatalog}
    (current : engine.store.current = .ok loaded) (place : Place) (settings : Settings) :
    engine.listAt place settings =
      Candidate.listFor place.context loaded (engine.cached place.uri) settings.listOptions := by
  show Candidate.list place.context engine.store (engine.cached place.uri) settings.listOptions = _
  rw [Candidate.list, current]

namespace Candidate

/-! ## Namespaces in details -/

/-- The catalog function that a candidate is made from. -/
def Source.entry? : Source → Option FunctionEntry
  | .primary f => some f
  | .demoted f => some f
  | _ => none

theorem joined_cons (separator text : String) {rest : List String} (more : rest ≠ []) :
    joined separator (text :: rest) = text ++ separator ++ joined separator rest := by
  cases rest with
  | nil => exact absurd rfl more
  | cons next rest => rfl

theorem entryDetail_spaced {f : FunctionEntry} {name : String}
    (spaced : f.namespaceName = some name) :
    entryDetail f true = "namespace: " ++ name ++ " | " ++ entryDetail f false := by
  unfold entryDetail
  rw [spaced]
  exact joined_cons " | " ("namespace: " ++ name) (by simp)

theorem ofEntry_spaced {f : FunctionEntry} {name : String} (spaced : f.namespaceName = some name)
    (tier : SortTier) :
    ofEntry f tier true =
      { ofEntry f tier false with
        detail := "namespace: " ++ name ++ " | " ++ (ofEntry f tier false).detail } := by
  unfold ofEntry
  rw [entryDetail_spaced spaced]

theorem ofEntry_unspaced {f : FunctionEntry} (unspaced : f.namespaceName = none)
    (tier : SortTier) : ofEntry f tier true = ofEntry f tier false := by
  unfold ofEntry entryDetail
  rw [unspaced]

theorem Source.candidate_spaced {source : Source} {f : FunctionEntry} {name : String}
    (made : source.entry? = some f) (spaced : f.namespaceName = some name) :
    source.candidate true =
      { source.candidate false with
        detail := "namespace: " ++ name ++ " | " ++ (source.candidate false).detail } := by
  cases source with
  | primary g =>
      cases made
      exact ofEntry_spaced spaced .primary
  | demoted g =>
      cases made
      exact ofEntry_spaced spaced .demoted
  | _ => cases made

theorem Source.candidate_unspaced {source : Source}
    (unspaced : ∀ f, source.entry? = some f → f.namespaceName = none) :
    source.candidate true = source.candidate false := by
  cases source with
  | primary f => exact ofEntry_unspaced (unspaced f rfl) .primary
  | demoted f => exact ofEntry_unspaced (unspaced f rfl) .demoted
  | _ => rfl

/-- The sources of a list do not depend on whether namespaces are shown. -/
theorem SourcesOf.unique {store : Store} {users : List UserFunction} {options others : ListOptions}
    {context : Context} {sources found : List Source}
    (made : SourcesOf store users options context sources)
    (again : SourcesOf store users others context found)
    (sameUsers : others.includeUserFunctions = options.includeUserFunctions)
    (sameExtensions : others.enableExtensions = options.enableExtensions) : found = sources := by
  cases made with
  | ignored =>
      cases again
      rfl
  | topLevel system known =>
      cases again with
      | topLevel again knownAgain =>
          rw [known] at knownAgain
          cases knownAgain
          rw [sameUsers]
  | everyHost merged system indexed known =>
      cases again with
      | everyHost others again indexedAgain knownAgain =>
          rw [known] at knownAgain
          rw [indexed] at indexedAgain
          cases knownAgain
          cases indexedAgain
          rw [sameExtensions]
  | oneHost host functions system listed known =>
      cases again with
      | oneHost _ others again listedAgain knownAgain =>
          rw [known] at knownAgain
          rw [listed] at listedAgain
          cases knownAgain
          cases listedAgain
          rw [sameExtensions]
  | singleColon =>
      cases again
      rfl
  | annotationName =>
      cases again
      rfl
  | importNamespace quote names known =>
      cases again with
      | importNamespace _ others knownAgain =>
          rw [known] at knownAgain
          cases knownAgain
          rfl

/-! ## Blocks of a list -/

theorem listFor_of_ne_topLevel {context : Context} (other : context ≠ .topLevel)
    (loaded : LoadedCatalog) (users : List UserFunction) (options : ListOptions)
    (included : Bool) :
    listFor context loaded users { options with includeUserFunctions := included } =
      listFor context loaded users options := by
  cases context with
  | topLevel => exact absurd rfl other
  | _ => rfl

theorem listFor_of_not_call {context : Context} (other : ∀ hosts, context ≠ .extensionCall hosts)
    (loaded : LoadedCatalog) (users : List UserFunction) (options : ListOptions) (enabled : Bool) :
    listFor context loaded users { options with enableExtensions := enabled } =
      listFor context loaded users options := by
  cases context with
  | extensionCall hosts => exact absurd rfl (other hosts)
  | _ => rfl

theorem listFor_topLevel_users (loaded : LoadedCatalog) (users : List UserFunction)
    (options : ListOptions) :
    listFor .topLevel loaded users { options with includeUserFunctions := true } =
      listFor .topLevel loaded users { options with includeUserFunctions := false } ++
        users.map ofUserFunction := by
  show _ ++ _ = (_ ++ []) ++ _
  rw [List.append_nil]
  rfl

theorem listFor_call_extensions (loaded : LoadedCatalog) (users : List UserFunction)
    (options : ListOptions) (hosts : HostSelector) :
    listFor (.extensionCall hosts) loaded users { options with enableExtensions := true } =
      (extensionEntries loaded hosts).map (fun f => ofEntry f .primary options.showNamespaces) ++
        listFor (.extensionCall hosts) loaded users { options with enableExtensions := false } :=
  rfl

theorem tier_of_mem_ofEntries {functions : List FunctionEntry} {tier : SortTier}
    {options : ListOptions} {candidate : Candidate}
    (member : candidate ∈ ofEntries functions tier options) : candidate.rank.tier = tier := by
  obtain ⟨f, -, rfl⟩ := List.mem_map.mp member
  rfl

theorem tier_of_mem_topLevel (loaded : LoadedCatalog) (users : List UserFunction)
    (options : ListOptions) {candidate : Candidate}
    (member : candidate ∈
      listFor .topLevel loaded users { options with includeUserFunctions := false }) :
    candidate.rank.tier ≠ .user := by
  rcases List.mem_append.mp member with front | none
  · rcases List.mem_append.mp front with word | entry
    · obtain ⟨row, -, rfl⟩ := List.mem_map.mp word
      exact SortTier.noConfusion
    · rw [tier_of_mem_ofEntries entry]
      exact SortTier.noConfusion
  · cases none

theorem tier_of_mem_call (loaded : LoadedCatalog) (users : List UserFunction)
    (options : ListOptions) (hosts : HostSelector) {candidate : Candidate}
    (member : candidate ∈
      listFor (.extensionCall hosts) loaded users { options with enableExtensions := false }) :
    candidate.rank.tier = .demoted := by
  rcases List.mem_append.mp member with none | entry
  · cases none
  · exact tier_of_mem_ofEntries entry

end Candidate

/-! ## Settings of an engine -/

/-- The extension functions that a store offers to a call. -/
def Store.offered (store : Store) : HostSelector → Except StoreError (List FunctionEntry)
  | .all => store.merged
  | .host name => store.functionsOfHost name

theorem Store.offered_eq {store : Store} {loaded : LoadedCatalog}
    (current : store.current = .ok loaded) (hosts : HostSelector) :
    store.offered hosts = .ok (Candidate.extensionEntries loaded hosts) := by
  cases hosts with
  | all =>
      rw [Store.offered, Store.merged, current]
      rfl
  | host name =>
      rw [Store.offered, Store.functionsOfHost, current]
      rfl

/-- The two lists under both choices of showing namespaces are made from the same sources. -/
theorem Engine.exists_sourcesOf_shown {engine : Engine} {loaded : LoadedCatalog}
    (current : engine.store.current = .ok loaded) (place : Place) :
    ∃ sources, Candidate.SourcesOf engine.store (engine.cached place.uri)
        engine.settings.listOptions place.context sources ∧
      ∀ shown, engine.listAt place { engine.settings with showNamespaces := shown } =
        sources.map (Candidate.Source.candidate shown) := by
  obtain ⟨sources, made, -⟩ := Candidate.exists_sourcesOf current place.context
    (engine.cached place.uri) engine.settings.listOptions
  refine ⟨sources, made, ?_⟩
  intro shown
  obtain ⟨found, again, listed⟩ := Candidate.exists_sourcesOf current place.context
    (engine.cached place.uri)
    { engine.settings with showNamespaces := shown : Settings }.listOptions
  rw [made.unique again rfl rfl] at listed
  exact listed

/-- Each setting changes what it is for. Whether namespaces are shown changes the details of catalog
functions that have one, and nothing else of any item. Whether user functions are included changes
top-level lists only, which have them at the end; whether extensions are enabled changes the lists
of extension calls only, which have them at the start. The catalog's path and the trace level change
no list. -/
theorem Engine.settings_act_apart (history : List (Disk × Store.Operation)) (engine : Engine)
    (reached : engine.store = Store.run {} history) (isLoaded : engine.store.isLoaded = true)
    (place : Place) :
    (∃ sources, Candidate.SourcesOf engine.store (engine.cached place.uri)
        engine.settings.listOptions place.context sources ∧
      (∀ shown, engine.listAt place { engine.settings with showNamespaces := shown } =
        sources.map (Candidate.Source.candidate shown)) ∧
      (∀ source ∈ sources, (∀ f, source.entry? = some f → f.namespaceName = none) →
        source.candidate true = source.candidate false) ∧
      ∀ source ∈ sources, ∀ f name, source.entry? = some f → f.namespaceName = some name →
        source.candidate true =
          { source.candidate false with
            detail := "namespace: " ++ name ++ " | " ++ (source.candidate false).detail }) ∧
    (place.context ≠ .topLevel → ∀ included,
      engine.listAt place { engine.settings with includeUserFunctions := included } =
        engine.listAt place engine.settings) ∧
    (place.context = .topLevel →
      engine.listAt place { engine.settings with includeUserFunctions := true } =
        engine.listAt place { engine.settings with includeUserFunctions := false } ++
          (engine.cached place.uri).map Candidate.ofUserFunction ∧
      ∀ candidate ∈ engine.listAt place { engine.settings with includeUserFunctions := false },
        candidate.rank.tier ≠ .user) ∧
    ((∀ hosts, place.context ≠ .extensionCall hosts) → ∀ enabled,
      engine.listAt place { engine.settings with enableExtensions := enabled } =
        engine.listAt place engine.settings) ∧
    (∀ hosts, place.context = .extensionCall hosts →
      ∃ functions, engine.store.offered hosts = .ok functions ∧
        engine.listAt place { engine.settings with enableExtensions := true } =
          functions.map
              (fun f => Candidate.ofEntry f .primary engine.settings.showNamespaces) ++
            engine.listAt place { engine.settings with enableExtensions := false } ∧
        ∀ candidate ∈ engine.listAt place { engine.settings with enableExtensions := false },
          candidate.rank.tier = .demoted) ∧
    ∀ path trace,
      engine.listAt place { engine.settings with catalogPath := path, trace := trace } =
        engine.listAt place engine.settings := by
  obtain ⟨loaded, current⟩ := Store.exists_current reached isLoaded
  obtain ⟨sources, made, listed⟩ := Engine.exists_sourcesOf_shown current place
  refine ⟨⟨sources, made, listed, ?_, ?_⟩, ?_, ?_, ?_, ?_, ?_⟩
  · intro source _ unspaced
    exact Candidate.Source.candidate_unspaced unspaced
  · intro source _ f name entry spaced
    exact Candidate.Source.candidate_spaced entry spaced
  · intro other included
    rw [Engine.listAt_eq current, Engine.listAt_eq current]
    exact Candidate.listFor_of_ne_topLevel other _ _ engine.settings.listOptions included
  · intro atTop
    rw [Engine.listAt_eq current, Engine.listAt_eq current, atTop]
    refine ⟨Candidate.listFor_topLevel_users _ _ engine.settings.listOptions, ?_⟩
    intro candidate member
    exact Candidate.tier_of_mem_topLevel loaded _ engine.settings.listOptions member
  · intro other enabled
    rw [Engine.listAt_eq current, Engine.listAt_eq current]
    exact Candidate.listFor_of_not_call other _ _ engine.settings.listOptions enabled
  · intro hosts called
    rw [Engine.listAt_eq current, Engine.listAt_eq current, called]
    refine ⟨_, Store.offered_eq current hosts,
      Candidate.listFor_call_extensions _ _ engine.settings.listOptions hosts, ?_⟩
    intro candidate member
    exact Candidate.tier_of_mem_call loaded _ engine.settings.listOptions hosts member
  · intro path trace
    rfl

/-- A document with one function, beside a catalog with system and extension functions. -/
def mixedEngine : Engine where
  store := spreadStore
  functions := [({ scheme := "file", path := "/a.fx" }, [⟨"add", 2, false, true, ⟨4, 0, 20⟩⟩])]

def wordPlace : Place := ⟨{ scheme := "file", path := "/a.fx" }, ['x'], 1, .source⟩

def callPlace : Place := ⟨{ scheme := "file", path := "/a.fx" }, ['p', ':', ':'], 3, .source⟩

theorem mixedEngine_settings :
    mixedEngine.store.isLoaded = true ∧ wordPlace.context = .topLevel ∧
      callPlace.context = .extensionCall .all ∧
      (mixedEngine.listAt wordPlace { mixedEngine.settings with includeUserFunctions := true } =
        mixedEngine.listAt wordPlace { mixedEngine.settings with includeUserFunctions := false } ++
          (mixedEngine.cached wordPlace.uri).map Candidate.ofUserFunction) ∧
      ∃ functions, mixedEngine.store.offered .all = .ok functions ∧
        mixedEngine.listAt callPlace { mixedEngine.settings with enableExtensions := true } =
          functions.map (fun f => Candidate.ofEntry f .primary true) ++
            mixedEngine.listAt callPlace { mixedEngine.settings with enableExtensions := false } := by
  have isLoaded : mixedEngine.store.isLoaded = true := rfl
  have word : wordPlace.context = .topLevel := by decide +kernel
  have call : callPlace.context = .extensionCall .all := by decide +kernel
  obtain ⟨-, -, users, -⟩ :=
    Engine.settings_act_apart _ mixedEngine spreadStore_reached isLoaded wordPlace
  obtain ⟨-, -, -, -, extensions, -⟩ :=
    Engine.settings_act_apart _ mixedEngine spreadStore_reached isLoaded callPlace
  obtain ⟨functions, offered, split, -⟩ := extensions .all call
  exact ⟨isLoaded, word, call, (users word).1, functions, offered, split⟩

example : (mixedEngine.listAt callPlace mixedEngine.settings).map Candidate.detail =
    ["namespace:  | params: [0, 2]", "namespace: Net | params: [0] | primarySync",
      "namespace: net | params: [1] | async", "params: [0]"] := by decide +kernel

end FluxonAssist
