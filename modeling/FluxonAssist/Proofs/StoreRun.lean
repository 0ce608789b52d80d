import Mathlib.Data.List.Sort
import FluxonAssist.Engine
import FluxonAssist.Proofs.ByteOrder
import FluxonAssist.Proofs.MergedIndex

/-!
# Runs of the catalog store

A run is a list of operations on a new store, each with the disk as it stands at that moment, so
files may come, go and change between any two of them. The answers of a store depend on two things
only: whether paths have been given, and which catalog is served from which path. The merged index
that a store may keep is not one of them. A load that fails keeps the served catalog, and a load
that succeeds replaces it by what it has just read; hence a store answers from the last success.
-/
set_option autoImplicit false
namespace FluxonAssist

open FluxonAssist.Text

/-- A path, or the fallback path if it is empty. -/
def orFallback (path fallback : String) : String := if path = "" then fallback else path

theorem prefer_eq {paths : CatalogPaths} {fallback : String}
    (given : paths.fallback = nonEmpty? fallback) (path : String) :
    paths.prefer path = { paths with preferred := orFallback path fallback } := by
  simp only [CatalogPaths.prefer, given, nonEmpty?, orFallback]
  by_cases empty : path = ""
  · by_cases missing : fallback = "" <;> simp [empty, missing]
  · simp [empty]

namespace Catalog

theorem namespacesOf_ascends (functions : List FunctionEntry) :
    (namespacesOf functions).Pairwise fun a b => octets a < octets b := by
  refine (ascending_sorted (functions.filterMap FunctionEntry.namespaceName)).imp ?_
  intro a b less
  exact (octets_lt_iff a b).mpr less

theorem mem_namespaces (catalog : Catalog) (name : String) :
    name ∈ catalog.namespaces ↔ (∃ f ∈ catalog.system, f.namespaceName = some name) ∨
      ∃ row ∈ catalog.extensions, ∃ f ∈ row.2, f.namespaceName = some name := by
  rw [namespaces, namespacesOf, mem_ascending, List.mem_filterMap,
    ← exists_extensionFunction_iff]
  simp only [List.mem_append, or_and_right, exists_or]

end Catalog

namespace Store

inductive Question where
  | isLoaded
  | sourcePath
  | catalog
  | systemFunctions
  | extensions
  | functionsOfHost (host : String)
  | merged
  | namespaces
  deriving DecidableEq, Repr

inductive Answer where
  | loaded (isLoaded : Bool)
  | path (source : Option String)
  | catalog (catalog : Catalog)
  | functions (functions : List FunctionEntry)
  | hosts (extensions : List (String × List FunctionEntry))
  | names (names : List String)
  deriving DecidableEq, Repr

def answer (store : Store) : Question → Except StoreError Answer
  | .isLoaded => .ok (.loaded store.isLoaded)
  | .sourcePath => .ok (.path store.sourcePath)
  | .catalog => store.catalog.map .catalog
  | .systemFunctions => store.systemFunctions.map .functions
  | .extensions => store.extensions.map .hosts
  | .functionsOfHost host => (store.functionsOfHost host).map .functions
  | .merged => store.merged.map .functions
  | .namespaces => store.namespaces.map .names

/-- The questions that only a loaded catalog can answer. -/
def Question.NeedsCatalog : Question → Prop
  | .isLoaded => False
  | .sourcePath => False
  | _ => True

/-- What one catalog, read from one path, has to say to a question. The functions of a host are
those of its first row, none for an unknown host; the namespaces are the ones that some function
has, each of them once. -/
inductive AnswersFrom (source : String) (catalog : Catalog) : Question → Answer → Prop where
  | isLoaded : AnswersFrom source catalog .isLoaded (.loaded true)
  | sourcePath : AnswersFrom source catalog .sourcePath (.path (some source))
  | catalog : AnswersFrom source catalog .catalog (.catalog catalog)
  | systemFunctions : AnswersFrom source catalog .systemFunctions (.functions catalog.system)
  | extensions : AnswersFrom source catalog .extensions (.hosts catalog.extensions)
  | functionsOfHost (host : String) :
      AnswersFrom source catalog (.functionsOfHost host)
        (.functions ((catalog.extensions.lookup host).getD []))
  | merged :
      AnswersFrom source catalog .merged
        (.functions (Catalog.mergeExtensions catalog.extensions))
  | namespaces (names : List String)
      (ascends : names.Pairwise fun a b => octets a < octets b)
      (known : ∀ name, name ∈ names ↔ (∃ f ∈ catalog.system, f.namespaceName = some name) ∨
        ∃ row ∈ catalog.extensions, ∃ f ∈ row.2, f.namespaceName = some name) :
      AnswersFrom source catalog .namespaces (.names names)

inductive LoadRequest where
  | start (preferred fallback : String)
  | reload (path : Option String)
  deriving DecidableEq, Repr

def load (store : Store) (disk : Disk) : LoadRequest → Except StoreError Unit × Store
  | .start preferred fallback => store.start disk preferred fallback
  | .reload path => store.reload disk path

inductive Operation where
  | load (request : LoadRequest)
  | ask (question : Question)
  deriving DecidableEq, Repr

/-- The store after an operation. Only the question for the merged index changes a store. -/
def after (store : Store) (disk : Disk) : Operation → Store
  | .load request => (store.load disk request).2
  | .ask .merged => store.keepIndex
  | .ask _ => store

/-- The store after operations in order, each with the disk of its moment. -/
def run (store : Store) : List (Disk × Operation) → Store
  | [] => store
  | (disk, operation) :: rest => run (store.after disk operation) rest

/-- The operation is a load that returns without an error. -/
def Succeeds (store : Store) (moment : Disk × Operation) : Prop :=
  ∃ request, moment.2 = .load request ∧ (store.load moment.1 request).1 = .ok ()

/-- The paths that a request loads from; none before the first start. -/
def pathsFor (store : Store) : LoadRequest → Option CatalogPaths
  | .start preferred fallback => some (.ofRequest preferred fallback)
  | .reload none => store.paths
  | .reload (some path) => store.paths.map fun paths => paths.prefer path

/-- The request reads this text from this path of the disk. -/
def Reads (store : Store) (disk : Disk) (request : LoadRequest) (path text : String) : Prop :=
  ∃ paths, store.pathsFor request = some paths ∧ paths.resolve disk = .ok path ∧
    disk.read path = .ok text

def SomeSucceeds (store : Store) (history : List (Disk × Operation)) : Prop :=
  ∃ before moment later, history = before ++ moment :: later ∧ Succeeds (run store before) moment

/-- The last load of a run that succeeds, between what is done before it and later. -/
structure LastLoad (store : Store) (history before : List (Disk × Operation)) (disk : Disk)
    (request : LoadRequest) (later : List (Disk × Operation)) : Prop where
  split : history = before ++ (disk, .load request) :: later
  succeeds : ((run store before).load disk request).1 = .ok ()
  last : ¬ SomeSucceeds ((run store before).load disk request).2 later

def Started (history : List (Disk × Operation)) : Prop :=
  ∃ disk preferred fallback, (disk, Operation.load (.start preferred fallback)) ∈ history

/-! ## What the answers depend on -/

/-- The path and the catalog that answers come from. -/
def served (store : Store) : Option (String × Catalog) :=
  store.loaded.map fun loaded => (loaded.source, loaded.catalog)

theorem merged_of_loaded (loaded : LoadedCatalog) :
    loaded.merged = Catalog.mergeExtensions loaded.catalog.extensions := by
  unfold LoadedCatalog.merged
  cases found : loaded.index with
  | none => rfl
  | some merged => exact loaded.index_eq merged found

theorem isLoaded_iff_served (store : Store) :
    store.isLoaded = true ↔ ∃ source catalog, store.served = some (source, catalog) := by
  cases found : store.loaded <;> simp [isLoaded, served, found]

/-- A store with paths and a catalog answers every question from that catalog. -/
theorem answer_of_served (store : Store) (source : String) (catalog : Catalog)
    (started : store.paths.isSome = true) (serves : store.served = some (source, catalog))
    (question : Question) :
    ∃ answer, store.answer question = .ok answer ∧ AnswersFrom source catalog question answer := by
  obtain ⟨paths, givenPaths⟩ := Option.isSome_iff_exists.mp started
  obtain ⟨loaded, found, same⟩ := Option.map_eq_some_iff.mp serves
  obtain ⟨rfl, rfl⟩ := Prod.mk.inj same
  have current : store.current = .ok loaded := by simp [Store.current, givenPaths, found]
  cases question with
  | isLoaded => exact ⟨_, by simp [answer, isLoaded, found], .isLoaded⟩
  | sourcePath => exact ⟨_, by simp [answer, sourcePath, found], .sourcePath⟩
  | catalog => exact ⟨_, by simp [answer, Store.catalog, current, Except.map], .catalog⟩
  | systemFunctions =>
      exact ⟨_, by simp [answer, systemFunctions, current, Except.map], .systemFunctions⟩
  | extensions => exact ⟨_, by simp [answer, extensions, current, Except.map], .extensions⟩
  | functionsOfHost host =>
      refine ⟨_, ?_, .functionsOfHost host⟩
      simp [answer, functionsOfHost, Catalog.functionsOfHost, current, Except.map]
  | merged =>
      exact ⟨_, by simp [answer, merged, current, Except.map, merged_of_loaded], .merged⟩
  | namespaces =>
      refine ⟨_, ?_, .namespaces loaded.catalog.namespaces (Catalog.namespacesOf_ascends _)
        (Catalog.mem_namespaces _)⟩
      simp [answer, namespaces, current, Except.map]

/-- A question has one answer only. -/
theorem AnswersFrom.unique {source : String} {catalog : Catalog} {question : Question}
    {a b : Answer} (first : AnswersFrom source catalog question a)
    (second : AnswersFrom source catalog question b) : a = b := by
  cases first with
  | namespaces names ascends known =>
      cases second with
      | namespaces others otherAscends otherKnown =>
          have sorted : names.Pairwise (· < ·) := ascends.imp (octets_lt_iff _ _).mp
          have otherSorted : others.Pairwise (· < ·) := otherAscends.imp (octets_lt_iff _ _).mp
          have members (name : String) : name ∈ names ↔ name ∈ others :=
            (known name).trans (otherKnown name).symm
          rw [sorted.eq_of_mem_iff otherSorted members]
  | _ =>
      cases second
      rfl

/-- Without a current catalog every question that needs one is answered by the same error. -/
theorem answer_of_current_error (store : Store) (error : StoreError)
    (current : store.current = .error error) (question : Question)
    (needs : question.NeedsCatalog) : store.answer question = .error error := by
  cases question with
  | isLoaded => exact False.elim needs
  | sourcePath => exact False.elim needs
  | catalog => simp [answer, Store.catalog, current, Except.map]
  | systemFunctions => simp [answer, systemFunctions, current, Except.map]
  | extensions => simp [answer, extensions, current, Except.map]
  | functionsOfHost host => simp [answer, functionsOfHost, current, Except.map]
  | merged => simp [answer, merged, current, Except.map]
  | namespaces => simp [answer, namespaces, current, Except.map]

theorem current_of_not_started (store : Store) (fresh : store.paths = none) :
    store.current = .error .notStarted := by
  simp [current, fresh]

theorem current_of_not_loaded (store : Store) (started : store.paths.isSome = true)
    (empty : store.isLoaded = false) : store.current = .error .notLoaded := by
  obtain ⟨paths, givenPaths⟩ := Option.isSome_iff_exists.mp started
  cases found : store.loaded with
  | none => simp [current, givenPaths, found]
  | some loaded => simp [isLoaded, found] at empty

theorem answer_of_loaded (store other : Store) (same : other.loaded = store.loaded)
    (question : Question) (needless : ¬ question.NeedsCatalog) :
    other.answer question = store.answer question := by
  cases question with
  | isLoaded => simp [answer, isLoaded, same]
  | sourcePath => simp [answer, sourcePath, same]
  | _ => exact absurd trivial needless

/-- Two stores that have paths and serve the same answer every question alike. -/
theorem answer_of_same_served (store other : Store) (started : store.paths.isSome = true)
    (otherStarted : other.paths.isSome = true) (same : other.served = store.served)
    (question : Question) : other.answer question = store.answer question := by
  cases serves : store.served with
  | some view =>
      obtain ⟨source, catalog⟩ := view
      obtain ⟨answer, given, right⟩ := answer_of_served store source catalog started serves question
      obtain ⟨otherAnswer, otherGiven, otherRight⟩ :=
        answer_of_served other source catalog otherStarted (same.trans serves) question
      rw [given, otherGiven, right.unique otherRight]
  | none =>
      have found : store.loaded = none := Option.map_eq_none_iff.mp serves
      have otherFound : other.loaded = none := Option.map_eq_none_iff.mp (same.trans serves)
      by_cases needs : question.NeedsCatalog
      · rw [answer_of_current_error store .notLoaded
            (current_of_not_loaded store started (by simp [isLoaded, found])) question needs,
          answer_of_current_error other .notLoaded
            (current_of_not_loaded other otherStarted (by simp [isLoaded, otherFound]))
            question needs]
      · exact answer_of_loaded store other (otherFound.trans found.symm) question needs

/-- A catalog is served only once paths have been given. -/
def Sound (store : Store) : Prop := store.isLoaded = true → store.paths.isSome = true

theorem Sound.started {store : Store} (sound : store.Sound) {source : String} {catalog : Catalog}
    (serves : store.served = some (source, catalog)) : store.paths.isSome = true :=
  sound ((isLoaded_iff_served store).mpr ⟨source, catalog, serves⟩)

theorem completions_of_not_loaded (store : Store) (empty : store.served = none)
    (context : Context) (users : List UserFunction) (options : ListOptions) :
    Candidate.list context store users options = [] := by
  have found : store.loaded = none := Option.map_eq_none_iff.mp empty
  cases given : store.paths <;> simp [Candidate.list, current, given, found]

/-- A completion list depends on the served catalog only. -/
theorem completions_of_served (store other : Store) (sound : store.Sound)
    (otherSound : other.Sound) (same : other.served = store.served) (context : Context)
    (users : List UserFunction) (options : ListOptions) :
    Candidate.list context other users options = Candidate.list context store users options := by
  cases serves : store.served with
  | none =>
      rw [completions_of_not_loaded store serves,
        completions_of_not_loaded other (same.trans serves)]
  | some view =>
      obtain ⟨source, catalog⟩ := view
      obtain ⟨paths, given⟩ := Option.isSome_iff_exists.mp (sound.started serves)
      obtain ⟨otherPaths, otherGiven⟩ :=
        Option.isSome_iff_exists.mp (otherSound.started (same.trans serves))
      obtain ⟨loaded, found, views⟩ := Option.map_eq_some_iff.mp serves
      obtain ⟨otherLoaded, otherFound, otherViews⟩ :=
        Option.map_eq_some_iff.mp (same.trans serves)
      have sameCatalog : otherLoaded.catalog = loaded.catalog :=
        congrArg Prod.snd (otherViews.trans views.symm)
      simp only [Candidate.list, current, given, otherGiven, found, otherFound]
      cases context with
      | extensionCall hosts =>
          cases hosts <;> simp [Candidate.listFor, Candidate.extensionList,
            Candidate.extensionEntries, merged_of_loaded, sameCatalog]
      | _ => simp [Candidate.listFor, Candidate.topLevelList, sameCatalog]

/-! ## One operation -/

theorem load_eq (store : Store) (disk : Disk) (request : LoadRequest) :
    store.load disk request =
      match store.pathsFor request with
      | none => (.error .notStarted, store)
      | some paths => store.loadFrom disk paths := by
  cases request with
  | start preferred fallback => rfl
  | reload path =>
      cases given : store.paths with
      | none => cases path <;> simp [load, reload, pathsFor, given]
      | some paths => cases path <;> simp [load, reload, pathsFor, given]

theorem reload_of_not_started (store : Store) (fresh : store.paths = none) (disk : Disk)
    (path : Option String) : store.reload disk path = (.error .notStarted, store) := by
  simp [reload, fresh]

theorem load_paths (store : Store) (disk : Disk) (request : LoadRequest) :
    (store.load disk request).2.paths = store.pathsFor request := by
  rw [load_eq]
  cases given : store.pathsFor request with
  | some paths => cases outcome : paths.load disk <;> simp [loadFrom, outcome]
  | none =>
      cases request with
      | start preferred fallback => simp [pathsFor] at given
      | reload path => cases path <;> simpa [pathsFor] using given

theorem paths_load_ok (paths : CatalogPaths) (disk : Disk) (loaded : LoadedCatalog)
    (succeeds : paths.load disk = .ok loaded) :
    ∃ text, paths.resolve disk = .ok loaded.source ∧ disk.read loaded.source = .ok text ∧
      Catalog.parse text = .ok loaded.catalog := by
  unfold CatalogPaths.load at succeeds
  cases resolved : paths.resolve disk with
  | error error => simp [resolved] at succeeds
  | ok path =>
      simp only [resolved] at succeeds
      cases contents : disk.read path with
      | error cause => simp [contents] at succeeds
      | ok text =>
          simp only [contents] at succeeds
          cases parsed : Catalog.parse text with
          | error reason => simp [parsed] at succeeds
          | ok catalog =>
              simp only [parsed, Except.ok.injEq] at succeeds
              subst loaded
              exact ⟨text, rfl, contents, parsed⟩

/-- A load that succeeds serves the catalog of the text it has read. -/
theorem load_succeeds (store : Store) (disk : Disk) (request : LoadRequest)
    (succeeds : (store.load disk request).1 = .ok ()) :
    ∃ path text catalog, store.Reads disk request path text ∧ Catalog.parse text = .ok catalog ∧
      (store.load disk request).2.served = some (path, catalog) := by
  rw [load_eq] at succeeds ⊢
  cases given : store.pathsFor request with
  | none => simp [given] at succeeds
  | some paths =>
      cases outcome : paths.load disk with
      | error error => simp [given, loadFrom, outcome] at succeeds
      | ok loaded =>
          obtain ⟨text, resolved, contents, parsed⟩ := paths_load_ok paths disk loaded outcome
          refine ⟨loaded.source, text, loaded.catalog, ⟨paths, given, resolved, contents⟩,
            parsed, ?_⟩
          simp [loadFrom, outcome, served]

/-- A load that fails leaves the loaded catalog, its kept index included, as it is. -/
theorem load_fails (store : Store) (disk : Disk) (request : LoadRequest) (error : StoreError)
    (fails : (store.load disk request).1 = .error error) :
    (store.load disk request).2.loaded = store.loaded := by
  rw [load_eq] at fails ⊢
  cases given : store.pathsFor request with
  | none => rfl
  | some paths =>
      cases outcome : paths.load disk with
      | error error => simp [loadFrom, outcome]
      | ok loaded => simp [given, loadFrom, outcome] at fails

theorem load_fails_served (store : Store) (disk : Disk) (request : LoadRequest)
    (error : StoreError) (fails : (store.load disk request).1 = .error error) :
    (store.load disk request).2.served = store.served := by
  simp only [served, load_fails store disk request error fails]

theorem pathsFor_isSome (store : Store) (request : LoadRequest) :
    (store.pathsFor request).isSome = true ↔
      store.paths.isSome = true ∨ ∃ preferred fallback, request = .start preferred fallback := by
  cases request with
  | start preferred fallback => simp [pathsFor]
  | reload path => cases path <;> simp [pathsFor]

theorem after_started (store : Store) (disk : Disk) (operation : Operation) :
    (store.after disk operation).paths.isSome = true ↔
      store.paths.isSome = true ∨
        ∃ preferred fallback, operation = .load (.start preferred fallback) := by
  cases operation with
  | load request => simp [after, load_paths, pathsFor_isSome]
  | ask question => cases question <;> simp [after, keepIndex]

theorem keepIndex_served (store : Store) : store.keepIndex.served = store.served := by
  cases found : store.loaded <;> simp [served, keepIndex, LoadedCatalog.withIndex, found]

theorem after_not_succeeds (store : Store) (disk : Disk) (operation : Operation)
    (unsuccessful : ¬ store.Succeeds (disk, operation)) :
    (store.after disk operation).served = store.served := by
  cases operation with
  | load request =>
      cases outcome : (store.load disk request).1 with
      | error error => exact load_fails_served store disk request error outcome
      | ok result => exact absurd ⟨request, rfl, outcome⟩ unsuccessful
  | ask question =>
      cases question with
      | merged => exact keepIndex_served store
      | _ => rfl

theorem load_sound (store : Store) (disk : Disk) (request : LoadRequest) (sound : store.Sound) :
    (store.load disk request).2.Sound := by
  intro isLoaded
  rw [load_paths, pathsFor_isSome]
  cases outcome : (store.load disk request).1 with
  | error error =>
      left
      apply sound
      simpa [Store.isLoaded, load_fails store disk request error outcome] using isLoaded
  | ok result =>
      -- without paths and without a start there is nothing to succeed with
      rw [load_eq] at outcome
      cases given : store.pathsFor request with
      | none => simp [given] at outcome
      | some paths => exact (pathsFor_isSome store request).mp (by simp [given])

theorem after_sound (store : Store) (disk : Disk) (operation : Operation) (sound : store.Sound) :
    (store.after disk operation).Sound := by
  cases operation with
  | load request => exact load_sound store disk request sound
  | ask question =>
      cases question with
      | merged =>
          intro isLoaded
          exact sound (by simpa [after, keepIndex, Store.isLoaded] using isLoaded)
      | _ => exact sound

theorem isLoaded_after_iff (store : Store) (disk : Disk) (operation : Operation) :
    (store.after disk operation).isLoaded = true ↔
      store.isLoaded = true ∨ store.Succeeds (disk, operation) := by
  by_cases success : store.Succeeds (disk, operation)
  · obtain ⟨request, same, succeeds⟩ := success
    cases same
    obtain ⟨path, text, catalog, -, -, serves⟩ := load_succeeds store disk request succeeds
    have isLoaded := (isLoaded_iff_served _).mpr ⟨path, catalog, serves⟩
    exact iff_of_true isLoaded (Or.inr ⟨request, rfl, succeeds⟩)
  · rw [isLoaded_iff_served, isLoaded_iff_served, after_not_succeeds store disk operation success]
    exact (or_iff_left success).symm

/-! ## Whole runs -/

theorem run_append (store : Store) (before later : List (Disk × Operation)) :
    run store (before ++ later) = run (run store before) later := by
  induction before generalizing store with
  | nil => rfl
  | cons moment rest ih => exact ih (store.after moment.1 moment.2)

theorem run_started (store : Store) (history : List (Disk × Operation)) :
    (run store history).paths.isSome = true ↔ store.paths.isSome = true ∨ Started history := by
  induction history generalizing store with
  | nil => simp [run, Started]
  | cons moment rest ih =>
      obtain ⟨disk, operation⟩ := moment
      rw [run, ih, after_started, or_assoc]
      apply or_congr Iff.rfl
      constructor
      · rintro (⟨preferred, fallback, rfl⟩ | ⟨other, preferred, fallback, member⟩)
        · exact ⟨disk, preferred, fallback, List.mem_cons_self ..⟩
        · exact ⟨other, preferred, fallback, List.mem_cons_of_mem _ member⟩
      · rintro ⟨other, preferred, fallback, member⟩
        rcases List.mem_cons.mp member with same | member
        · exact Or.inl ⟨preferred, fallback, (congrArg Prod.snd same).symm⟩
        · exact Or.inr ⟨other, preferred, fallback, member⟩

theorem run_sound (store : Store) (history : List (Disk × Operation)) (sound : store.Sound) :
    (run store history).Sound := by
  induction history generalizing store with
  | nil => exact sound
  | cons moment rest ih => exact ih _ (after_sound store moment.1 moment.2 sound)

theorem someSucceeds_cons (store : Store) (disk : Disk) (operation : Operation)
    (rest : List (Disk × Operation)) :
    store.SomeSucceeds ((disk, operation) :: rest) ↔
      store.Succeeds (disk, operation) ∨ (store.after disk operation).SomeSucceeds rest := by
  constructor
  · rintro ⟨before, moment, later, split, success⟩
    cases before with
    | nil =>
        obtain ⟨rfl, rfl⟩ := List.cons.inj split
        exact Or.inl success
    | cons first before =>
        obtain ⟨rfl, tailSplit⟩ := List.cons.inj split
        exact Or.inr ⟨before, moment, later, tailSplit, success⟩
  · rintro (success | ⟨before, moment, later, rfl, success⟩)
    · exact ⟨[], (disk, operation), rest, rfl, success⟩
    · exact ⟨(disk, operation) :: before, moment, later, rfl, success⟩

theorem run_isLoaded_iff (store : Store) (history : List (Disk × Operation)) :
    (run store history).isLoaded = true ↔
      store.isLoaded = true ∨ store.SomeSucceeds history := by
  induction history generalizing store with
  | nil => simp [run, SomeSucceeds]
  | cons moment rest ih =>
      obtain ⟨disk, operation⟩ := moment
      rw [run, ih, isLoaded_after_iff, someSucceeds_cons, or_assoc]

theorem run_served_of_none_succeeds (store : Store) (history : List (Disk × Operation))
    (unsuccessful : ¬ store.SomeSucceeds history) :
    (run store history).served = store.served := by
  induction history generalizing store with
  | nil => rfl
  | cons moment rest ih =>
      obtain ⟨disk, operation⟩ := moment
      rw [someSucceeds_cons, not_or] at unsuccessful
      rw [run, ih _ unsuccessful.2, after_not_succeeds store disk operation unsuccessful.1]

theorem exists_lastLoad (store : Store) (history : List (Disk × Operation))
    (success : store.SomeSucceeds history) :
    ∃ before disk request later, store.LastLoad history before disk request later := by
  induction history generalizing store with
  | nil =>
      obtain ⟨before, moment, later, split, -⟩ := success
      simp at split
  | cons moment rest ih =>
      obtain ⟨disk, operation⟩ := moment
      by_cases laterSuccess : (store.after disk operation).SomeSucceeds rest
      · obtain ⟨before, other, request, later, found⟩ := ih _ laterSuccess
        refine ⟨(disk, operation) :: before, other, request, later, ?_, found.succeeds, found.last⟩
        rw [found.split]
        rfl
      · obtain ⟨request, same, succeeds⟩ :=
          ((someSucceeds_cons store disk operation rest).mp success).resolve_right laterSuccess
        cases same
        exact ⟨[], disk, request, rest, rfl, succeeds, laterSuccess⟩

/-- What a store serves is what the last successful load has read. -/
theorem LastLoad.served_eq {store : Store} {history before later : List (Disk × Operation)}
    {disk : Disk} {request : LoadRequest}
    (found : store.LastLoad history before disk request later) :
    ∃ path text catalog, (run store before).Reads disk request path text ∧
      Catalog.parse text = .ok catalog ∧ (run store history).served = some (path, catalog) := by
  obtain ⟨path, text, catalog, reads, parsed, serves⟩ :=
    load_succeeds (run store before) disk request found.succeeds
  refine ⟨path, text, catalog, reads, parsed, ?_⟩
  rw [found.split, run_append, run]
  exact (run_served_of_none_succeeds _ later found.last).trans serves

end Store

def Engine.load (engine : Engine) (disk : Disk) :
    Store.LoadRequest → Except StoreError Unit × Engine
  | .start preferred fallback => engine.startCatalog disk preferred fallback
  | .reload path => engine.reloadCatalog disk path

theorem Engine.load_eq (engine : Engine) (disk : Disk) (request : Store.LoadRequest) :
    engine.load disk request =
      ((engine.store.load disk request).1,
        { engine with store := (engine.store.load disk request).2 }) := by
  cases request <;> rfl

/-- A failed load leaves every completion list of an engine as it was. -/
theorem Engine.complete_of_failed_load (engine : Engine) (disk : Disk)
    (request : Store.LoadRequest) (error : StoreError) (sound : engine.store.Sound)
    (fails : (engine.load disk request).1 = .error error) (uri : Uri) (line : List Char)
    (cursor : Nat) (kind : DocumentKind) :
    (engine.load disk request).2.complete uri line cursor kind =
      engine.complete uri line cursor kind := by
  rw [Engine.load_eq] at fails ⊢
  exact Store.completions_of_served engine.store _ sound
    (Store.load_sound engine.store disk request sound)
    (Store.load_fails_served engine.store disk request error fails) _ _ _

namespace Store

/-- In every run of a new store a catalog is there as soon as one load has succeeded, and all
answers then come from the text that the last successful load has read. A load that fails changes
no completion list and, unless it is the first start, no answer; before the first start and before
the first success the questions for a catalog fail with their own errors. -/
theorem run_answers_from_last_load (history : List (Disk × Operation)) :
    ((run {} history).isLoaded = true ↔ SomeSucceeds {} history) ∧
    ((run {} history).isLoaded = true →
      ∃ before disk request later path text catalog,
        LastLoad {} history before disk request later ∧
        (run {} before).Reads disk request path text ∧
        Catalog.parse text = .ok catalog ∧
        ∀ question, ∃ answer, (run {} history).answer question = .ok answer ∧
          AnswersFrom path catalog question answer) ∧
    (∀ disk request error, ((run {} history).load disk request).1 = .error error →
      ∀ question, Started history ∨ (∃ path, request = .reload path) ∨ ¬ question.NeedsCatalog →
        ((run {} history).load disk request).2.answer question =
          (run {} history).answer question) ∧
    (∀ (engine : Engine) disk request error, engine.store = run {} history →
      (engine.load disk request).1 = .error error →
      ∀ uri line cursor kind,
        (engine.load disk request).2.complete uri line cursor kind =
          engine.complete uri line cursor kind) ∧
    (¬ Started history →
      (∀ question, question.NeedsCatalog →
        (run {} history).answer question = .error .notStarted) ∧
      ∀ disk path, ((run {} history).reload disk path).1 = .error .notStarted) ∧
    (Started history → ¬ SomeSucceeds {} history →
      ∀ question, question.NeedsCatalog →
        (run {} history).answer question = .error .notLoaded) := by
  have sound : (run {} history).Sound := run_sound {} history (by simp [Sound, isLoaded])
  have startedIff : (run {} history).paths.isSome = true ↔ Started history := by
    rw [run_started]
    simp
  have loadedIff : (run {} history).isLoaded = true ↔ SomeSucceeds {} history := by
    rw [run_isLoaded_iff]
    simp [isLoaded]
  have noPaths : ¬ Started history → (run {} history).paths = none := by
    intro fresh
    rw [← Option.not_isSome_iff_eq_none, startedIff]
    exact fresh
  refine ⟨loadedIff, ?_, ?_, ?_, ?_, ?_⟩
  · intro loaded
    obtain ⟨before, disk, request, later, found⟩ := exists_lastLoad {} history (loadedIff.mp loaded)
    obtain ⟨path, text, catalog, reads, parsed, serves⟩ := found.served_eq
    refine ⟨before, disk, request, later, path, text, catalog, found, reads, parsed, ?_⟩
    exact answer_of_served _ path catalog (sound loaded) serves
  · intro disk request error fails question applies
    by_cases started : Started history
    · have given := startedIff.mpr started
      refine answer_of_same_served _ _ given ?_ (load_fails_served _ disk request error fails) _
      rw [load_paths, pathsFor_isSome]
      exact Or.inl given
    · rcases applies.resolve_left started with ⟨path, rfl⟩ | needless
      · rw [load, reload_of_not_started _ (noPaths started)]
      · exact answer_of_loaded _ _ (load_fails _ disk request error fails) question needless
  · intro engine disk request error same fails
    exact Engine.complete_of_failed_load engine disk request error (same ▸ sound) fails
  · intro fresh
    refine ⟨answer_of_current_error _ _ (current_of_not_started _ (noPaths fresh)), ?_⟩
    intro disk path
    rw [reload_of_not_started _ (noPaths fresh)]
  · intro started unsuccessful
    apply answer_of_current_error
    apply current_of_not_loaded _ (startedIff.mpr started)
    rw [← Bool.not_eq_true, loadedIff]
    exact unsuccessful

def oneFile (path text : String) : Disk where
  has := fun other => other == path
  read := fun other => if other = path then .ok text else .error .missing

theorem index_none_eq (catalog : Catalog) (merged : List FunctionEntry)
    (found : none = some merged) : merged = Catalog.mergeExtensions catalog.extensions := by
  cases found

/-- A store that has read its catalog from the path it was started with. -/
def startedFrom (path : String) (catalog : Catalog) : Store where
  paths := some ⟨path, none⟩
  loaded := some { source := path, catalog, index_eq := index_none_eq catalog }

theorem run_oneFile (path text : String) (named : path ≠ "") {c : Catalog}
    (parsed : (Catalog.parse text).toOption = some c) :
    run {} [(oneFile path text, .load (.start path ""))] = startedFrom path c := by
  cases outcome : Catalog.parse text with
  | error rejection =>
      rw [outcome] at parsed
      cases parsed
  | ok other =>
      rw [outcome] at parsed
      cases parsed
      simp [run, after, load, start, loadFrom, CatalogPaths.load, CatalogPaths.resolve,
        CatalogPaths.ofRequest, CatalogPaths.prefer, nonEmpty?, named, oneFile, startedFrom,
        outcome]

end Store

/-- A namespace of the system functions, and two of the host types, of which one is empty and shared
by both. -/
def spreadText : String :=
  "\x7b\"generatedAt\":\"\",\"system\":[\x7b\"name\":\"fetch\",\"namespace\":\"net\"," ++
    "\"params\":[1],\"async\":true,\"primarySync\":false\x7d,\x7b\"name\":\"now\"," ++
    "\"namespace\":null,\"params\":[],\"async\":false,\"primarySync\":false\x7d]," ++
    "\"extensions\":\x7b\"b\":[\x7b\"name\":\"send\",\"namespace\":\"\",\"params\":[]," ++
    "\"async\":false,\"primarySync\":false\x7d],\"a\":[\x7b\"name\":\"kick\"," ++
    "\"namespace\":\"Net\",\"params\":[0],\"async\":false,\"primarySync\":true\x7d," ++
    "\x7b\"name\":\"send\",\"namespace\":\"\",\"params\":[2],\"async\":false," ++
    "\"primarySync\":false\x7d]\x7d\x7d"

def spread : Catalog where
  generatedAt := ""
  system := [⟨"fetch", some "net", [1], true, false⟩, ⟨"now", none, [0], false, false⟩]
  extensions :=
    [("b", [⟨"send", some "", [0], false, false⟩]),
      ("a", [⟨"kick", some "Net", [0], false, true⟩, ⟨"send", some "", [2], false, false⟩])]

theorem spread_parsed : (Catalog.parse spreadText).toOption = some spread := by
  rw [Catalog.parse, Json.parse?]
  -- the characters are taken from the literals; decoding their octets would take the kernel seconds
  generalize chars : spreadText.toList = cs
  delta spreadText at chars
  simp only [String.toList_append] at chars
  repeat rw [String.toList_ofList] at chars
  subst chars
  decide +kernel

namespace Store

/-- A run with a success, a question for the merged index and a reload after the file is gone. -/
def interruptedRun : List (Disk × Operation) :=
  [(oneFile "c.json" spreadText, .load (.start "c.json" "")),
    (oneFile "c.json" "", .ask .merged),
    (oneFile "e.json" "", .load (.reload none))]

theorem interruptedRun_answers :
    (run {} interruptedRun).isLoaded = true ∧
      (run {} interruptedRun).answer (.functionsOfHost "b") =
        .ok (.functions [⟨"send", some "", [0], false, false⟩]) ∧
      (run {} interruptedRun).answer .namespaces = .ok (.names ["", "Net", "net"]) ∧
      ∃ before disk request later path text catalog,
        LastLoad {} interruptedRun before disk request later ∧
        (run {} before).Reads disk request path text ∧
        Catalog.parse text = .ok catalog ∧
        ∀ question, ∃ answer, (run {} interruptedRun).answer question = .ok answer ∧
          AnswersFrom path catalog question answer := by
  have reached : run {} interruptedRun =
      run (startedFrom "c.json" spread)
        [(oneFile "c.json" "", .ask .merged), (oneFile "e.json" "", .load (.reload none))] := by
    rw [← run_oneFile "c.json" spreadText (by decide) spread_parsed, ← run_append]
    rfl
  have loaded : (run {} interruptedRun).isLoaded = true := by
    rw [reached]
    rfl
  refine ⟨loaded, ?_, ?_, (run_answers_from_last_load interruptedRun).2.1 loaded⟩
  · rw [reached]
    rfl
  · rw [reached]
    show Except.ok (Answer.names spread.namespaces) = _
    exact congrArg (fun names => Except.ok (Answer.names names)) (by decide)

end Store
end FluxonAssist
