import FluxonAssist.Proofs.StoreRun

/-!
# The outcome of a load

What a load does is settled by two paths and the disk: the path that was requested last, by a start
or by a reload with a path, and the fallback of the last start, for which an empty path stands.
Whether the operations that gave them failed makes no difference. One file is tried at most, and
what becomes of it is the outcome.
-/
set_option autoImplicit false
namespace FluxonAssist
namespace Store

def LoadRequest.path? : LoadRequest → Option String
  | .start preferred _ => some preferred
  | .reload path => path

def LoadRequest.fallback? : LoadRequest → Option String
  | .start _ fallback => some fallback
  | .reload _ => none

def Operation.request? : Operation → Option LoadRequest
  | .load request => some request
  | .ask _ => none

def requests (history : List (Disk × Operation)) : List LoadRequest :=
  history.filterMap fun moment => moment.2.request?

def lastPath (made : List LoadRequest) : Option String :=
  (made.filterMap LoadRequest.path?).getLast?

def lastFallback (made : List LoadRequest) : Option String :=
  (made.filterMap LoadRequest.fallback?).getLast?

/-- The preferred path and the fallback that requests leave behind them. -/
def asked (made : List LoadRequest) : Option (String × String) := do
  let fallback ← lastFallback made
  let path ← lastPath made
  return (if path = "" then fallback else path, fallback)

/-- The one file that a load tries: the preferred one if it exists, else the fallback if one is
given and exists. -/
def Tries (disk : Disk) (preferred fallback path : String) : Prop :=
  if disk.has preferred then path = preferred
  else fallback ≠ "" ∧ disk.has fallback = true ∧ path = fallback

/-- The outcomes of a load with two paths. -/
inductive Attempt (disk : Disk) (preferred fallback : String) :
    Except StoreError Unit × Store → Prop
  | notFound (store : Store) (none : ∀ path, ¬ Tries disk preferred fallback path) :
      Attempt disk preferred fallback (.error (.fileNotFound preferred), store)
  | unreadable (store : Store) (path : String) (cause : ReadFailure)
      (tried : Tries disk preferred fallback path) (fails : disk.read path = .error cause) :
      Attempt disk preferred fallback (.error (.unreadable path cause), store)
  | invalid (store : Store) (path text : String) (reason : Catalog.Rejection)
      (tried : Tries disk preferred fallback path) (read : disk.read path = .ok text)
      (rejected : Catalog.parse text = .error reason) :
      Attempt disk preferred fallback (.error (.invalidSchema path reason), store)
  | loaded (store : Store) (path text : String) (catalog : Catalog)
      (tried : Tries disk preferred fallback path) (read : disk.read path = .ok text)
      (parsed : Catalog.parse text = .ok catalog) (source : store.sourcePath = some path)
      (serves : store.catalog = .ok catalog) :
      Attempt disk preferred fallback (.ok (), store)

/-! ## The paths of a store -/

theorem exists_lastPath {made : List LoadRequest} {fallback : String}
    (given : lastFallback made = some fallback) : ∃ path, lastPath made = some path := by
  obtain ⟨request, member, gives⟩ := List.mem_filterMap.mp (List.mem_of_getLast? given)
  cases request with
  | reload path => cases gives
  | start preferred other =>
      have listed : preferred ∈ made.filterMap LoadRequest.path? :=
        List.mem_filterMap.mpr ⟨_, member, rfl⟩
      exact Option.isSome_iff_exists.mp (List.getLast?_isSome.mpr (List.ne_nil_of_mem listed))

theorem asked_of_fallback {made : List LoadRequest} {path fallback : String}
    (last : lastPath made = some path) (given : lastFallback made = some fallback) :
    asked made = some (orFallback path fallback, fallback) := by
  rw [asked, given, last]
  rfl

theorem asked_eq_none_iff (made : List LoadRequest) :
    asked made = none ↔ ∀ preferred fallback, LoadRequest.start preferred fallback ∉ made := by
  constructor
  · intro nothing preferred fallback member
    have listed : fallback ∈ made.filterMap LoadRequest.fallback? :=
      List.mem_filterMap.mpr ⟨_, member, rfl⟩
    obtain ⟨other, given⟩ := Option.isSome_iff_exists.mp
      (List.getLast?_isSome.mpr (List.ne_nil_of_mem listed))
    obtain ⟨path, last⟩ := exists_lastPath given
    rw [asked_of_fallback last given] at nothing
    cases nothing
  · intro fresh
    have nothing : lastFallback made = none := by
      cases given : lastFallback made with
      | none => rfl
      | some fallback =>
          obtain ⟨request, member, gives⟩ := List.mem_filterMap.mp (List.mem_of_getLast? given)
          cases request with
          | reload path => cases gives
          | start preferred other => exact absurd member (fresh preferred other)
    rw [asked, nothing]
    rfl

theorem asked_start (made : List LoadRequest) (preferred fallback : String) :
    asked (made ++ [.start preferred fallback]) =
      some (orFallback preferred fallback, fallback) := by
  apply asked_of_fallback
  · simp [lastPath, LoadRequest.path?]
  · simp [lastFallback, LoadRequest.fallback?]

theorem asked_reload_none (made : List LoadRequest) :
    asked (made ++ [.reload none]) = asked made := by
  simp [asked, lastPath, lastFallback, LoadRequest.path?, LoadRequest.fallback?]

theorem asked_reload_some (made : List LoadRequest) (path : String) :
    asked (made ++ [.reload (some path)]) =
      (asked made).map fun want => (orFallback path want.2, want.2) := by
  have last : lastPath (made ++ [.reload (some path)]) = some path := by
    simp [lastPath, LoadRequest.path?]
  have same : lastFallback (made ++ [.reload (some path)]) = lastFallback made := by
    simp [lastFallback, LoadRequest.fallback?]
  cases given : lastFallback made with
  | none =>
      rw [asked, asked, same, given]
      rfl
  | some fallback =>
      obtain ⟨other, found⟩ := exists_lastPath given
      rw [asked_of_fallback last (same.trans given), asked_of_fallback found given]
      rfl

/-- The paths that a store keeps for what it was asked. -/
def pathsOf (want : String × String) : CatalogPaths := ⟨want.1, nonEmpty? want.2⟩

theorem prefer_pathsOf (want : String × String) (path : String) :
    (pathsOf want).prefer path = pathsOf (orFallback path want.2, want.2) :=
  prefer_eq rfl path

theorem ofRequest_eq (preferred fallback : String) :
    CatalogPaths.ofRequest preferred fallback =
      pathsOf (orFallback preferred fallback, fallback) :=
  prefer_eq rfl preferred

/-- A request loads from the paths that it and the requests before it ask for. -/
theorem pathsFor_eq {store : Store} {made : List LoadRequest}
    (keeps : store.paths = (asked made).map pathsOf) (request : LoadRequest) :
    store.pathsFor request = (asked (made ++ [request])).map pathsOf := by
  cases request with
  | start preferred fallback =>
      rw [asked_start, pathsFor, ofRequest_eq]
      rfl
  | reload path =>
      cases path with
      | none => rw [asked_reload_none, pathsFor, keeps]
      | some path =>
          rw [asked_reload_some, pathsFor, keeps, Option.map_map, Option.map_map]
          congr 1
          funext want
          exact prefer_pathsOf want path

theorem after_paths {store : Store} {made : List LoadRequest}
    (keeps : store.paths = (asked made).map pathsOf) (disk : Disk) (operation : Operation) :
    (store.after disk operation).paths =
      (asked (made ++ operation.request?.toList)).map pathsOf := by
  cases operation with
  | load request => exact (load_paths store disk request).trans (pathsFor_eq keeps request)
  | ask question =>
      have same : (store.after disk (.ask question)).paths = store.paths := by
        cases question <;> rfl
      rw [same, keeps]
      simp [Operation.request?]

theorem run_paths (store : Store) (made : List LoadRequest)
    (keeps : store.paths = (asked made).map pathsOf) (history : List (Disk × Operation)) :
    (run store history).paths = (asked (made ++ requests history)).map pathsOf := by
  -- requests count whether or not they succeed, so the list of them grows with every step
  induction history generalizing store made with
  | nil =>
      rw [run, requests, List.filterMap_nil, List.append_nil]
      exact keeps
  | cons moment rest ih =>
      obtain ⟨disk, operation⟩ := moment
      rw [run, ih _ _ (after_paths keeps disk operation), List.append_assoc]
      congr 3
      cases operation <;> rfl

/-! ## One attempt -/

theorem resolve_pathsOf_cases (disk : Disk) (preferred fallback : String) :
    (∃ path, (pathsOf (preferred, fallback)).resolve disk = .ok path ∧
      Tries disk preferred fallback path) ∨
    ((pathsOf (preferred, fallback)).resolve disk = .error (.fileNotFound preferred) ∧
      ∀ path, ¬ Tries disk preferred fallback path) := by
  unfold CatalogPaths.resolve Tries
  cases here : disk.has preferred with
  | true => exact .inl ⟨preferred, by simp [pathsOf, here], by simp⟩
  | false =>
      by_cases bare : fallback = ""
      · exact .inr ⟨by simp [pathsOf, here, nonEmpty?, bare], by simp [bare]⟩
      · cases there : disk.has fallback with
        | true =>
            refine .inl ⟨fallback, ?_, by simp [bare]⟩
            simp [pathsOf, here, nonEmpty?, bare, there]
        | false =>
            refine .inr ⟨?_, by simp⟩
            simp [pathsOf, here, nonEmpty?, bare, there]

theorem loadFrom_attempt (store : Store) (disk : Disk) (preferred fallback : String) :
    Attempt disk preferred fallback (store.loadFrom disk (pathsOf (preferred, fallback))) := by
  rcases resolve_pathsOf_cases disk preferred fallback with
    ⟨path, resolved, tried⟩ | ⟨unresolved, none⟩
  · cases contents : disk.read path with
    | error cause =>
        have fails : (pathsOf (preferred, fallback)).load disk =
            .error (.unreadable path cause) := by
          simp only [CatalogPaths.load, resolved, contents]
        simp only [loadFrom, fails]
        exact .unreadable _ path cause tried contents
    | ok text =>
        cases parsed : Catalog.parse text with
        | error reason =>
            have fails : (pathsOf (preferred, fallback)).load disk =
                .error (.invalidSchema path reason) := by
              simp only [CatalogPaths.load, resolved, contents, parsed]
            simp only [loadFrom, fails]
            exact .invalid _ path text reason tried contents parsed
        | ok catalog =>
            have succeeds : (pathsOf (preferred, fallback)).load disk =
                .ok { source := path, catalog } := by
              simp only [CatalogPaths.load, resolved, contents, parsed]
            simp only [loadFrom, succeeds]
            exact .loaded _ path text catalog tried contents parsed rfl rfl
  · have fails : (pathsOf (preferred, fallback)).load disk =
        .error (.fileNotFound preferred) := by
      simp only [CatalogPaths.load, unresolved]
    simp only [loadFrom, fails]
    exact .notFound _ none

theorem load_attempt {store : Store} {made : List LoadRequest}
    (keeps : store.paths = (asked made).map pathsOf) (disk : Disk) (request : LoadRequest)
    {preferred fallback : String}
    (want : asked (made ++ [request]) = some (preferred, fallback)) :
    Attempt disk preferred fallback (store.load disk request) := by
  rw [load_eq, pathsFor_eq keeps, want]
  exact loadFrom_attempt store disk preferred fallback

theorem load_of_nothing_asked {store : Store} {made : List LoadRequest}
    (keeps : store.paths = (asked made).map pathsOf) (disk : Disk) (request : LoadRequest)
    (nothing : asked (made ++ [request]) = none) :
    (store.load disk request).1 = .error .notStarted := by
  rw [load_eq, pathsFor_eq keeps, nothing]
  rfl

theorem loadFrom_determined (store other : Store) (disk : Disk) (paths : CatalogPaths) :
    (other.loadFrom disk paths).1 = (store.loadFrom disk paths).1 ∧
      ((store.loadFrom disk paths).1 = .ok () →
        (other.loadFrom disk paths).2 = (store.loadFrom disk paths).2) := by
  unfold loadFrom
  cases paths.load disk with
  | ok loaded => exact ⟨rfl, fun _ => rfl⟩
  | error error => exact ⟨rfl, fun succeeds => by cases succeeds⟩

theorem load_of_same_pathsFor {store : Store} {request other : LoadRequest}
    (same : store.pathsFor other = store.pathsFor request) (disk : Disk) :
    store.load disk other = store.load disk request := by
  rw [load_eq, load_eq, same]

/-- A reload without a path repeats the one before it, which gave a path. -/
theorem reload_again (store : Store) (disk later : Disk) (path : String) :
    (store.load disk (.reload (some path))).2.load later (.reload none) =
      (store.load disk (.reload (some path))).2.load later (.reload (some path)) := by
  have kept := load_paths store disk (.reload (some path))
  apply load_of_same_pathsFor
  simp only [pathsFor] at kept ⊢
  rw [kept, Option.map_map]
  rfl

/-- In every run of a new store a load fails before the first start. After it, the load tries at
most one file, the one that the path requested last and the fallback of the last start lead to on
the disk, and that file alone gives the outcome; runs that ask for the same paths have the same
outcome. A reload without a path behaves as if the path of the reload before it had been given
again. -/
theorem load_outcome_from_last_request (history : List (Disk × Operation)) (disk : Disk)
    (request : LoadRequest) :
    ((∀ first second, LoadRequest.start first second ∉ requests history ++ [request]) →
      ((run {} history).load disk request).1 = .error .notStarted) ∧
    (∀ first second, LoadRequest.start first second ∈ requests history ++ [request] →
      ∃ preferred fallback,
        asked (requests history ++ [request]) = some (preferred, fallback) ∧
        Attempt disk preferred fallback ((run {} history).load disk request)) ∧
    (∀ other otherRequest,
      asked (requests other ++ [otherRequest]) = asked (requests history ++ [request]) →
      ((run {} other).load disk otherRequest).1 = ((run {} history).load disk request).1 ∧
      (((run {} history).load disk request).1 = .ok () →
        ((run {} other).load disk otherRequest).2 = ((run {} history).load disk request).2)) ∧
    ∀ path later, request = .reload (some path) →
      ((run {} history).load disk request).2.load later (.reload none) =
        ((run {} history).load disk request).2.load later request := by
  have kept (past : List (Disk × Operation)) :
      (run {} past).paths = (asked (requests past)).map pathsOf := run_paths {} [] rfl past
  refine ⟨?_, ?_, ?_, ?_⟩
  · intro fresh
    exact load_of_nothing_asked (kept history) disk request ((asked_eq_none_iff _).mpr fresh)
  · intro first second started
    cases want : asked (requests history ++ [request]) with
    | none => exact absurd started ((asked_eq_none_iff _).mp want first second)
    | some paths => exact ⟨paths.1, paths.2, rfl, load_attempt (kept history) disk request want⟩
  · intro other otherRequest same
    rw [load_eq, load_eq, pathsFor_eq (kept other), pathsFor_eq (kept history), same]
    cases asked (requests history ++ [request]) with
    | none => exact ⟨rfl, fun succeeds => by cases succeeds⟩
    | some paths => exact loadFrom_determined _ _ disk _
  · intro path later same
    rw [same]
    exact reload_again _ disk later path

/-- A start without any file, then a reload from a file that is no catalog. -/
def failedRun : List (Disk × Operation) :=
  [(oneFile "c.json" "", .load (.start "a.json" "b.json")), (oneFile "c.json" "", .ask .merged),
    (oneFile "c.json" "[", .load (.reload (some "c.json")))]

/-- The path of the failed reload stands: without it the fallback is tried. -/
theorem failedRun_then_fallback :
    LoadRequest.start "a.json" "b.json" ∈ requests failedRun ++ [.reload none] ∧
      asked (requests failedRun ++ [.reload none]) = some ("c.json", "b.json") ∧
      Attempt (oneFile "b.json" "") "c.json" "b.json"
        ((run {} failedRun).load (oneFile "b.json" "") (.reload none)) := by
  have started : LoadRequest.start "a.json" "b.json" ∈ requests failedRun ++ [.reload none] := by
    decide
  have want : asked (requests failedRun ++ [.reload none]) = some ("c.json", "b.json") := by
    decide
  obtain ⟨preferred, fallback, same, attempt⟩ :=
    (load_outcome_from_last_request failedRun (oneFile "b.json" "") (.reload none)).2.1 _ _ started
  cases want.symm.trans same
  exact ⟨started, want, attempt⟩

end Store
end FluxonAssist
