import FluxonAssist.Proofs.PathForms
import FluxonAssist.Proofs.StoreRun
import FluxonAssist.Server

/-!
# The path of the store and the path of the settings

The store keeps the path it was told to load from, and the settings resolve to a path of their own.
Every load tells the store the resolved path, so the two can part only where new settings name a
path that is written in another way and no load follows. They always have the same components, and
if they also have the same ending they lead to the same file of any disk that ignores the spelling
of paths: then a plain reload and the refresh command end alike. A slash added at the end of the
path is the case that is left out: the settings mean a file that does not exist, and the store still
loads the old one.
-/
set_option autoImplicit false
namespace FluxonAssist

/-! ## Loads from two ways to write a path -/

/-- The same error about the same path, which may be written in another way. -/
inductive StoreError.Alike : StoreError → StoreError → Prop
  | notStarted : Alike .notStarted .notStarted
  | notLoaded : Alike .notLoaded .notLoaded
  | fileNotFound (a b : String) (same : Path.alike a b = true) :
      Alike (.fileNotFound a) (.fileNotFound b)
  | invalidSchema (a b : String) (same : Path.alike a b = true) (reason : Catalog.Rejection) :
      Alike (.invalidSchema a reason) (.invalidSchema b reason)
  | unreadable (a b : String) (same : Path.alike a b = true) (cause : ReadFailure) :
      Alike (.unreadable a cause) (.unreadable b cause)

/-- Both loads give the same catalog from the same path, or fail with the same error. -/
inductive AlikeLoads : Except StoreError LoadedCatalog → Except StoreError LoadedCatalog → Prop
  | loaded (a b : LoadedCatalog) (catalog : a.catalog = b.catalog)
      (source : Path.alike a.source b.source = true) : AlikeLoads (.ok a) (.ok b)
  | failed (e e' : StoreError) (errors : e.Alike e') : AlikeLoads (.error e) (.error e')

/-- Both loads of a store end the same way and leave it with the same catalog. -/
inductive SameOutcome :
    Except StoreError Unit × Store → Except StoreError Unit × Store → Prop
  | loaded (first second : Store) (a b : LoadedCatalog) (found : first.loaded = some a)
      (foundOther : second.loaded = some b) (catalog : a.catalog = b.catalog)
      (source : Path.alike a.source b.source = true) : SameOutcome (.ok (), first) (.ok (), second)
  | failed (first second : Store) (e e' : StoreError) (errors : e.Alike e')
      (kept : first.loaded = second.loaded) : SameOutcome (.error e, first) (.error e', second)

theorem Path.alike_refl (path : String) : Path.alike path path = true := by
  rw [Path.alike_iff]

/-- Loads that read the same text from alike paths are alike. -/
theorem alikeLoads_of_resolve {paths other : CatalogPaths} {disk : Disk} {a b : String}
    (resolved : paths.resolve disk = .ok a) (otherResolved : other.resolve disk = .ok b)
    (same : Path.alike a b = true) (reads : disk.read a = disk.read b) :
    AlikeLoads (paths.load disk) (other.load disk) := by
  simp only [CatalogPaths.load, resolved, otherResolved, reads]
  cases disk.read b with
  | error cause => exact .failed _ _ (.unreadable a b same cause)
  | ok text =>
      cases parsed : Catalog.parse text with
      | error reason =>
          simp only [parsed]
          exact .failed _ _ (.invalidSchema a b same reason)
      | ok catalog =>
          simp only [parsed]
          exact .loaded _ _ rfl same

theorem load_alike (paths other : CatalogPaths) (disk : Disk)
    (fallback : other.fallback = paths.fallback)
    (same : Path.alike paths.preferred other.preferred = true)
    (has : disk.has paths.preferred = disk.has other.preferred)
    (reads : disk.read paths.preferred = disk.read other.preferred) :
    AlikeLoads (paths.load disk) (other.load disk) := by
  by_cases found : disk.has other.preferred = true
  · have resolved : paths.resolve disk = .ok paths.preferred := by
      rw [CatalogPaths.resolve, has, if_pos found]
    have otherResolved : other.resolve disk = .ok other.preferred := by
      rw [CatalogPaths.resolve, if_pos found]
    exact alikeLoads_of_resolve resolved otherResolved same reads
  · have missing : paths.resolve disk = .error (.fileNotFound paths.preferred) →
        other.resolve disk = .error (.fileNotFound other.preferred) →
        AlikeLoads (paths.load disk) (other.load disk) := by
      intro resolved otherResolved
      rw [CatalogPaths.load, CatalogPaths.load, resolved, otherResolved]
      exact .failed _ _ (.fileNotFound _ _ same)
    cases given : paths.fallback with
    | none =>
        apply missing
        · rw [CatalogPaths.resolve, has, if_neg found, given]
        · rw [CatalogPaths.resolve, if_neg found, fallback, given]
    | some path =>
        by_cases there : disk.has path = true
        · have resolved : paths.resolve disk = .ok path := by
            simp [CatalogPaths.resolve, has, found, given, there]
          have otherResolved : other.resolve disk = .ok path := by
            simp [CatalogPaths.resolve, found, fallback, given, there]
          exact alikeLoads_of_resolve resolved otherResolved (Path.alike_refl path) rfl
        · apply missing
          · simp [CatalogPaths.resolve, has, found, given, there]
          · simp [CatalogPaths.resolve, found, fallback, given, there]

theorem loadFrom_sameOutcome (store : Store) {paths other : CatalogPaths} {disk : Disk}
    (loads : AlikeLoads (paths.load disk) (other.load disk)) :
    SameOutcome (store.loadFrom disk paths) (store.loadFrom disk other) := by
  unfold Store.loadFrom
  generalize paths.load disk = first at loads
  generalize other.load disk = second at loads
  cases loads with
  | loaded a b catalog source => exact .loaded _ _ a b rfl rfl catalog source
  | failed e e' errors => exact .failed _ _ e e' errors rfl

theorem CatalogPaths.resolve_ne_notStarted (paths : CatalogPaths) (disk : Disk) :
    paths.resolve disk ≠ .error .notStarted := by
  unfold CatalogPaths.resolve
  split
  · simp
  · split
    · split <;> simp
    · simp

theorem CatalogPaths.load_ne_notStarted (paths : CatalogPaths) (disk : Disk) :
    paths.load disk ≠ .error .notStarted := by
  unfold CatalogPaths.load
  split
  · rename_i error failed
    intro same
    cases same
    exact paths.resolve_ne_notStarted disk failed
  · split
    · simp
    · split <;> simp

/-! ## The path that a request stands for -/

theorem orFallback_alike {a b : String} (same : Path.alike a b = true) (fallback : String) :
    Path.alike (orFallback a fallback) (orFallback b fallback) = true := by
  have components := (Path.alike_iff a b).mp same
  have emptyIff : a = "" ↔ b = "" := by
    rw [← String.toList_eq_nil_iff, ← String.toList_eq_nil_iff, ← Path.components_eq_nil_iff,
      ← Path.components_eq_nil_iff, components]
  by_cases empty : b = ""
  · rw [orFallback, orFallback, if_pos (emptyIff.mpr empty), if_pos empty]
    exact Path.alike_refl fallback
  · rw [orFallback, orFallback, if_neg (mt emptyIff.mp empty), if_neg empty]
    exact same

/-- Effects of scans touch neither the settings nor the store. -/
theorem Engine.performAll_keeps (engine : Engine) (effects : List Rescan.Effect) :
    (engine.performAll effects).settings = engine.settings ∧
      (engine.performAll effects).store = engine.store := by
  induction effects generalizing engine with
  | nil => exact ⟨rfl, rfl⟩
  | cons effect rest ih =>
      have later := ih (engine.perform effect)
      cases effect with
      | scan uri text => exact later
      | forget uri => exact later

/-- The request is a handshake, which a client sends once and first. -/
def Request.IsHandshake : Request → Prop
  | .handshake _ _ _ => True
  | _ => False

namespace Server

def meantPath (server : Server) (override : Option String) : String :=
  orFallback (server.engine.settings.resolvedCatalogPath override server.root) server.fallback

/-- The store has the server's fallback path, and a path alike the one that the settings mean. -/
def Follows (override : Option String) (server : Server) : Prop :=
  ∀ paths, server.engine.store.paths = some paths →
    paths.fallback = nonEmpty? server.fallback ∧
      Path.alike paths.preferred (server.meantPath override) = true

/-! ## Requests that touch neither path -/

/-- The two servers have the same settings, folder and paths. -/
structure SamePaths (server server' : Server) : Prop where
  settings : server'.engine.settings = server.engine.settings
  root : server'.root = server.root
  fallback : server'.fallback = server.fallback
  paths : server'.engine.store.paths = server.engine.store.paths

theorem SamePaths.follows {server server' : Server} (same : SamePaths server server')
    {override : Option String} (follows : server.Follows override) : server'.Follows override := by
  intro paths given
  rw [same.paths] at given
  rw [meantPath, same.settings, same.root, same.fallback]
  exact follows paths given

theorem notify_samePaths (server : Server) (event : Rescan.Event) :
    SamePaths server (server.notify event) := by
  unfold notify
  split
  · exact ⟨rfl, rfl, rfl, rfl⟩
  · rename_i rescan _
    obtain ⟨settings, store⟩ := Engine.performAll_keeps server.engine (rescan.handle event).1
    exact ⟨settings, rfl, rfl, congrArg Store.paths store⟩

theorem openDocument_samePaths (server : Server) (uri : Uri) (languageId : String) (version : Int)
    (text : List Char) : SamePaths server (server.openDocument uri languageId version text) := by
  unfold openDocument
  dsimp only
  split
  · have same := notify_samePaths server (.opened uri text)
    exact ⟨same.settings, same.root, same.fallback, same.paths⟩
  · exact ⟨rfl, rfl, rfl, rfl⟩

theorem changeDocument_samePaths (server : Server) (uri : Uri) (version : Int)
    (changes : List Change) : SamePaths server (server.changeDocument uri version changes) := by
  unfold changeDocument
  split
  · exact ⟨rfl, rfl, rfl, rfl⟩
  · split
    · exact ⟨rfl, rfl, rfl, rfl⟩
    · rename_i opened _ _ document _
      dsimp only
      split
      · have same := notify_samePaths
          { server with documents := server.documents.insert uri { opened with document } }
          (.changed uri document.text)
        exact ⟨same.settings, same.root, same.fallback, same.paths⟩
      · exact ⟨rfl, rfl, rfl, rfl⟩

theorem closeDocument_samePaths (server : Server) (uri : Uri) :
    SamePaths server (server.closeDocument uri) := by
  have same := notify_samePaths { server with documents := server.documents.erase uri }
    (.closed uri)
  exact ⟨same.settings, same.root, same.fallback, same.paths⟩

theorem elapse_samePaths (server : Server) (duration : Nat) :
    SamePaths server (server.elapse duration) := by
  unfold elapse
  split
  · exact ⟨rfl, rfl, rfl, rfl⟩
  · rename_i rescan _
    obtain ⟨settings, store⟩ := Engine.performAll_keeps server.engine (rescan.elapse duration).1
    exact ⟨settings, rfl, rfl, congrArg Store.paths store⟩

theorem complete_samePaths (server : Server) (uri : Uri) (position : Position) :
    SamePaths server (server.complete uri position).2 := by
  unfold Server.complete
  split
  · exact ⟨rfl, rfl, rfl, rfl⟩
  · simp only [Engine.afterComplete]
    split <;> exact ⟨rfl, rfl, rfl, rfl⟩

/-! ## Requests that load -/

theorem reload_paths (store : Store) (disk : Disk) (path : String) :
    (store.reload disk (some path)).2.paths = store.paths.map fun paths => paths.prefer path :=
  Store.load_paths store disk (.reload (some path))

theorem start_paths (store : Store) (disk : Disk) (preferred fallback : String) :
    (store.start disk preferred fallback).2.paths = some (.ofRequest preferred fallback) :=
  Store.load_paths store disk (.start preferred fallback)

theorem loadCatalog_eq (server : Server) (around : Surroundings) :
    (server.loadCatalog around).2 =
      { server with
        engine := { server.engine with
          store := (server.engine.store.start around.disk (server.resolvedPath around)
            server.fallback).2 } } := by
  unfold loadCatalog Engine.startCatalog
  generalize server.engine.store.start around.disk (server.resolvedPath around)
    server.fallback = outcome
  obtain ⟨result, store⟩ := outcome
  cases result <;> rfl

/-- The server with other settings, after a reload from their path. -/
def reloaded (server : Server) (around : Surroundings) (settings : Settings) : Server :=
  { server with
    engine := { server.engine with
      settings
      store := (server.engine.store.reload around.disk
        (some (server.pathOf around settings))).2 } }

/-- The answer to a refresh whose load ends so. -/
def refreshReply : Except StoreError Unit → Reply
  | .ok _ => .refreshed
  | .error error => .commandFailed (.reload error)

theorem runCommand_refresh (server : Server) (around : Surroundings) :
    (server.runCommand around refreshCommand).1 =
        refreshReply (server.engine.store.reload around.disk
          (some (server.resolvedPath around))).1 ∧
      (server.runCommand around refreshCommand).2.2 =
        server.reloaded around server.engine.settings := by
  unfold runCommand Engine.reloadCatalog reloaded
  rw [if_neg (by simp), ← resolvedPath]
  generalize server.engine.store.reload around.disk (some (server.resolvedPath around)) = outcome
  obtain ⟨result, store⟩ := outcome
  cases result <;> exact ⟨rfl, rfl⟩

theorem reload_ne_notStarted {store : Store} {paths : CatalogPaths}
    (given : store.paths = some paths) (disk : Disk) (path : String) :
    (store.reload disk (some path)).1 ≠ .error .notStarted := by
  simp only [Store.reload, given, Store.loadFrom]
  split
  · simp
  · rename_i error failed
    intro same
    cases same
    exact CatalogPaths.load_ne_notStarted _ disk failed

/-- What new settings do: nothing more if their path is alike the old one, else a load from it. -/
theorem applySettings_cases (server : Server) (around : Surroundings) (settings : Settings) :
    (Path.alike (server.pathOf around settings) (server.resolvedPath around) = true ∧
      (server.applySettings around settings).2 =
        { server with engine := { server.engine with settings } }) ∨
    (Path.alike (server.pathOf around settings) (server.resolvedPath around) = false ∧
      server.engine.store.paths.isSome = true ∧
      (server.applySettings around settings).2 = server.reloaded around settings) ∨
    (server.engine.store.paths = none ∧
      (server.applySettings around settings).2 =
        (loadCatalog { server with engine := { server.engine with settings } } around).2) := by
  by_cases same : Path.alike (server.pathOf around settings) (server.resolvedPath around) = true
  · refine Or.inl ⟨same, ?_⟩
    simp [applySettings, same]
  · right
    have differs := Bool.eq_false_iff.mpr same
    cases given : server.engine.store.paths with
    | none =>
        right
        refine ⟨rfl, ?_⟩
        simp [applySettings, same, Engine.reloadCatalog, Store.reload_of_not_started, given]
    | some paths =>
        left
        refine ⟨differs, rfl, ?_⟩
        have started := reload_ne_notStarted given around.disk (server.pathOf around settings)
        unfold applySettings Engine.reloadCatalog reloaded
        simp only [same, Bool.false_eq_true, if_false]
        generalize server.engine.store.reload around.disk
          (some (server.pathOf around settings)) = outcome at started
        obtain ⟨result, store⟩ := outcome
        cases result with
        | ok => rfl
        | error error =>
            cases error with
            | notStarted => exact absurd rfl started
            | _ => rfl

/-! ## Every request -/

theorem loadCatalog_follows (server : Server) (disk : Disk) (override : Option String) :
    (server.loadCatalog ⟨disk, override⟩).2.Follows override := by
  rw [loadCatalog_eq]
  intro paths given
  have told := start_paths server.engine.store disk (server.resolvedPath ⟨disk, override⟩)
    server.fallback
  rw [CatalogPaths.ofRequest, prefer_eq rfl] at told
  cases told.symm.trans given
  exact ⟨rfl, Path.alike_refl _⟩

/-- A reload gives the store the meant path itself. -/
theorem reloaded_paths {server : Server} {paths : CatalogPaths}
    (given : server.engine.store.paths = some paths)
    (fallback : paths.fallback = nonEmpty? server.fallback) (disk : Disk)
    (override : Option String) (settings : Settings) :
    (server.reloaded ⟨disk, override⟩ settings).engine.store.paths =
      some { paths with
        preferred := (server.reloaded ⟨disk, override⟩ settings).meantPath override } := by
  have told := reload_paths server.engine.store disk (server.pathOf ⟨disk, override⟩ settings)
  rw [given, Option.map_some, prefer_eq fallback] at told
  exact told

theorem reloaded_follows {server : Server} {override : Option String}
    (follows : server.Follows override) (disk : Disk) (settings : Settings) :
    (server.reloaded ⟨disk, override⟩ settings).Follows override := by
  intro paths same
  cases given : server.engine.store.paths with
  | none =>
      have told := reload_paths server.engine.store disk (server.pathOf ⟨disk, override⟩ settings)
      rw [given, Option.map_none] at told
      cases told.symm.trans same
  | some old =>
      have fallback := (follows old given).1
      rw [reloaded_paths given fallback] at same
      cases same
      exact ⟨fallback, Path.alike_refl _⟩

theorem applySettings_follows {server : Server} {override : Option String}
    (follows : server.Follows override) (disk : Disk) (settings : Settings) :
    (server.applySettings ⟨disk, override⟩ settings).2.Follows override := by
  rcases applySettings_cases server ⟨disk, override⟩ settings with
    ⟨same, next⟩ | ⟨-, -, next⟩ | ⟨-, next⟩
  · -- no load: the store's path is alike the old path, and that is alike the new one
    rw [next]
    intro paths given
    obtain ⟨fallback, alike⟩ := follows paths given
    refine ⟨fallback, ?_⟩
    have moved := orFallback_alike same server.fallback
    rw [Path.alike_iff] at alike moved ⊢
    exact alike.trans moved.symm
  · rw [next]
    exact reloaded_follows follows disk settings
  · rw [next]
    exact loadCatalog_follows _ disk override

theorem runCommand_follows {server : Server} {override : Option String}
    (follows : server.Follows override) (disk : Disk) (name : String) :
    (server.runCommand ⟨disk, override⟩ name).2.2.Follows override := by
  by_cases refresh : name = refreshCommand
  · rw [refresh, (runCommand_refresh server ⟨disk, override⟩).2]
    exact reloaded_follows follows disk server.engine.settings
  · rw [runCommand, if_pos refresh]
    exact follows

theorem step_follows {server : Server} {override : Option String}
    (follows : server.Follows override) (disk : Disk) (request : Request)
    (later : ¬ request.IsHandshake) :
    (server.step ⟨disk, override⟩ request).2.2.Follows override := by
  cases request with
  | handshake folders rootUri options => exact absurd trivial later
  | ready => exact loadCatalog_follows server disk override
  | shutdown => exact (SamePaths.mk rfl rfl rfl rfl).follows follows
  | openDocument uri languageId version text =>
      exact (openDocument_samePaths server uri languageId version text).follows follows
  | changeDocument uri version changes =>
      exact (changeDocument_samePaths server uri version changes).follows follows
  | closeDocument uri => exact (closeDocument_samePaths server uri).follows follows
  | configure payload => exact applySettings_follows follows disk _
  | command name => exact runCommand_follows follows disk name
  | complete uri position => exact (complete_samePaths server uri position).follows follows
  | elapse duration => exact (elapse_samePaths server duration).follows follows

/-! ## Whole runs -/

/-- Requests with their disks, all under one override. -/
def under (override : Option String) (history : List (Disk × Request)) :
    List (Surroundings × Request) :=
  history.map fun moment => (⟨moment.1, override⟩, moment.2)

theorem run_follows {server : Server} {override : Option String}
    (follows : server.Follows override) (history : List (Disk × Request))
    (once : ∀ moment ∈ history, ¬ moment.2.IsHandshake) :
    (server.run (under override history)).Follows override := by
  induction history generalizing server with
  | nil => exact follows
  | cons moment rest ih =>
      have first := step_follows follows moment.1 moment.2 (once moment List.mem_cons_self)
      exact ih first fun other member => once other (List.mem_cons_of_mem _ member)

/-- A new server after its handshake. -/
theorem handshake_follows (fallback : String) (around : Surroundings)
    (folders : Option (List Uri)) (rootUri : Option Uri) (options : Option Json)
    (override : Option String) :
    (step { fallback } around (.handshake folders rootUri options)).2.2.Follows override := by
  intro paths given
  simp only [step, takeRoot] at given
  split at given <;> cases given

/-- A reload from the store's own path ends like the refresh command wherever the store's path and
the meant one have the same file. -/
theorem refresh_sameOutcome {server : Server} {override : Option String} {paths : CatalogPaths}
    (follows : server.Follows override) (given : server.engine.store.paths = some paths)
    (disk : Disk) (file : SameFile disk paths.preferred (server.meantPath override)) :
    ∃ result,
      (server.step ⟨disk, override⟩ (.command refreshCommand)).1 = refreshReply result ∧
      SameOutcome (server.engine.store.reload disk none)
        (result, (server.step ⟨disk, override⟩ (.command refreshCommand)).2.2.engine.store) := by
  obtain ⟨fallback, alike⟩ := follows paths given
  obtain ⟨reply, next⟩ := runCommand_refresh server ⟨disk, override⟩
  have ownReload : server.engine.store.reload disk none =
      server.engine.store.loadFrom disk paths := by
    rw [Store.reload, given]
  have refresh : server.engine.store.reload disk (some (server.resolvedPath ⟨disk, override⟩)) =
      server.engine.store.loadFrom disk
        { paths with preferred := server.meantPath override } := by
    rw [Store.reload, given]
    exact congrArg (server.engine.store.loadFrom disk) (prefer_eq fallback _)
  have outcome := loadFrom_sameOutcome server.engine.store
    (load_alike paths { paths with preferred := server.meantPath override } disk rfl alike
      file.1 file.2)
  rw [← ownReload, ← refresh] at outcome
  refine ⟨_, reply, ?_⟩
  simp only [step, next]
  exact outcome

/-- New settings that mean another file are followed by a load from it. -/
theorem configure_reloads {server : Server} {override : Option String} {paths : CatalogPaths}
    (follows : server.Follows override) (given : server.engine.store.paths = some paths)
    {disk : Disk} (lawful : disk.IgnoresSpelling) (payload : Json) (next : Server)
    (stepped : next = (server.step ⟨disk, override⟩ (.configure payload)).2.2)
    (ending : Path.alike (server.meantPath override) (next.meantPath override) = true →
      Path.SameEnding (server.meantPath override) (next.meantPath override))
    (moved : ¬ SameFile disk (server.meantPath override) (next.meantPath override)) :
    next.engine.store = (server.engine.store.reload disk
        (some (next.resolvedPath ⟨disk, override⟩))).2 ∧
      next.engine.store.paths = some { paths with preferred := next.meantPath override } := by
  have fallback := (follows paths given).1
  rcases applySettings_cases server ⟨disk, override⟩ (Settings.ofPayload (some payload)) with
    ⟨same, after⟩ | ⟨-, -, after⟩ | ⟨absent, -⟩
  · -- without a load the new path is alike the old one, so the disk has one file for both
    have alike : Path.alike (server.meantPath override) (next.meantPath override) = true := by
      have components := (Path.alike_iff _ _).mp (orFallback_alike same server.fallback)
      rw [stepped, Path.alike_iff]
      simp only [step, after]
      exact components.symm
    exact absurd (lawful _ _ alike (ending alike)) moved
  · simp only [step, after] at stepped
    subst stepped
    exact ⟨rfl, reloaded_paths given fallback disk override _⟩
  · rw [given] at absent
    cases absent

/-- In every run that starts with its one handshake, a store that has paths has the components of
the path that the settings mean. If the two have the same ending they lead to the same file of every
disk that ignores the spelling of paths, and a plain reload ends like the refresh command. New
settings that mean another file have made the store load from it, unless only the ending of the path
has changed. -/
theorem run_store_follows_settings (fallback : String) (override : Option String) (first : Disk)
    (folders : Option (List Uri)) (rootUri : Option Uri) (options : Option Json)
    (history : List (Disk × Request)) (once : ∀ moment ∈ history, ¬ moment.2.IsHandshake)
    (server : Server)
    (reached : server = run { fallback }
      (under override ((first, .handshake folders rootUri options) :: history)))
    (paths : CatalogPaths) (started : server.engine.store.paths = some paths) :
    Path.alike paths.preferred (server.meantPath override) = true ∧
    (Path.SameEnding paths.preferred (server.meantPath override) →
      ∀ disk : Disk, disk.IgnoresSpelling →
        SameFile disk paths.preferred (server.meantPath override) ∧
        ∃ result,
          (server.step ⟨disk, override⟩ (.command refreshCommand)).1 = refreshReply result ∧
          SameOutcome (server.engine.store.reload disk none)
            (result, (server.step ⟨disk, override⟩ (.command refreshCommand)).2.2.engine.store)) ∧
    ∀ (disk : Disk) (payload : Json) (next : Server), disk.IgnoresSpelling →
      next = (server.step ⟨disk, override⟩ (.configure payload)).2.2 →
      (Path.alike (server.meantPath override) (next.meantPath override) = true →
        Path.SameEnding (server.meantPath override) (next.meantPath override)) →
      ¬ SameFile disk (server.meantPath override) (next.meantPath override) →
      next.engine.store = (server.engine.store.reload disk
          (some (next.resolvedPath ⟨disk, override⟩))).2 ∧
        next.engine.store.paths = some { paths with preferred := next.meantPath override } := by
  have follows : server.Follows override := by
    rw [reached]
    exact run_follows
      (handshake_follows fallback ⟨first, override⟩ folders rootUri options override) history once
  have alike := (follows paths started).2
  refine ⟨alike, ?_, ?_⟩
  · intro ending disk lawful
    have file := lawful _ _ alike ending
    exact ⟨file, refresh_sameOutcome follows started disk file⟩
  · intro disk payload next lawful stepped ending moved
    exact configure_reloads follows started lawful payload next stepped ending moved

def pathPayload (path : String) : Json := .object [("catalogPath", .string path)]

/-- A handshake with one path, the first load and settings with another path. -/
def movedPath (tree : FileTree) (path other : String) : List (Disk × Request) :=
  [(tree.disk, .handshake none none (some (pathPayload path))), (tree.disk, .ready),
    (tree.disk, .configure (pathPayload other))]

/-- Two catalogs of which one, in a directory, is the built-in one. -/
def twoCatalogs : FileTree where
  entries := [
    (["c.json"], .text "\x7b\"generatedAt\":\"t\",\"system\":[],\"extensions\":\x7b\x7d\x7d"),
    (["d"], .directory),
    (["d", "b.json"], .text "\x7b\"generatedAt\":\"u\",\"system\":[],\"extensions\":\x7b\x7d\x7d")]

/-- The path written anew leads to the same file, and a path to the other file makes a load. -/
theorem respelledPath_followed :
    let server := run { fallback := "f.json" }
      (under none (movedPath twoCatalogs "d/b.json" "d//./b.json"))
    let next := (server.step ⟨twoCatalogs.disk, none⟩ (.configure (pathPayload "c.json"))).2.2
    server.engine.store.paths = some ⟨"d/b.json", some "f.json"⟩ ∧
      server.meantPath none = "d//./b.json" ∧
      SameFile twoCatalogs.disk "d/b.json" "d//./b.json" ∧
      next.engine.store.paths = some ⟨"c.json", some "f.json"⟩ := by
  intro server next
  have started : server.engine.store.paths = some ⟨"d/b.json", some "f.json"⟩ := by decide +kernel
  have meant : server.meantPath none = "d//./b.json" := by decide +kernel
  have nextMeant : next.meantPath none = "c.json" := by decide +kernel
  have once : ∀ moment ∈ (movedPath twoCatalogs "d/b.json" "d//./b.json").tail,
      ¬ moment.2.IsHandshake := by
    simp [movedPath, Request.IsHandshake]
  obtain ⟨-, sameFile, reloads⟩ := run_store_follows_settings "f.json" none twoCatalogs.disk
    none none (some (pathPayload "d/b.json")) _ once server rfl _ started
  rw [meant] at sameFile reloads
  have lawful := twoCatalogs.disk_ignoresSpelling
  refine ⟨started, meant, (sameFile (by decide +kernel) _ lawful).1, ?_⟩
  have moved := reloads twoCatalogs.disk (pathPayload "c.json") next lawful rfl
  rw [nextMeant] at moved
  refine (moved (by decide +kernel) ?_).2
  intro same
  exact absurd (congrArg Except.toOption same.2) (by decide +kernel)

/-- A slash at the end of the settings' path: the store keeps the file, the settings mean none, and
the refresh command takes the built-in catalog where a plain reload takes the old one. -/
theorem store_path_parts_at_trailing_slash :
    let server := run { fallback := "d/b.json" }
      (under none (movedPath twoCatalogs "c.json" "c.json/"))
    server.engine.store.paths = some ⟨"c.json", some "d/b.json"⟩ ∧
      server.meantPath none = "c.json/" ∧
      twoCatalogs.disk.has "c.json" = true ∧ twoCatalogs.disk.has "c.json/" = false ∧
      (server.engine.store.reload twoCatalogs.disk none).2.sourcePath = some "c.json" ∧
      (server.step ⟨twoCatalogs.disk, none⟩
        (.command refreshCommand)).2.2.engine.store.sourcePath = some "d/b.json" := by
  decide +kernel

end Server
end FluxonAssist
