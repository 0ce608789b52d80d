import FluxonAssist.Catalog.Merge
import FluxonAssist.Catalog.Parse
import FluxonAssist.Files.Disk

/-!
# The catalog store

The store keeps the paths that were asked for and the catalog that was last read with success. A
load reads a file, parses it and only then replaces the catalog, so a load that fails leaves the
catalog as it was; the paths are kept in either case, for a later reload to try again.
-/
set_option autoImplicit false
namespace FluxonAssist

structure CatalogPaths where
  preferred : String
  fallback : Option String
  deriving DecidableEq, Repr

/-- A catalog that was read, the path it was read from, and its merged extension index once that has
been asked for. -/
structure LoadedCatalog where
  source : String
  catalog : Catalog
  index : Option (List FunctionEntry) := none
  index_eq :
      ∀ merged, index = some merged → merged = Catalog.mergeExtensions catalog.extensions := by
    simp

def LoadedCatalog.merged (loaded : LoadedCatalog) : List FunctionEntry :=
  match loaded.index with
  | some merged => merged
  | none => Catalog.mergeExtensions loaded.catalog.extensions

def LoadedCatalog.withIndex (loaded : LoadedCatalog) : LoadedCatalog where
  source := loaded.source
  catalog := loaded.catalog
  index := some (Catalog.mergeExtensions loaded.catalog.extensions)
  index_eq := by simp

inductive StoreError where
  /-- No paths have been given yet. -/
  | notStarted
  /-- No catalog has been read yet. -/
  | notLoaded
  | fileNotFound (path : String)
  | invalidSchema (path : String) (reason : Catalog.Rejection)
  | unreadable (path : String) (cause : ReadFailure)

def StoreError.message : StoreError → String
  | .notStarted => "catalog store not initialized, call initialize() first"
  | .notLoaded => "catalog not loaded"
  | .fileNotFound path => "catalog file not found: " ++ path
  | .invalidSchema path reason => "invalid catalog schema in " ++ path ++ ": " ++ reason.message
  | .unreadable path cause => "failed to read catalog file " ++ path ++ ": " ++ cause.message

structure Store where
  paths : Option CatalogPaths := none
  loaded : Option LoadedCatalog := none

def nonEmpty? (path : String) : Option String := if path = "" then none else some path

/-- The path that is tried: the preferred one if it exists, else the fallback if that exists. -/
def CatalogPaths.resolve (paths : CatalogPaths) (disk : Disk) : Except StoreError String :=
  if disk.has paths.preferred then .ok paths.preferred
  else
    match paths.fallback with
    | some fallback =>
      if disk.has fallback then .ok fallback else .error (.fileNotFound paths.preferred)
    | none => .error (.fileNotFound paths.preferred)

def CatalogPaths.load (paths : CatalogPaths) (disk : Disk) : Except StoreError LoadedCatalog :=
  match paths.resolve disk with
  | .error error => .error error
  | .ok path =>
    match disk.read path with
    | .error cause => .error (.unreadable path cause)
    | .ok text =>
      match Catalog.parse text with
      | .error reason => .error (.invalidSchema path reason)
      | .ok catalog => .ok { source := path, catalog }

/-- The paths with another preferred path; an empty one means the fallback. -/
def CatalogPaths.prefer (paths : CatalogPaths) (path : String) : CatalogPaths :=
  { paths with preferred := (nonEmpty? path).getD (paths.fallback.getD "") }

/-- The paths of a request, in which an empty path is none. -/
def CatalogPaths.ofRequest (preferred fallback : String) : CatalogPaths :=
  CatalogPaths.prefer ⟨"", nonEmpty? fallback⟩ preferred

namespace Store

def loadFrom (store : Store) (disk : Disk) (paths : CatalogPaths) :
    Except StoreError Unit × Store :=
  match paths.load disk with
  | .ok loaded => (.ok (), { paths := some paths, loaded := some loaded })
  | .error error => (.error error, { store with paths := some paths })

def start (store : Store) (disk : Disk) (preferred fallback : String) :
    Except StoreError Unit × Store :=
  store.loadFrom disk (.ofRequest preferred fallback)

def reload (store : Store) (disk : Disk) (path : Option String) : Except StoreError Unit × Store :=
  match store.paths with
  | none => (.error .notStarted, store)
  | some paths =>
    match path with
    | none => store.loadFrom disk paths
    | some path => store.loadFrom disk (paths.prefer path)

def isLoaded (store : Store) : Bool := store.loaded.isSome

def sourcePath (store : Store) : Option String := store.loaded.map LoadedCatalog.source

def current (store : Store) : Except StoreError LoadedCatalog :=
  match store.paths, store.loaded with
  | none, _ => .error .notStarted
  | some _, none => .error .notLoaded
  | some _, some loaded => .ok loaded

def catalog (store : Store) : Except StoreError Catalog :=
  store.current.map LoadedCatalog.catalog

def systemFunctions (store : Store) : Except StoreError (List FunctionEntry) :=
  store.current.map fun loaded => loaded.catalog.system

def extensions (store : Store) : Except StoreError (List (String × List FunctionEntry)) :=
  store.current.map fun loaded => loaded.catalog.extensions

def functionsOfHost (store : Store) (host : String) : Except StoreError (List FunctionEntry) :=
  store.current.map fun loaded => Catalog.functionsOfHost loaded.catalog.extensions host

def merged (store : Store) : Except StoreError (List FunctionEntry) :=
  store.current.map LoadedCatalog.merged

def namespaces (store : Store) : Except StoreError (List String) :=
  store.current.map fun loaded => loaded.catalog.namespaces

/-- The store after its merged index has been asked for: the index is kept for the next time. -/
def keepIndex (store : Store) : Store :=
  { store with loaded := store.loaded.map LoadedCatalog.withIndex }

end Store
end FluxonAssist
