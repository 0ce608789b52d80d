import FluxonAssist.Candidate.Basic
import FluxonAssist.Context.Basic
import FluxonAssist.Settings
import FluxonAssist.Store

/-!
# Completion lists

The context alone decides which sources a list is made of. Without a catalog the list is empty.
-/
set_option autoImplicit false
namespace FluxonAssist

structure ListOptions where
  includeUserFunctions : Bool := true
  showNamespaces : Bool := true
  enableExtensions : Bool := true
  deriving DecidableEq, Repr

def Settings.listOptions (settings : Settings) : ListOptions where
  includeUserFunctions := settings.includeUserFunctions
  showNamespaces := settings.showNamespaces
  enableExtensions := settings.enableExtensions

namespace Candidate

def ofEntries (functions : List FunctionEntry) (tier : SortTier) (options : ListOptions) :
    List Candidate :=
  functions.map fun f => ofEntry f tier options.showNamespaces

/-- Keywords, then system functions, then the functions of the document. -/
def topLevelList (catalog : LoadedCatalog) (users : List UserFunction) (options : ListOptions) :
    List Candidate :=
  keywords.map (fun (word, group) => ofKeyword word group) ++
    ofEntries catalog.catalog.system .primary options ++
    (if options.includeUserFunctions then users.map ofUserFunction else [])

def extensionEntries (catalog : LoadedCatalog) : HostSelector → List FunctionEntry
  | .all => catalog.merged
  | .host name => Catalog.functionsOfHost catalog.catalog.extensions name

/-- Extension functions, then the system functions behind them. -/
def extensionList (catalog : LoadedCatalog) (hosts : HostSelector) (options : ListOptions) :
    List Candidate :=
  (if options.enableExtensions then ofEntries (extensionEntries catalog hosts) .primary options
    else []) ++
    ofEntries catalog.catalog.system .demoted options

def listFor (context : Context) (catalog : LoadedCatalog) (users : List UserFunction)
    (options : ListOptions) : List Candidate :=
  match context with
  | .ignored => []
  | .topLevel => topLevelList catalog users options
  | .extensionCall hosts => extensionList catalog hosts options
  | .singleColon => [colonHint]
  | .annotationName => annotations.map ofAnnotationInfo
  | .importNamespace quote => catalog.catalog.namespaces.map fun name => ofNamespace name quote

def list (context : Context) (store : Store) (users : List UserFunction) (options : ListOptions) :
    List Candidate :=
  match store.current with
  | .ok catalog => listFor context catalog users options
  | .error _ => []

def usesMergedIndex (context : Context) (options : ListOptions) : Bool :=
  options.enableExtensions && decide (context = .extensionCall .all)

end Candidate
end FluxonAssist
