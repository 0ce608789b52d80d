import FluxonAssist.Candidate.List
import FluxonAssist.Context.Classify
import FluxonAssist.Table
import FluxonAssist.Uri.Basic

/-!
# The completion engine

The engine holds the settings, the catalog store and the functions of the scanned documents, and
answers a completion request from a line and a cursor.
-/
set_option autoImplicit false
namespace FluxonAssist

structure Engine where
  settings : Settings := {}
  store : Store := {}
  /-- The functions of each scanned document. -/
  functions : Table Uri (List UserFunction) := []

namespace Engine

def startCatalog (engine : Engine) (disk : Disk) (preferred fallback : String) :
    Except StoreError Unit × Engine :=
  let (result, store) := engine.store.start disk preferred fallback
  (result, { engine with store })

def reloadCatalog (engine : Engine) (disk : Disk) (path : Option String) :
    Except StoreError Unit × Engine :=
  let (result, store) := engine.store.reload disk path
  (result, { engine with store })

def scan (engine : Engine) (uri : Uri) (text : List Char) : Engine :=
  { engine with functions := engine.functions.insert uri (declaredFunctions text) }

def cached (engine : Engine) (uri : Uri) : List UserFunction := (engine.functions.get? uri).getD []

def forget (engine : Engine) (uri : Uri) : Engine :=
  { engine with functions := engine.functions.erase uri }

def forgetAll (engine : Engine) : Engine := { engine with functions := [] }

/-- The completion list at a cursor, counted in characters. -/
def complete (engine : Engine) (uri : Uri) (line : List Char) (cursor : Nat) (kind : DocumentKind) :
    List Candidate :=
  Candidate.list (classify line cursor kind) engine.store (engine.cached uri)
    engine.settings.listOptions

/-- The engine after a completion, which may have asked for the merged index. -/
def afterComplete (engine : Engine) (line : List Char) (cursor : Nat) (kind : DocumentKind) :
    Engine :=
  if Candidate.usesMergedIndex (classify line cursor kind) engine.settings.listOptions then
    { engine with store := engine.store.keepIndex }
  else engine

end Engine
end FluxonAssist
