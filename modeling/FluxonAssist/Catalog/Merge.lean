import FluxonAssist.Catalog.Basic

/-!
# The merged extension index

One entry per namespace and name over all host types, in order of first occurrence. The counts of an
entry are those of all its declarations, and each flag is set if it is set in one of them.
-/
set_option autoImplicit false
namespace FluxonAssist.Catalog

def combine (existing f : FunctionEntry) : FunctionEntry :=
  { existing with
    params := ascending (existing.params ++ f.params)
    isAsync := existing.isAsync || f.isAsync
    primarySync := existing.primarySync || f.primarySync }

/-- Adds a declaration to an index: to the entry of its function, or at the end as a new one. -/
def addDeclaration (f : FunctionEntry) : List FunctionEntry → List FunctionEntry
  | [] => [f]
  | existing :: rest =>
    if existing.sameFunction f then combine existing f :: rest
    else existing :: addDeclaration f rest

def mergeDeclarations (functions : List FunctionEntry) : List FunctionEntry :=
  functions.foldl (fun index f => addDeclaration f index) []

def mergeExtensions (extensions : List (String × List FunctionEntry)) : List FunctionEntry :=
  mergeDeclarations (extensionFunctions extensions)

end FluxonAssist.Catalog
