import FluxonAssist.Ascending

/-!
# Function catalogs

A catalog lists the system functions and, by host type, the extension functions. The argument counts
of a function are independent of each other: `[1, 3]` stands for one or three arguments, not for
two. A normalized function has at least one count, and its counts ascend.
-/
set_option autoImplicit false
namespace FluxonAssist

structure FunctionEntry where
  name : String
  namespaceName : Option String
  /-- The supported argument counts. -/
  params : List Nat
  isAsync : Bool
  primarySync : Bool
  deriving DecidableEq, Repr

namespace FunctionEntry

def sameFunction (a b : FunctionEntry) : Bool :=
  a.namespaceName == b.namespaceName && a.name == b.name

/-- The first supported argument count, which is the least one of a normalized function. -/
def minArity (f : FunctionEntry) : Nat := f.params.headD 0

/-- The argument counts in ascending order without repetitions; none at all means no arguments. -/
def normalizedParams (params : List Nat) : List Nat :=
  match ascending params with
  | [] => [0]
  | counts => counts

def normalize (f : FunctionEntry) : FunctionEntry :=
  { f with params := normalizedParams f.params }

end FunctionEntry

/-- A catalog; the host types stand in document order. -/
structure Catalog where
  generatedAt : String
  system : List FunctionEntry
  extensions : List (String × List FunctionEntry)
  deriving DecidableEq, Repr

namespace Catalog

def normalize (c : Catalog) : Catalog :=
  { c with
    system := c.system.map FunctionEntry.normalize
    extensions := c.extensions.map fun (host, functions) =>
      (host, functions.map FunctionEntry.normalize) }

def extensionFunctions (extensions : List (String × List FunctionEntry)) : List FunctionEntry :=
  extensions.flatMap Prod.snd

/-- The functions of one host type; an unknown host has none. -/
def functionsOfHost (extensions : List (String × List FunctionEntry)) (host : String) :
    List FunctionEntry :=
  (extensions.lookup host).getD []

def namespacesOf (functions : List FunctionEntry) : List String :=
  ascending (functions.filterMap FunctionEntry.namespaceName)

def namespaces (c : Catalog) : List String :=
  namespacesOf (c.system ++ extensionFunctions c.extensions)

end Catalog
end FluxonAssist
