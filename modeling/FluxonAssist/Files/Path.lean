import FluxonAssist.Text.Pieces

/-!
# Paths

A path is a text whose names are divided by slashes. Two paths are written alike if they have the
same components: repeated and trailing slashes and inner dots make no difference, a leading dot and
`..` do.
-/
set_option autoImplicit false
namespace FluxonAssist.Path

open FluxonAssist.Text

def isAbsolute (path : String) : Bool := path.toList.head? == some '/'

def names (path : String) : List String :=
  ((pieces (fun c => c == '/') path.toList).filter fun name => !name.isEmpty).map String.ofList

/-- The components of a path: whether it starts at the root, and its names without dots, except for
a dot at the start of a relative path. -/
def components (path : String) : Bool × List String :=
  match isAbsolute path, names path with
  | false, "." :: rest => (false, "." :: rest.filter fun name => name != ".")
  | absolute, parts => (absolute, parts.filter fun name => name != ".")

def alike (a b : String) : Bool := components a == components b

end FluxonAssist.Path
