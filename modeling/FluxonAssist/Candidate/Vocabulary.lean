/-!
# Words that are always offered

The keywords and constants of Fluxon and its annotations, in the order in which they are offered.
-/
set_option autoImplicit false
namespace FluxonAssist

inductive KeywordGroup where
  | control
  | declaration
  | constant
  deriving DecidableEq, Repr

def KeywordGroup.detail : KeywordGroup → String
  | .control => "keyword"
  | .declaration => "keyword"
  | .constant => "constant"

def keywords : List (String × KeywordGroup) :=
  [("if", .control), ("then", .control), ("else", .control), ("when", .control), ("is", .control),
   ("for", .control), ("in", .control), ("while", .control), ("break", .control),
   ("continue", .control), ("return", .control), ("try", .control), ("catch", .control),
   ("finally", .control),
   ("import", .declaration), ("def", .declaration), ("fun", .declaration), ("val", .declaration),
   ("var", .declaration), ("async", .declaration), ("sync", .declaration), ("await", .declaration),
   ("true", .constant), ("false", .constant), ("null", .constant)]

structure AnnotationInfo where
  name : String
  params : List String
  description : String
  deriving DecidableEq, Repr

def annotations : List AnnotationInfo :=
  [{ name := "except"
     params := []
     description := "Makes an async function print every exception it encounters" }]

end FluxonAssist
