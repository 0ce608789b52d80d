import FluxonAssist.Context.Basic
import FluxonAssist.Context.Line

/-!
# Classifying the cursor

The context is decided from the line alone by a fixed order of questions; the first that holds wins.
An import comes before the string question, because its opening quote is no string.
-/
set_option autoImplicit false
namespace FluxonAssist

open FluxonAssist.Line

/-- The text before the cursor; a cursor past the end of the line stands at its end. -/
def linePrefix (line : List Char) (cursor : Nat) : List Char := line.take cursor

def Context.ofPrefix (text : List Char) : Context :=
  if isComment text then .ignored
  else match importQuote text with
    | some quote => .importNamespace quote
    | none =>
      if opensString text then .ignored
      else if endsInSingleColon text then .singleColon
      else if endsInExtensionCall text then .extensionCall .all
      else if endsInAnnotation text then .annotationName
      else .topLevel

/-- The context of a cursor, counted in characters. A line of an embedded document holds code only
if it has a code marker. -/
def classify (line : List Char) (cursor : Nat) (kind : DocumentKind) : Context :=
  if kind = .embedded ∧ hasCodeMarker line = false then .ignored
  else Context.ofPrefix (linePrefix line cursor)

end FluxonAssist
