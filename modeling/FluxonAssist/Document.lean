import FluxonAssist.Text.Lines
import FluxonAssist.Text.Units

/-!
# Open documents

A document is a text with a version. Edits come as positions, lines and UTF-16 columns, which are
decoded against the text as it stands: a line past the end means the last line, and a column past
the end of a line means the end of its content.
-/
set_option autoImplicit false
namespace FluxonAssist

open FluxonAssist.Text

/-- A place in a document, counted in lines and UTF-16 units. -/
structure Position where
  line : Nat
  character : Nat
  deriving DecidableEq, Repr

inductive Change where
  | whole (text : List Char)
  | splice (start stop : Position) (text : List Char)
  deriving DecidableEq, Repr

structure Document where
  text : List Char
  version : Int
  deriving DecidableEq, Repr

namespace Document

def lineIndex (text : List Char) (line : Nat) : Nat := min line ((documentLines text).length - 1)

/-- The line of the given number with its break. -/
def lineText (text : List Char) (index : Nat) : List Char := (documentLines text).getD index []

def lineStart (text : List Char) (index : Nat) : Nat :=
  ((documentLines text).take index).flatten.length

/-- The column of a position in characters, within the content of its line. -/
def column (text : List Char) (position : Position) : Nat :=
  let line := lineText text (lineIndex text position.line)
  charsWithin position.character (line.take (contentLength line))

def offset (text : List Char) (position : Position) : Nat :=
  lineStart text (lineIndex text position.line) + column text position

def splice (text : List Char) (start stop : Nat) (inserted : List Char) : List Char :=
  text.take start ++ inserted ++ text.drop stop

/-- The text after an edit; a range that ends before its start is empty. -/
def applyChange (text : List Char) : Change → List Char
  | .whole replacement => replacement
  | .splice start stop inserted =>
    splice text (offset text start) (max (offset text stop) (offset text start)) inserted

structure StaleVersion where
  given : Int
  current : Int
  deriving DecidableEq, Repr

def StaleVersion.message (stale : StaleVersion) : String :=
  "Version " ++ toString stale.given ++ " not newer than " ++ toString stale.current

/-- The document after edits in order; edits of a version that is not newer are turned down. -/
def apply (document : Document) (changes : List Change) (version : Int) :
    Except StaleVersion Document :=
  if version ≤ document.version then .error ⟨version, document.version⟩
  else .ok ⟨changes.foldl applyChange document.text, version⟩

/-- The line of a position without its break, and the position's column in characters. -/
def lineAt (document : Document) (position : Position) : List Char × Nat :=
  let index := lineIndex document.text position.line
  let line := chomp (lineText document.text index)
  (line, min (offset document.text position - lineStart document.text index) line.length)

end Document
end FluxonAssist
