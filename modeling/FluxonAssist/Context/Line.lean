import FluxonAssist.Text.Blank
import FluxonAssist.Text.Word

/-!
# Recognising positions on a line

Each function decides one lexical question about a line or about the text before the cursor. The
questions about the end of that text read it backwards: the longest tail of the right characters is
dropped, and what stands before it decides.
-/
set_option autoImplicit false
namespace FluxonAssist.Line

open FluxonAssist.Text

def singleQuote : Char := '\x27'

def doubleQuote : Char := '\x22'

def isQuote (c : Char) : Bool := c == singleQuote || c == doubleQuote

/-- Whether the line holds a colon followed by nothing but white space and then a semicolon. -/
def hasCodeMarker : List Char → Bool
  | [] => false
  | c :: rest => (c == ':' && (trimStart rest).head? == some ';') || hasCodeMarker rest

/-- Whether the text starts, after white space, with `#` or `//`. -/
def isComment (text : List Char) : Bool :=
  match trimStart text with
  | '#' :: _ => true
  | '/' :: '/' :: _ => true
  | _ => false

def isNamespacePart (c : Char) : Bool := isWord c || c == ':' || c == '.' || c == '-'

/-- Whether the reversed text is white space, at least one, after the word `import`, which itself
starts the text or follows a character that is no word character. -/
def followsImport (reversed : List Char) : Bool :=
  match reversed with
  | [] => false
  | c :: _ =>
    isBlank c &&
      match reversed.dropWhile isBlank with
      | 't' :: 'r' :: 'o' :: 'p' :: 'm' :: 'i' :: before =>
        match before with
        | [] => true
        | b :: _ => !isWord b
      | _ => false

/-- The quote of an import in progress at the end of the text: `none` if the text does not end in
one, `some none` if no quote has been typed. -/
def importQuote (text : List Char) : Option (Option Char) :=
  match text.reverse.dropWhile isNamespacePart with
  | [] => none
  | c :: rest =>
    if isQuote c then (if followsImport rest then some (some c) else none)
    else if followsImport (c :: rest) then some none
    else none

/-- Whether the text has an odd number of single quotes or an odd number of double quotes. -/
def opensString (text : List Char) : Bool :=
  text.count singleQuote % 2 == 1 || text.count doubleQuote % 2 == 1

/-- Whether the text ends in one colon that directly follows a character other than white space and
other than a colon. -/
def endsInSingleColon (text : List Char) : Bool :=
  match text.reverse with
  | ':' :: c :: _ => c != ':' && !isBlank c
  | _ => false

/-- Whether the text ends in `::` and word characters, with more than white space before the colons.
-/
def endsInExtensionCall (text : List Char) : Bool :=
  match text.reverse.dropWhile isWord with
  | ':' :: ':' :: before => before.any fun c => !isBlank c
  | _ => false

def endsInAnnotation (text : List Char) : Bool :=
  (text.reverse.dropWhile isWord).head? == some '@'

end FluxonAssist.Line
