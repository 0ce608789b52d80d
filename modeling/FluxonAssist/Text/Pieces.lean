import FluxonAssist.Text.Lines

/-!
# Pieces of a text

The pieces between the characters of a class, empty ones included, the two parts around the first
of them, and the replacement of a text inside another one.
-/
set_option autoImplicit false
namespace FluxonAssist.Text

/-- The pieces of the text between the characters of a class. -/
def pieces (separator : Char → Bool) : List Char → List (List Char)
  | [] => [[]]
  | c :: rest =>
    if separator c then [] :: pieces separator rest else consLine c (pieces separator rest)

/-- The text up to the first character of a class, and the rest from there. -/
def splitAtFirst (stop : Char → Bool) (text : List Char) : List Char × List Char :=
  (text.takeWhile fun c => !stop c, text.dropWhile fun c => !stop c)

def splitMark (mark : Char) (text : List Char) : List Char × Option (List Char) :=
  match splitAtFirst (fun c => c == mark) text with
  | (before, _ :: after) => (before, some after)
  | (before, []) => (before, none)

def afterStart? : List Char → List Char → Option (List Char)
  | [], text => some text
  | _ :: _, [] => none
  | s :: start, c :: rest => if s = c then afterStart? start rest else none

def replaceFrom (pattern value : List Char) : Nat → List Char → List Char
  | 0, text => text
  | fuel + 1, text =>
    match text with
    | [] => []
    | c :: rest =>
      match afterStart? pattern (c :: rest) with
      | some after => value ++ replaceFrom pattern value fuel after
      | none => c :: replaceFrom pattern value fuel rest

/-- Replaces every occurrence of a non-empty pattern; what has been put in is not looked at again.
-/
def replaceAll (pattern value text : List Char) : List Char :=
  replaceFrom pattern value text.length text

end FluxonAssist.Text
