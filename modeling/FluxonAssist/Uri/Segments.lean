import FluxonAssist.Text.Pieces
import FluxonAssist.Uri.Escape

/-!
# Paths of URIs

A path is walked segment by segment: one dot stays, two dots go up, and anything else goes down. No
walk goes up over a drive, a letter with a colon or bar, nor over a segment in which a backslash
follows a drive. In `file` URIs a drive directly below the root is written with a colon, and it is a
segment of its own even if a tab or a line end is all that divides it from what follows. Tabs and
line ends have no other meaning.
-/
set_option autoImplicit false
namespace FluxonAssist.Uri

open FluxonAssist.Text

/-- A tab or a line end, which a reader of URIs passes over. -/
def isPassedOver (c : Char) : Bool := c == '\t' || c == '\n' || c == '\r'

def cleaned (text : List Char) : List Char := text.filter fun c => !isPassedOver c

def lower (c : Char) : Char :=
  if 65 ≤ c.toNat ∧ c.toNat ≤ 90 then Char.ofNat (c.toNat + 32) else c

def isDrive : List Char → Bool
  | [letter, mark] => isAsciiLetter letter && (mark == ':' || mark == '|')
  | _ => false

/-- Whether a segment is a drive, or goes on with a backslash after one. -/
def startsWithDrive : List Char → Bool
  | letter :: mark :: rest => isDrive [letter, mark] && (rest.isEmpty || rest.head? == some '\\')
  | _ => false

/-- The number of dots in a segment that consists of one or two dots, escaped or not. -/
def dots? (segment : List Char) : Option Nat :=
  match segment.map lower with
  | ['.'] => some 1
  | ['%', '2', 'e'] => some 1
  | ['.', '.'] => some 2
  | ['.', '%', '2', 'e'] => some 2
  | ['%', '2', 'e', '.'] => some 2
  | ['%', '2', 'e', '%', '2', 'e'] => some 2
  | _ => none

def next? (text : List Char) : Option (Char × List Char) :=
  match text.dropWhile isPassedOver with
  | [] => none
  | c :: rest => some (c, rest)

/-- The drive and the rest of a segment in which only tabs and line ends divide the two. -/
def dividedDrive? (segment : List Char) : Option (List Char × List Char) :=
  match next? segment with
  | none => none
  | some (letter, rest) =>
    match next? rest with
    | none => none
    | some (mark, rest) =>
      let after := cleaned rest
      if isAsciiLetter letter ∧ mark = ':' ∧ (rest.head?.any isPassedOver) ∧ after ≠ [] then
        some ([letter, mark], after)
      else none

inductive Step where
  | stay
  | up
  | down (segments : List (List Char))
  /-- To a drive directly below the root. -/
  | drive (segment : List Char)

def stepOf (isFile isAtRoot : Bool) (segment : List Char) : Step :=
  let text := cleaned segment
  match if isFile && isAtRoot then dividedDrive? segment else none with
  | some (drive, rest) => .down [drive, encodeChars pathSet rest]
  | none =>
    match dots? text with
    | some 1 => .stay
    | some _ => .up
    | none =>
      if isFile && isAtRoot && isDrive text then .drive (text.take 1 ++ [':'])
      else .down [encodeChars pathSet text]

/-- Where a walk has come to: the segments, last one first, and whether it came to a drive directly
below the root. -/
structure Walk where
  segments : List (List Char) := []
  sawDrive : Bool := false

/-- The walk one segment up; it does not leave the root or what starts with a drive. -/
def Walk.up (walk : Walk) : Walk :=
  match walk.segments with
  | [] => walk
  | last :: rest => if startsWithDrive last then walk else { walk with segments := rest }

/-- The walk along segments. A last segment of dots leads to a directory, so it leaves an empty one.
-/
def Walk.along (isFile : Bool) (walk : Walk) : List (List Char) → Walk
  | [] => walk
  | segment :: rest =>
    let close := fun (walk : Walk) =>
      if rest.isEmpty then { walk with segments := [] :: walk.segments } else walk
    match stepOf isFile walk.segments.isEmpty segment with
    | .stay => (close walk).along isFile rest
    | .up => (close walk.up).along isFile rest
    | .down segments =>
      { walk with segments := segments.reverse ++ walk.segments }.along isFile rest
    | .drive segment =>
      { segments := segment :: walk.segments, sawDrive := true : Walk }.along isFile rest

def Walk.path (walk : Walk) : List Char :=
  walk.segments.reverse.flatMap fun segment => '/' :: segment

def Walk.filePath (walk : Walk) : List Char := '/' :: walk.path.dropWhile fun c => c == '/'

end FluxonAssist.Uri
