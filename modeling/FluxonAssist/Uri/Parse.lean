import FluxonAssist.Uri.Basic
import FluxonAssist.Uri.Segments

/-!
# Parsing URIs

An absolute URI is brought into normal form: the scheme in lower case, the host as what it stands
for, dot segments resolved, default ports dropped, and characters outside each part's set
percent-encoded. In the special schemes a backslash counts as a slash, and there is always a path.
-/
set_option autoImplicit false
namespace FluxonAssist.Uri

open FluxonAssist.Text

def specialSchemes : List (String × Option Nat) :=
  [("file", none), ("ftp", some 21), ("http", some 80), ("https", some 443), ("ws", some 80),
   ("wss", some 443)]

def isSpecial (scheme : String) : Bool := (specialSchemes.lookup scheme).isSome

def trimControls (text : List Char) : List Char :=
  let outer := fun (c : Char) => decide (c.toNat ≤ 0x20)
  ((text.dropWhile outer).reverse.dropWhile outer).reverse

def scheme? (text : List Char) : Option (String × List Char) :=
  match splitMark ':' text with
  | (name, some rest) =>
    let name := cleaned name
    if name.head?.any isAsciiLetter ∧
        name.all fun c => isAsciiLetter c || isAsciiDigit c || ['+', '-', '.'].contains c then
      some (String.ofList (name.map lower), rest)
    else none
  | (_, none) => none

def isSlash (isSpecial : Bool) (c : Char) : Bool := c == '/' || (c == '\\' && isSpecial)

/-- The user part before the last at sign, and what follows it. -/
def splitUser (authority : List Char) : List Char × List Char :=
  match splitAtFirst (fun c => c == '@') authority.reverse with
  | (host, _ :: user) => (user.reverse, host.reverse)
  | (_, []) => ([], authority)

/-- The text up to the first colon outside of brackets, and the rest from there. -/
def splitHost (isInside : Bool) : List Char → List Char × List Char
  | [] => ([], [])
  | c :: rest =>
    if c = ':' ∧ ¬ isInside then ([], c :: rest)
    else
      let isInside := if c = '[' then true else if c = ']' then false else isInside
      let (host, rest) := splitHost isInside rest
      (c :: host, rest)

/-- A port; a scheme's default port and an empty one are none. -/
def port? (scheme : String) (digits : List Char) : Option (Option Nat) :=
  if digits = [] then some none
  else
    let port := digits.foldl (fun n c => n * 10 + (c.toNat - 48)) 0
    if 65535 < port then none
    else if specialSchemes.lookup scheme = some (some port) then some none
    else some (some port)

/-- The port after a colon, if there is one, and what follows it, which is nothing or starts with a
backslash. -/
def splitPort? (scheme : String) (text : List Char) : Option (Option Nat × List Char) :=
  match text with
  | ':' :: rest =>
    let (digits, rest) := splitAtFirst (fun c => !isAsciiDigit c) rest
    if rest.head?.all fun c => c == '\\' then (port? scheme digits).map fun port => (port, rest)
    else none
  | rest => some (none, rest)

def pathAfterAuthority (isSpecial : Bool) (text : List Char) : String :=
  match text with
  | [] => if isSpecial then "/" else ""
  | c :: rest =>
    let text := if isSlash isSpecial c then rest else text
    String.ofList (Walk.along false {} (pieces (isSlash isSpecial) text)).path

def withAuthority? (scheme : String) (text : List Char) : Option Uri := do
  let (authority, path) := splitAtFirst (isSlash (isSpecial scheme)) text
  let (user, hostPort) := splitUser authority
  let (username, password) := splitMark ':' user
  let (hostText, portText) := splitHost false hostPort
  let host ← if isSpecial scheme then Host.ofSpecial? hostText else Host.ofOther? hostText
  let (port, rest) ← splitPort? scheme portText
  let username := encode userSet username
  let password := encode userSet (password.getD [])
  if host = .name "" ∧ (¬ portText.isEmpty ∨ username ≠ "" ∨ password ≠ "") then none
  else
    some {
      scheme, username, password, host := some host, port
      path := pathAfterAuthority (isSpecial scheme) (rest ++ path) }

def fileWalk (text : List Char) : Walk := Walk.along true {} (pieces (isSlash true) text)

/-- A `file` URI with a host and the walk along its path; a drive takes the host away. -/
def fileUri (host : Host) (walk : Walk) : Uri where
  scheme := "file"
  host := some (if walk.sawDrive then .name "" else host)
  path := String.ofList walk.filePath

/-- A `file` URI after its two slashes. The host `localhost` counts as none, and a drive in the
host's place belongs to the path. -/
def fileWithHost? (text : List Char) : Option Uri :=
  let (hostText, path) := splitAtFirst (isSlash true) text
  let name := cleaned hostText
  if isDrive name then some (fileUri (.name "") (fileWalk text))
  else if name = [] then some (fileUri (.name "") (fileWalk path))
  else
    match Host.ofSpecial? name with
    | none => none
    | some host =>
      if host = .name "localhost" then some (fileUri (.name "") (fileWalk path))
      else some (fileUri host (fileWalk (path.drop 1)))

def fileUri? (text : List Char) : Option Uri :=
  match next? text with
  | none => some (fileUri (.name "") (fileWalk []))
  | some (first, afterFirst) =>
    if isSlash true first then
      match next? afterFirst with
      | none => some (fileUri (.name "") (fileWalk []))
      | some (second, afterSecond) =>
        if isSlash true second then fileWithHost? afterSecond
        else some (fileUri (.name "") (fileWalk afterFirst))
    else some (fileUri (.name "") (fileWalk text))

/-- A URI of another special scheme after its scheme; any number of slashes comes before the
authority. -/
def specialUri? (scheme : String) (text : List Char) : Option Uri :=
  withAuthority? scheme (text.dropWhile (isSlash true))

def otherUri? (scheme : String) (text : List Char) : Option Uri :=
  match text with
  | '/' :: '/' :: rest => withAuthority? scheme rest
  | '/' :: rest =>
    some { scheme, path := String.ofList (Walk.along false {} (pieces (isSlash false) rest)).path }
  | text => some { scheme, path := encode [] text }

def parse? (text : String) : Option Uri := do
  let (scheme, rest) ← scheme? (trimControls text.toList)
  let (rest, fragment) := splitMark '#' rest
  let (rest, query) := splitMark '?' rest
  let uri ←
    if scheme = "file" then fileUri? rest
    else if isSpecial scheme then specialUri? scheme (cleaned rest)
    else otherUri? scheme (cleaned rest)
  let querySet := if isSpecial scheme then specialQuerySet else querySet
  some { uri with
    query := query.map fun text => encode querySet (cleaned text)
    fragment := fragment.map fun text => encode fragmentSet (cleaned text) }

end FluxonAssist.Uri
