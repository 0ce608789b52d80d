import FluxonAssist.Ascending
import FluxonAssist.Files.Tree

/-!
# Session logs

Each session writes a log of its own into the log directory and first removes the logs of old
sessions: the regular files whose names start with `session-` and end with `.log` and that are past
seven days.
-/
set_option autoImplicit false
namespace FluxonAssist.SessionLog

def directory : List String := ["fluxon", "fluxon-language-server"]

def retentionHours : Int := 168

inductive DirectoryFailure where
  /-- A file stands where a directory on the way should be. -/
  | notADirectory
  /-- A file stands where the log directory should be. -/
  | alreadyExists
  deriving DecidableEq, Repr

def DirectoryFailure.message : DirectoryFailure → String
  | .notADirectory => "Not a directory (os error 20)"
  | .alreadyExists => "File exists (os error 17)"

def isSessionLog (name : String) : Bool := name.startsWith "session-" && name.endsWith ".log"

/-- Whether a file is an old log. A log whose age is given as the full retention is past it by the
time it is looked at. -/
def isExpired (name : String) (item : FileItem) (age : Int) : Bool :=
  decide (item ≠ .directory) && isSessionLog name && decide (retentionHours ≤ age)

def directoryFailure? (tree : FileTree) : Option DirectoryFailure :=
  match tree.entries.lookup (directory.take 1) with
  | some .directory | none =>
    match tree.entries.lookup directory with
    | some .directory | none => none
    | some _ => some .alreadyExists
  | some _ => some .notADirectory

/-- The names in the log directory that stay when a session starts, in ascending order. Without a
log file nothing is removed and nothing can fail. -/
def kept (tree : FileTree) (age : String → Int) (writesFile : Bool) :
    Except DirectoryFailure (List String) :=
  let children := tree.childNames directory
  if writesFile then
    match directoryFailure? tree with
    | some failure => .error failure
    | none =>
      .ok (ascending ((children.filter fun (name, item) =>
        !isExpired name item (age name)).map Prod.fst))
  else .ok (ascending (children.map Prod.fst))

def fileName (date time process : String) : String :=
  "session-" ++ date ++ "-" ++ time ++ "-" ++ process ++ ".log"

end FluxonAssist.SessionLog
