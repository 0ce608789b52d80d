/-!
# Disks

What a program sees of a file system: which paths exist, and the text that is read from a path.
-/
set_option autoImplicit false
namespace FluxonAssist

inductive ReadFailure where
  | missing
  | isDirectory
  | notUnicode
  /-- Any other cause, such as a missing permission, with the text that the system has for it. -/
  | other (text : String)
  deriving DecidableEq, Repr

def ReadFailure.message : ReadFailure → String
  | .missing => "No such file or directory (os error 2)"
  | .isDirectory => "Is a directory (os error 21)"
  | .notUnicode => "stream did not contain valid UTF-8"
  | .other text => text

/-- A file system at one moment. -/
structure Disk where
  /-- Whether a path exists, as a file or as a directory. -/
  has : String → Bool
  read : String → Except ReadFailure String

end FluxonAssist
