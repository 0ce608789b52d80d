import FluxonAssist.Text.Octets
import FluxonAssist.Uri.Host

/-!
# URIs

A URI in normal form. Two spellings that parse to the same parts are one URI, which is how documents
are told apart.
-/
set_option autoImplicit false
namespace FluxonAssist

structure Uri where
  scheme : String
  username : String := ""
  password : String := ""
  /-- The host; an empty name after `//` without one, and `none` without `//`. -/
  host : Option Host := none
  port : Option Nat := none
  /-- The path, percent-encoded. It starts with a slash or, as in `untitled:Untitled-1`, without. -/
  path : String
  query : Option String := none
  fragment : Option String := none
  deriving DecidableEq, Repr

namespace Uri

open FluxonAssist.Text

/-- Whether the octets end in a letter and a colon or bar, with something before them. -/
def endsInDrive (octets : List Nat) : Bool :=
  match octets.reverse with
  | mark :: letter :: _ :: _ =>
    (mark == 0x3A || mark == 0x7C) && isAsciiLetter (Char.ofNat letter)
  | _ => false

/-- Whether the URI is about this machine: it has no host or the host `localhost`. -/
def isLocal (uri : Uri) : Bool :=
  uri.host == none || uri.host == some (.name "") || uri.host == some (.name "localhost")

/-- The file path that a URI about this machine names: its path with the escapes resolved. A path
that ends in a drive letter gets a slash. -/
def filePath? (uri : Uri) : Option String :=
  if uri.path.toList.head? = some '/' ∧ uri.isLocal then
    let octets := decode uri.path.toList
    some (textOfOctets (if endsInDrive octets then octets ++ [0x2F] else octets))
  else none

end Uri
end FluxonAssist
