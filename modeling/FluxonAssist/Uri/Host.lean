import FluxonAssist.Domain.Name
import FluxonAssist.Uri.Address
import FluxonAssist.Uri.Escape

/-!
# Hosts

The host of a special scheme is a domain name or a numeric address, so that spellings of one host
are one value. Any other scheme takes a host as it is written.
-/
set_option autoImplicit false
namespace FluxonAssist

inductive Host where
  /-- A domain name in its ASCII form, or the host of another scheme, percent-encoded. -/
  | name (text : String)
  | fourOctets (address : Nat)
  | eightPieces (pieces : List Nat)
  deriving DecidableEq, Repr

namespace Host

open FluxonAssist.Text

/-- The address that stands between brackets, the first of which has been read. -/
def bracketed? (text : List Char) : Option Host :=
  if text.getLast? = some ']' then (Uri.eightPieces? text.dropLast).map .eightPieces else none

def ofSpecial? (text : List Char) : Option Host :=
  match text with
  | '[' :: rest => bracketed? rest
  | text =>
    match Domain.ascii? (textOfOctets (Uri.decode text)).toList with
    | none => none
    | some domain =>
      if domain = "" then none
      else if Uri.endsInNumber domain.toList then (Uri.fourOctets? domain.toList).map .fourOctets
      else some (.name domain)

def forbidden : List Char :=
  [Char.ofNat 0, '\t', '\n', '\r', ' ', '#', '/', ':', '<', '>', '?', '@', '[', '\\', ']', '^', '|']

/-- The host of a scheme that is not special; it may be empty. -/
def ofOther? (text : List Char) : Option Host :=
  match text with
  | '[' :: rest => bracketed? rest
  | text => if text.any forbidden.contains then none else some (.name (Uri.encode [] text))

end Host
end FluxonAssist
