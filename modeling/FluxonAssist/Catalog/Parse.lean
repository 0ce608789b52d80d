import FluxonAssist.Catalog.Check
import FluxonAssist.Catalog.Decode
import FluxonAssist.Json.Reader

/-!
# Reading a catalog text

A text is a catalog if it is JSON, passes the check and decodes; the catalog is then normalized. The
check and the decoder differ on repeated keys, so a text can pass the one and fail the other.
-/
set_option autoImplicit false
namespace FluxonAssist.Catalog

inductive Rejection where
  | malformed
  | flawed (flaw : Flaw)
  | undecodable (error : DecodeError)

def Rejection.message : Rejection → String
  | .malformed => "malformed JSON"
  | .flawed flaw => flaw.message
  | .undecodable error => error.message

def ofJson (document : Json) : Except Rejection Catalog :=
  match flaw? document with
  | some flaw => .error (.flawed flaw)
  | none =>
    match decode document with
    | .error error => .error (.undecodable error)
    | .ok catalog => .ok catalog.normalize

def parse (text : String) : Except Rejection Catalog :=
  match Json.parse? text with
  | none => .error .malformed
  | some document => ofJson document

end FluxonAssist.Catalog
