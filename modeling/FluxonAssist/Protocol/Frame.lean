import FluxonAssist.Json.Printer
import FluxonAssist.Protocol.Encode

/-!
# Messages on the wire

A message is a JSON text after a header that gives its length in octets.
-/
set_option autoImplicit false
namespace FluxonAssist.Protocol

def lengthField : String := "content-length:"

def contentLength? (line : String) : Option Nat :=
  match Text.afterStart? lengthField.toList (line.toList.map Char.toLower) with
  | some value => (String.ofList (Text.trim value)).toNat?
  | none => none

def frame (message : Json) : String :=
  let body := message.render
  "Content-Length: " ++ toString body.utf8ByteSize ++ "\r\n\r\n" ++ body

def envelope (fields : List (String × Json)) : Json :=
  .object (("jsonrpc", .string "2.0") :: fields)

def response (id : Json) : Reply → Json
  | .done => envelope [("id", id), ("result", .null)]
  | .capabilities => envelope [("id", id), ("result", capabilities)]
  | .refreshed => envelope [("id", id), ("result", .bool true)]
  | .commandFailed error =>
    envelope [("id", id),
      ("error", .object [("code", ofInt (errorCode error)), ("message", .string error.message)])]
  | .completions none => envelope [("id", id), ("result", .null)]
  | .completions (some list) => envelope [("id", id), ("result", .array (list.map ofCandidate))]

def notUnderstood (id : Json) : Json :=
  envelope [("id", id),
    ("error", .object [("code", ofInt (-32601)), ("message", .string "Method not found")])]

def showMessage (message : Message) : Json :=
  envelope
    [("method", .string showMessageMethod),
     ("params", .object
      [("type", ofNat (severityNumber message.severity)), ("message", .string message.text)])]

end FluxonAssist.Protocol
