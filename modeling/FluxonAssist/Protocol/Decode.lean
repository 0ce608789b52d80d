import FluxonAssist.Server
import FluxonAssist.Uri.Parse

/-!
# Requests from JSON

The requests and notifications of the editor protocol, by method name and parameters. A method that
the server does not know, and parameters without a field they need, give no request.
-/
set_option autoImplicit false
namespace FluxonAssist.Protocol

/-- A message from the client; a notification has no identifier. -/
structure Incoming where
  id : Option Json
  method : String
  params : Json

def incoming? (message : Json) : Option Incoming := do
  let method ← (message.get? "method").bind Json.asString?
  return { id := message.get? "id", method, params := (message.get? "params").getD .null }

def stringField? (value : Json) (key : String) : Option String :=
  (value.get? key).bind Json.asString?

def uriField? (value : Json) (key : String) : Option Uri :=
  (stringField? value key).bind Uri.parse?

def intField? (value : Json) (key : String) : Option Int := (value.get? key).bind Json.asInt?

def position? (value : Json) : Option Position := do
  let line ← (value.get? "line").bind Json.asNat?
  let character ← (value.get? "character").bind Json.asNat?
  return ⟨line, character⟩

/-- An edit; without a range it is another text for the whole document. -/
def change? (value : Json) : Option Change := do
  let text ← stringField? value "text"
  match value.get? "range" with
  | none => return .whole text.toList
  | some .null => return .whole text.toList
  | some range =>
    let start ← (range.get? "start").bind position?
    let stop ← (range.get? "end").bind position?
    return .splice start stop text.toList

def folders? (params : Json) : Option (List Uri) :=
  ((params.get? "workspaceFolders").bind Json.asArray?).map fun folders =>
    folders.filterMap fun folder => uriField? folder "uri"

def request? (method : String) (params : Json) : Option Request :=
  let document := (params.get? "textDocument").getD .null
  match method with
  | "initialize" =>
    some (.handshake (folders? params) (uriField? params "rootUri")
      (params.get? "initializationOptions"))
  | "initialized" => some .ready
  | "shutdown" => some .shutdown
  | "textDocument/didOpen" => do
    let uri ← uriField? document "uri"
    let languageId ← stringField? document "languageId"
    let version ← intField? document "version"
    let text ← stringField? document "text"
    return .openDocument uri languageId version text.toList
  | "textDocument/didChange" => do
    let uri ← uriField? document "uri"
    let version ← intField? document "version"
    let changes ← (params.get? "contentChanges").bind Json.asArray?
    return .changeDocument uri version (changes.filterMap change?)
  | "textDocument/didClose" => (uriField? document "uri").map .closeDocument
  | "workspace/didChangeConfiguration" => (params.get? "settings").map .configure
  | "workspace/executeCommand" => (stringField? params "command").map .command
  | "textDocument/completion" => do
    let uri ← uriField? document "uri"
    let position ← (params.get? "position").bind position?
    return .complete uri position
  | _ => none

end FluxonAssist.Protocol
