import FluxonAssist.Server

/-!
# Answers as JSON

The objects of the editor protocol that answers are sent as. Fields without a value are left out.
-/
set_option autoImplicit false
namespace FluxonAssist.Protocol

def ofNat (n : Nat) : Json := .number (.natural n)

def ofInt : Int → Json
  | .ofNat n => ofNat n
  | .negSucc n => .number (.negative (n + 1))

def ofStrings (texts : List String) : Json := .array (texts.map Json.string)

def kindNumber : CandidateKind → Nat
  | .function => 3
  | .namespaceName => 9
  | .annotationName => 10
  | .keyword => 14
  | .constant => 21
  | .operator => 24

def formatNumber : InsertFormat → Nat
  | .plain => 1
  | .snippet => 2

def ofCandidate (candidate : Candidate) : Json :=
  .object
    ([("label", .string candidate.label), ("kind", ofNat (kindNumber candidate.kind)),
      ("detail", .string candidate.detail)] ++
     (match candidate.documentation with
      | some text =>
        [("documentation", .object [("kind", .string "markdown"), ("value", .string text)])]
      | none => []) ++
     [("sortText", .string candidate.rank.sortText)] ++
     (match candidate.filterText with
      | some text => [("filterText", .string text)]
      | none => []) ++
     (match candidate.insert with
      | some (text, format) =>
        [("insertText", .string text), ("insertTextFormat", ofNat (formatNumber format))]
      | none => []) ++
     (match candidate.command with
      | some command =>
        [("command",
          .object [("title", .string command.title), ("command", .string command.command)])]
      | none => []))

def serverName : String := "fluxon-language-server"

def serverVersion : String := "0.1.0"

/-- What the server can do: incremental edits, completion after `:` and `@`, and one command. -/
def capabilities : Json :=
  .object
    [("capabilities", .object
      [("textDocumentSync", ofNat 2),
       ("completionProvider", .object
         [("resolveProvider", .bool false), ("triggerCharacters", ofStrings [":", "@"])]),
       ("executeCommandProvider", .object
         [("commands", ofStrings [Server.refreshCommand])])]),
     ("serverInfo", .object
      [("name", .string serverName), ("version", .string serverVersion)])]

def severityNumber : Severity → Nat
  | .error => 1
  | .warning => 2

def showMessageMethod : String := "window/showMessage"

def errorCode : CommandError → Int
  | .unknown _ => -32602
  | .reload _ => -32603

end FluxonAssist.Protocol
