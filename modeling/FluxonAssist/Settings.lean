import FluxonAssist.Json.Basic
import FluxonAssist.Text.Pieces

/-!
# Settings

A client sends its settings as a JSON value, either bare or under the key `fluxonCompletion`. They
are read as a whole: if one field has the wrong type, all fields take their defaults.
-/
set_option autoImplicit false
namespace FluxonAssist

inductive TraceLevel where
  | off
  | basic
  | verbose
  deriving DecidableEq, Repr

structure Settings where
  /-- The catalog's path, in which the workspace folder may be named; empty for the fallback. -/
  catalogPath : String := ""
  includeUserFunctions : Bool := true
  showNamespaces : Bool := true
  enableExtensions : Bool := true
  trace : TraceLevel := .off
  deriving DecidableEq, Repr

namespace Settings

/-- The key under which a client may wrap the settings. -/
def sectionKey : String := "fluxonCompletion"

def fieldNames : List String :=
  ["catalogPath", "includeUserFunctions", "showNamespaces", "enableExtensions", "trace"]

def traceOfName? (name : String) : Option TraceLevel :=
  if name = "off" then some .off
  else if name = "basic" then some .basic
  else if name = "verbose" then some .verbose
  else none

/-- A trace level: its name, or an object with the name as its only key and null as the value. -/
def traceOf? : Json → Option TraceLevel
  | .string name => traceOfName? name
  | .object members =>
    match Json.keys members with
    | [name] =>
      match Json.member? name members with
      | some .null => traceOfName? name
      | _ => none
    | _ => none
  | _ => none

/-- A field's value: the default if it is absent, and nothing if it has the wrong type. -/
def fieldOf? {α : Type} (default : α) (read : Json → Option α) : Option Json → Option α
  | none => some default
  | some value => read value

def ofFields? (field : String → Option Json) : Option Settings := do
  let catalogPath ← fieldOf? "" Json.asString? (field "catalogPath")
  let includeUserFunctions ← fieldOf? true Json.asBool? (field "includeUserFunctions")
  let showNamespaces ← fieldOf? true Json.asBool? (field "showNamespaces")
  let enableExtensions ← fieldOf? true Json.asBool? (field "enableExtensions")
  let trace ← fieldOf? TraceLevel.off traceOf? (field "trace")
  return { catalogPath, includeUserFunctions, showNamespaces, enableExtensions, trace }

/-- The settings of a section: an object of fields, or an array of fields in order. -/
def ofSection? : Json → Option Settings
  | .object members => ofFields? fun key => Json.member? key members
  | .array items =>
    if items.length ≤ fieldNames.length then ofFields? fun key => (fieldNames.zip items).lookup key
    else none
  | _ => none

def sectionOf (payload : Json) : Json := (payload.get? sectionKey).getD payload

/-- The settings of a payload; the defaults if there is none or it cannot be read. -/
def ofPayload : Option Json → Settings
  | none => {}
  | some payload => (ofSection? (sectionOf payload)).getD {}

def workspaceVariable : String := "$\x7bworkspaceFolder\x7d"

/-- The path of a template, with the workspace folder put in; an unknown folder counts as empty. -/
def resolvePath (template : String) (root : Option String) : String :=
  String.ofList
    (Text.replaceAll workspaceVariable.toList (root.getD "").toList template.toList)

/-- The catalog path: the override if it is not empty, else the path of the settings. An empty path
stands for the fallback catalog. -/
def resolvedCatalogPath (settings : Settings) (override : Option String) (root : Option String) :
    String :=
  match override with
  | some path => if path = "" then resolvePath settings.catalogPath root else path
  | none => resolvePath settings.catalogPath root

def fallbackBesideProgram : String := "data/fluxon-functions.json"

end Settings
end FluxonAssist
