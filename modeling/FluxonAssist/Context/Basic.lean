/-!
# Cursor contexts

What a completion request can be about: the kind of document it comes from and the syntactic
position of the cursor on its line.
-/
set_option autoImplicit false
namespace FluxonAssist

inductive DocumentKind where
  | source
  /-- A YAML document with Fluxon code on its `key: ; code` lines. -/
  | embedded
  deriving DecidableEq, Repr

/-- The kind given by the client's language id, else by the path's extension. -/
def DocumentKind.detect (languageId : Option String) (path : String) : DocumentKind :=
  if languageId = some "yaml" then .embedded
  else if languageId = some "fluxon" then .source
  else if path.endsWith ".yml" || path.endsWith ".yaml" then .embedded
  else .source

inductive HostSelector where
  | all
  | host (name : String)
  deriving DecidableEq, Repr

inductive Context where
  | topLevel
  /-- After `receiver::`. -/
  | extensionCall (hosts : HostSelector)
  /-- After one colon, which may become `::`. -/
  | singleColon
  /-- Inside an `import`, with the quote already typed if there is one. -/
  | importNamespace (quote : Option Char)
  | annotationName
  /-- A comment, an open string or a line without code. -/
  | ignored
  deriving DecidableEq, Repr

end FluxonAssist
