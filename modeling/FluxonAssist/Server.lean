import FluxonAssist.Document
import FluxonAssist.Files.Path
import FluxonAssist.Rescan

/-!
# The server

The server answers requests one after the other. Each request comes with its surroundings, the disk
and the override of the catalog path, which may differ from one request to the next. Time passes
only by `elapse` requests.
-/
set_option autoImplicit false
namespace FluxonAssist

structure OpenDocument where
  kind : DocumentKind
  document : Document
  deriving DecidableEq, Repr

structure Server where
  engine : Engine := {}
  documents : Table Uri OpenDocument := []
  /-- The delayed scans; none after the shutdown. -/
  rescan : Option Rescan := some {}
  /-- The workspace folder. -/
  root : Option String := none
  /-- The path of the built-in catalog. -/
  fallback : String

structure Surroundings where
  disk : Disk
  /-- A catalog path that takes the place of the settings' one, unless it is empty. -/
  override : Option String := none

inductive Request where
  | handshake (folders : Option (List Uri)) (rootUri : Option Uri) (options : Option Json)
  | ready
  | shutdown
  | openDocument (uri : Uri) (languageId : String) (version : Int) (text : List Char)
  | changeDocument (uri : Uri) (version : Int) (changes : List Change)
  | closeDocument (uri : Uri)
  | configure (payload : Json)
  | command (name : String)
  | complete (uri : Uri) (position : Position)
  | elapse (duration : Nat)

inductive Severity where
  | error
  | warning
  deriving DecidableEq, Repr

structure Message where
  severity : Severity
  text : String
  deriving DecidableEq, Repr

inductive CommandError where
  | unknown (name : String)
  | reload (error : StoreError)

def CommandError.message : CommandError → String
  | .unknown name => "Unknown command: " ++ name
  | .reload error => error.message

inductive Reply where
  | done
  | capabilities
  | refreshed
  | commandFailed (error : CommandError)
  /-- A completion list, if there is something to offer. -/
  | completions (list : Option (List Candidate))

namespace Server

def refreshCommand : String := "fluxon.refreshCatalog"

def loadFailure (error : StoreError) : Message :=
  ⟨.error, "Fluxon: failed to load function catalog: " ++ error.message⟩

def reloadFailure (error : StoreError) : Message :=
  ⟨.warning, "Fluxon: catalog reload failed: " ++ error.message⟩

def pathOf (server : Server) (around : Surroundings) (settings : Settings) : String :=
  settings.resolvedCatalogPath around.override server.root

def resolvedPath (server : Server) (around : Surroundings) : String :=
  server.pathOf around server.engine.settings

def loadCatalog (server : Server) (around : Surroundings) : List Message × Server :=
  match server.engine.startCatalog around.disk (server.resolvedPath around) server.fallback with
  | (.ok _, engine) => ([], { server with engine })
  | (.error error, engine) => ([loadFailure error], { server with engine })

/-- Takes new settings, and loads the catalog again if they name another path. -/
def applySettings (server : Server) (around : Surroundings) (settings : Settings) :
    List Message × Server :=
  let oldPath := server.resolvedPath around
  let newPath := server.pathOf around settings
  let server := { server with engine := { server.engine with settings } }
  if Path.alike newPath oldPath then ([], server)
  else
    match server.engine.reloadCatalog around.disk (some newPath) with
    | (.ok _, engine) => ([], { server with engine })
    | (.error .notStarted, engine) => loadCatalog { server with engine } around
    | (.error error, engine) => ([reloadFailure error], { server with engine })

def runCommand (server : Server) (around : Surroundings) (name : String) :
    Reply × List Message × Server :=
  if name ≠ refreshCommand then (.commandFailed (.unknown name), [], server)
  else
    match server.engine.reloadCatalog around.disk (some (server.resolvedPath around)) with
    | (.ok _, engine) => (.refreshed, [], { server with engine })
    | (.error error, engine) =>
      (.commandFailed (.reload error), [reloadFailure error], { server with engine })

/-- Hands an event to the delayed scans, if they still run. -/
def notify (server : Server) (event : Rescan.Event) : Server :=
  match server.rescan with
  | none => server
  | some rescan =>
    let (effects, rescan) := rescan.handle event
    { server with rescan := some rescan, engine := server.engine.performAll effects }

/-- Opens a document; a Fluxon source is scanned at once. -/
def openDocument (server : Server) (uri : Uri) (languageId : String) (version : Int)
    (text : List Char) : Server :=
  let kind := DocumentKind.detect (some languageId) uri.path
  let server := if kind = .source then server.notify (.opened uri text) else server
  { server with documents := server.documents.insert uri ⟨kind, ⟨text, version⟩⟩ }

/-- Edits a document; a Fluxon source is scanned again later. -/
def changeDocument (server : Server) (uri : Uri) (version : Int) (changes : List Change) : Server :=
  match server.documents.get? uri with
  | none => server
  | some opened =>
    match opened.document.apply changes version with
    | .error _ => server
    | .ok document =>
      let opened := { opened with document }
      let server := { server with documents := server.documents.insert uri opened }
      if opened.kind = .source then server.notify (.changed uri document.text) else server

def closeDocument (server : Server) (uri : Uri) : Server :=
  notify { server with documents := server.documents.erase uri } (.closed uri)

def elapse (server : Server) (duration : Nat) : Server :=
  match server.rescan with
  | none => server
  | some rescan =>
    let (effects, rescan) := rescan.elapse duration
    { server with rescan := some rescan, engine := server.engine.performAll effects }

/-- The workspace folder: the first of the folders, else the root. A URI that names no file path
leaves it as it was. -/
def takeRoot (server : Server) (folders : Option (List Uri)) (rootUri : Option Uri) : Server :=
  match ((folders.bind List.head?).or rootUri).bind Uri.filePath? with
  | some path => { server with root := some path }
  | none => server

def complete (server : Server) (uri : Uri) (position : Position) :
    Option (List Candidate) × Server :=
  match server.documents.get? uri with
  | none => (none, server)
  | some opened =>
    let (line, cursor) := opened.document.lineAt position
    let list := server.engine.complete uri line cursor opened.kind
    (if list.isEmpty then none else some list,
     { server with engine := server.engine.afterComplete line cursor opened.kind })

def shutdown (server : Server) : Server :=
  { server with rescan := none, engine := server.engine.forgetAll, documents := [] }

def step (server : Server) (around : Surroundings) : Request → Reply × List Message × Server
  | .handshake folders rootUri options =>
    let server := server.takeRoot folders rootUri
    let settings := Settings.ofPayload options
    (.capabilities, [], { server with engine := { server.engine with settings } })
  | .ready =>
    let (messages, server) := server.loadCatalog around
    (.done, messages, server)
  | .shutdown => (.done, [], server.shutdown)
  | .openDocument uri languageId version text =>
    (.done, [], server.openDocument uri languageId version text)
  | .changeDocument uri version changes => (.done, [], server.changeDocument uri version changes)
  | .closeDocument uri => (.done, [], server.closeDocument uri)
  | .configure payload =>
    let (messages, server) := server.applySettings around (Settings.ofPayload (some payload))
    (.done, messages, server)
  | .command name => server.runCommand around name
  | .complete uri position =>
    let (list, server) := server.complete uri position
    (.completions list, [], server)
  | .elapse duration => (.done, [], server.elapse duration)

def run (server : Server) : List (Surroundings × Request) → Server
  | [] => server
  | (around, request) :: rest => run (server.step around request).2.2 rest

end Server
end FluxonAssist
