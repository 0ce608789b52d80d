import FluxonAssist.Proofs.Table
import FluxonAssist.Server

/-!
# Kept functions of open documents

Three stores speak about a document: the open documents, the delayed scans and the kept functions.
They are changed by different requests and by timer ticks. What is kept of a source is the scan of
its current text or, while a scan with that text is pending, the scan of a text it had since it was
last opened; of any other document nothing is kept and nothing is pending. After the shutdown
nothing is kept at all. A document is open from its last opening until it is closed or the server is
shut down.

The timer can do one thing only to a document, `Settles`: nothing, or its pending scan. Everything
about ticks goes through it.
-/
set_option autoImplicit false
namespace FluxonAssist

/-! ## Kept functions after effects -/

theorem Engine.cached_scan (engine : Engine) (uri other : Uri) (text : List Char) :
    (engine.scan uri text).cached other =
      if other = uri then declaredFunctions text else engine.cached other := by
  simp only [Engine.scan, Engine.cached, Table.get?_insert]
  split <;> rfl

theorem Engine.cached_forget (engine : Engine) (uri other : Uri) :
    (engine.forget uri).cached other = if other = uri then [] else engine.cached other := by
  simp only [Engine.forget, Engine.cached, Table.get?_erase]
  split <;> rfl

theorem Engine.performAll_append (engine : Engine) (first second : List Rescan.Effect) :
    engine.performAll (first ++ second) = (engine.performAll first).performAll second :=
  List.foldl_append

/-- Scanning the rows of a table replaces what is kept of exactly their documents. -/
theorem Engine.cached_performAll_rows (engine : Engine) (rows : Table Uri PendingScan)
    (distinct : rows.Distinct) (uri : Uri) :
    (engine.performAll (rows.map fun row => .scan row.1 row.2.text)).cached uri =
      match rows.get? uri with
      | some scan => declaredFunctions scan.text
      | none => engine.cached uri := by
  induction rows generalizing engine with
  | nil => rfl
  | cons row rest ih =>
      obtain ⟨fresh, distinctRest⟩ := List.nodup_cons.mp distinct
      have tail := ih (engine.scan row.1 row.2.text) distinctRest
      rw [Table.get?_cons]
      by_cases same : row.1 = uri
      · have absent : Table.get? rest uri = none :=
          Table.get?_eq_none_of_notMem rest uri (same ▸ fresh)
        rw [absent, Engine.cached_scan, if_pos same.symm] at tail
        rw [if_pos same]
        exact tail
      · rw [Engine.cached_scan, if_neg (Ne.symm same)] at tail
        rw [if_neg same]
        exact tail

/-! ## What time does to one document -/

/-- A document's pending scan and kept functions either stay or the pending scan is done. -/
def Settles (pending pending' : Option PendingScan) (kept kept' : List UserFunction) : Prop :=
  (pending' = pending ∧ kept' = kept) ∨
    ∃ scan, pending = some scan ∧ pending' = none ∧ kept' = declaredFunctions scan.text

theorem Settles.trans {pending pending' pending'' : Option PendingScan}
    {kept kept' kept'' : List UserFunction} (first : Settles pending pending' kept kept')
    (second : Settles pending' pending'' kept' kept'') :
    Settles pending pending'' kept kept'' := by
  rcases first with ⟨rfl, rfl⟩ | ⟨scan, found, rfl, rfl⟩
  · exact second
  · rcases second with ⟨rfl, rfl⟩ | ⟨later, impossible, -⟩
    · exact Or.inr ⟨scan, found, rfl, rfl⟩
    · cases impossible

namespace Rescan

theorem restartTimer_pending (state : Rescan) : state.restartTimer.pending = state.pending := rfl

theorem tick_settles (state : Rescan) (engine : Engine) (time : Nat)
    (distinct : state.pending.Distinct) (uri : Uri) :
    Settles (state.pending.get? uri) ((state.tick time).2.pending.get? uri)
      (engine.cached uri) ((engine.performAll (state.tick time).1).cached uri) := by
  have performed := Engine.cached_performAll_rows engine _
    (distinct.filter fun row => isReady time row.2) uri
  rw [Table.get?_filter _ distinct] at performed
  simp only [tick, restartTimer_pending]
  rw [performed, Table.get?_filter _ distinct]
  cases found : state.pending.get? uri with
  | none => exact Or.inl ⟨rfl, rfl⟩
  | some scan =>
      by_cases ready : isReady time scan = true
      · refine Or.inr ⟨scan, rfl, ?_, ?_⟩ <;> simp [ready, Option.filter]
      · refine Or.inl ⟨?_, ?_⟩ <;> simp [ready, Option.filter]

theorem ticksUntil_distinct (time fuel : Nat) (state : Rescan)
    (distinct : state.pending.Distinct) : (ticksUntil time fuel state).2.pending.Distinct := by
  induction fuel generalizing state with
  | zero => exact distinct
  | succ fuel ih =>
      rw [ticksUntil]
      cases state.nextTick with
      | none => exact distinct
      | some next =>
          by_cases due : next ≤ time
          · simp only [if_pos due]
            exact ih (state.tick next).2 (distinct.filter _)
          · simp only [if_neg due]
            exact distinct

theorem ticksUntil_settles (time fuel : Nat) (state : Rescan) (engine : Engine)
    (distinct : state.pending.Distinct) (uri : Uri) :
    Settles (state.pending.get? uri) ((ticksUntil time fuel state).2.pending.get? uri)
      (engine.cached uri) ((engine.performAll (ticksUntil time fuel state).1).cached uri) := by
  induction fuel generalizing state engine with
  | zero => exact Or.inl ⟨rfl, rfl⟩
  | succ fuel ih =>
      rw [ticksUntil]
      cases state.nextTick with
      | none => exact Or.inl ⟨rfl, rfl⟩
      | some next =>
          by_cases due : next ≤ time
          · have step := tick_settles state engine next distinct uri
            have later := ih (state.tick next).2 (engine.performAll (state.tick next).1)
              (distinct.filter _)
            simp only [if_pos due, Engine.performAll_append]
            exact step.trans later
          · simp only [if_neg due]
            exact Or.inl ⟨rfl, rfl⟩

theorem elapse_distinct (state : Rescan) (duration : Nat) (distinct : state.pending.Distinct) :
    (state.elapse duration).2.pending.Distinct :=
  ticksUntil_distinct (state.now + duration) (duration / tickPeriod + 1) state distinct

theorem elapse_settles (state : Rescan) (engine : Engine) (duration : Nat)
    (distinct : state.pending.Distinct) (uri : Uri) :
    Settles (state.pending.get? uri) ((state.elapse duration).2.pending.get? uri)
      (engine.cached uri) ((engine.performAll (state.elapse duration).1).cached uri) :=
  ticksUntil_settles (state.now + duration) (duration / tickPeriod + 1) state engine distinct uri

end Rescan

/-! ## One document in the three stores -/

/-- What the stores hold of one document fits together; `had` tells the texts that the document has
had since it was last opened. -/
inductive Fits (had : List Char → Prop) :
    Option OpenDocument → Option PendingScan → List UserFunction → Prop
  /-- A source that is not waiting is scanned. -/
  | scanned (document : Document) :
      Fits had (some ⟨.source, document⟩) none (declaredFunctions document.text)
  /-- A source that is waiting waits with its current text and keeps the scan of an earlier one. -/
  | waiting (document : Document) (scan : PendingScan) (text : List Char)
      (same : scan.text = document.text) (earlier : had text) :
      Fits had (some ⟨.source, document⟩) (some scan) (declaredFunctions text)
  | embedded (document : Document) : Fits had (some ⟨.embedded, document⟩) none []
  | closed : Fits had none none []

theorem Fits.mono {had had' : List Char → Prop} {document : Option OpenDocument}
    {pending : Option PendingScan} {kept : List UserFunction}
    (fits : Fits had document pending kept) (carried : ∀ text, had text → had' text) :
    Fits had' document pending kept := by
  cases fits with
  | scanned document => exact .scanned document
  | waiting document scan text same earlier =>
      exact .waiting document scan text same (carried text earlier)
  | embedded document => exact .embedded document
  | closed => exact .closed

theorem Fits.settles {had : List Char → Prop} {document : Option OpenDocument}
    {pending pending' : Option PendingScan} {kept kept' : List UserFunction}
    (fits : Fits had document pending kept) (settles : Settles pending pending' kept kept') :
    Fits had document pending' kept' := by
  rcases settles with ⟨rfl, rfl⟩ | ⟨scan, found, rfl, rfl⟩
  · exact fits
  · cases fits with
    | waiting document pendingScan text same earlier =>
        cases found
        rw [same]
        exact .scanned document
    | scanned document => cases found
    | embedded document => cases found
    | closed => cases found

/-- A document that is not open as a source has no pending scan and no kept functions. -/
theorem Fits.of_not_source {had : List Char → Prop} {document : Option OpenDocument}
    {pending : Option PendingScan} {kept : List UserFunction}
    (fits : Fits had document pending kept)
    (other : ∀ opened, document = some opened → opened.kind ≠ .source) :
    pending = none ∧ kept = [] := by
  cases fits with
  | scanned document => exact absurd rfl (other _ rfl)
  | waiting document scan text same earlier => exact absurd rfl (other _ rfl)
  | embedded document => exact ⟨rfl, rfl⟩
  | closed => exact ⟨rfl, rfl⟩

theorem Fits.of_idle_source {had : List Char → Prop} {opened : OpenDocument}
    {kept : List UserFunction} (fits : Fits had (some opened) none kept)
    (source : opened.kind = .source) : kept = declaredFunctions opened.document.text := by
  cases fits with
  | scanned document => rfl
  | embedded document => cases source

theorem Fits.of_pending {had : List Char → Prop} {document : Option OpenDocument}
    {scan : PendingScan} {kept : List UserFunction} (fits : Fits had document (some scan) kept) :
    ∃ opened text, document = some opened ∧ opened.kind = .source ∧
      scan.text = opened.document.text ∧ had text ∧ kept = declaredFunctions text := by
  cases fits with
  | waiting document scan text same earlier => exact ⟨_, text, rfl, rfl, same, earlier, rfl⟩

/-- A source that is edited waits with its new text. -/
theorem Fits.edited {had : List Char → Prop} {old : Document} {pending : Option PendingScan}
    {kept : List UserFunction} (fits : Fits had (some ⟨.source, old⟩) pending kept)
    (current : had old.text) (document : Document) (time : Nat) :
    Fits had (some ⟨.source, document⟩) (some ⟨time, document.text⟩) kept := by
  cases fits with
  | scanned => exact .waiting document _ old.text rfl current
  | waiting _ scan text same earlier => exact .waiting document _ text rfl earlier

namespace Server

/-- The server still scans, and its stores fit together at every document. -/
def Tracks (had : Uri → List Char → Prop) (server : Server) : Prop :=
  ∃ rescan, server.rescan = some rescan ∧ rescan.pending.Distinct ∧
    ∀ uri, Fits (had uri) (server.documents.get? uri) (rescan.pending.get? uri)
      (server.engine.cached uri)

/-! ## Requests that leave the three stores alone -/

/-- The two servers have the same documents, delayed scans and kept functions. -/
structure SameScans (server server' : Server) : Prop where
  documents : server'.documents = server.documents
  rescan : server'.rescan = server.rescan
  functions : server'.engine.functions = server.engine.functions

theorem SameScans.trans {first second third : Server} (left : SameScans first second)
    (right : SameScans second third) : SameScans first third :=
  ⟨right.documents.trans left.documents, right.rescan.trans left.rescan,
    right.functions.trans left.functions⟩

theorem SameScans.cached {server server' : Server} (same : SameScans server server') (uri : Uri) :
    server'.engine.cached uri = server.engine.cached uri := by
  simp only [Engine.cached, same.functions]

theorem SameScans.tracks {server server' : Server} (same : SameScans server server')
    {had : Uri → List Char → Prop} (tracks : Tracks had server) : Tracks had server' := by
  obtain ⟨rescan, found, distinct, fits⟩ := tracks
  refine ⟨rescan, same.rescan.trans found, distinct, ?_⟩
  intro uri
  rw [same.documents, same.cached]
  exact fits uri

theorem loadCatalog_sameScans (server : Server) (around : Surroundings) :
    SameScans server (server.loadCatalog around).2 := by
  unfold loadCatalog
  split <;> rename_i outcome <;>
    exact ⟨rfl, rfl, congrArg (fun pair => pair.2.functions) outcome.symm⟩

theorem applySettings_sameScans (server : Server) (around : Surroundings) (settings : Settings) :
    SameScans server (server.applySettings around settings).2 := by
  unfold applySettings
  dsimp only
  split
  · exact ⟨rfl, rfl, rfl⟩
  · split <;> rename_i outcome
    · exact ⟨rfl, rfl, congrArg (fun pair => pair.2.functions) outcome.symm⟩
    · refine SameScans.trans ?_ (loadCatalog_sameScans _ around)
      exact ⟨rfl, rfl, congrArg (fun pair => pair.2.functions) outcome.symm⟩
    · exact ⟨rfl, rfl, congrArg (fun pair => pair.2.functions) outcome.symm⟩

theorem runCommand_sameScans (server : Server) (around : Surroundings) (name : String) :
    SameScans server (server.runCommand around name).2.2 := by
  unfold runCommand
  split
  · exact ⟨rfl, rfl, rfl⟩
  · split <;> rename_i outcome <;>
      exact ⟨rfl, rfl, congrArg (fun pair => pair.2.functions) outcome.symm⟩

theorem complete_sameScans (server : Server) (uri : Uri) (position : Position) :
    SameScans server (server.complete uri position).2 := by
  unfold Server.complete
  split
  · exact ⟨rfl, rfl, rfl⟩
  · refine ⟨rfl, rfl, ?_⟩
    simp only [Engine.afterComplete]
    split <;> rfl

theorem takeRoot_sameScans (server : Server) (folders : Option (List Uri)) (rootUri : Option Uri) :
    SameScans server (server.takeRoot folders rootUri) := by
  unfold takeRoot
  split <;> exact ⟨rfl, rfl, rfl⟩

/-! ## Requests about documents -/

theorem openDocument_tracks {had had' : Uri → List Char → Prop} {server : Server}
    (tracks : Tracks had server) (uri : Uri) (languageId : String) (version : Int)
    (text : List Char)
    (steady : DocumentKind.detect (some languageId) uri.path = .embedded →
      ∀ opened, server.documents.get? uri = some opened → opened.kind ≠ .source)
    (carried : ∀ other, other ≠ uri → ∀ text, had other text → had' other text) :
    Tracks had' (server.openDocument uri languageId version text) := by
  obtain ⟨rescan, found, distinct, fits⟩ := tracks
  unfold openDocument
  cases kind : DocumentKind.detect (some languageId) uri.path with
  | source =>
      simp only [if_true, notify, found, Rescan.handle]
      refine ⟨_, rfl, distinct.erase uri, ?_⟩
      intro other
      simp only [Rescan.restartTimer_pending, Table.get?_insert, Table.get?_erase,
        Engine.performAll, List.foldl_cons, List.foldl_nil, Engine.perform, Engine.cached_scan]
      by_cases same : other = uri
      · simp only [if_pos same]
        exact .scanned ⟨text, version⟩
      · simp only [if_neg same]
        exact (fits other).mono (carried other same)
  | embedded =>
      simp only [reduceCtorEq, if_false]
      refine ⟨rescan, found, distinct, ?_⟩
      intro other
      simp only [Table.get?_insert]
      by_cases same : other = uri
      · subst same
        obtain ⟨noScan, nothing⟩ := (fits other).of_not_source (steady kind)
        rw [noScan, nothing, if_pos rfl]
        exact .embedded ⟨text, version⟩
      · simp only [if_neg same]
        exact (fits other).mono (carried other same)

theorem changeDocument_tracks {had : Uri → List Char → Prop} {server : Server}
    (tracks : Tracks had server) (uri : Uri) (version : Int) (changes : List Change)
    (current : ∀ opened, server.documents.get? uri = some opened →
      had uri opened.document.text) :
    Tracks had (server.changeDocument uri version changes) := by
  unfold changeDocument
  cases opening : server.documents.get? uri with
  | none => exact tracks
  | some opened =>
      cases applied : opened.document.apply changes version with
      | error stale => simpa only [applied] using tracks
      | ok document =>
          obtain ⟨rescan, found, distinct, fits⟩ := tracks
          have before := fits uri
          rw [opening] at before
          have text := current opened opening
          obtain ⟨kind, old⟩ := opened
          simp only [applied]
          cases kind with
          | source =>
              simp only [if_true, notify, found, Rescan.handle]
              refine ⟨_, rfl, distinct.insert uri _, ?_⟩
              intro other
              simp only [Rescan.restartTimer_pending, Table.get?_insert, Engine.performAll,
                List.foldl_nil]
              by_cases same : other = uri
              · subst same
                simp only [if_true]
                exact before.edited text document rescan.now
              · simp only [if_neg same]
                exact fits other
          | embedded =>
              simp only [reduceCtorEq, if_false]
              refine ⟨rescan, found, distinct, ?_⟩
              intro other
              simp only [Table.get?_insert]
              by_cases same : other = uri
              · subst same
                obtain ⟨noScan, nothing⟩ := before.of_not_source (by rintro _ ⟨⟩; simp)
                rw [noScan, nothing, if_pos rfl]
                exact .embedded document
              · simp only [if_neg same]
                exact fits other

theorem closeDocument_tracks {had : Uri → List Char → Prop} {server : Server}
    (tracks : Tracks had server) (uri : Uri) : Tracks had (server.closeDocument uri) := by
  obtain ⟨rescan, found, distinct, fits⟩ := tracks
  simp only [closeDocument, notify, found, Rescan.handle]
  refine ⟨_, rfl, distinct.erase uri, ?_⟩
  intro other
  simp only [Rescan.restartTimer_pending, Table.get?_erase, Engine.performAll, List.foldl_cons,
    List.foldl_nil, Engine.perform, Engine.cached_forget]
  by_cases same : other = uri
  · simp only [if_pos same]
    exact .closed
  · simp only [if_neg same]
    exact fits other

theorem elapse_tracks {had : Uri → List Char → Prop} {server : Server}
    (tracks : Tracks had server) (duration : Nat) : Tracks had (server.elapse duration) := by
  obtain ⟨rescan, found, distinct, fits⟩ := tracks
  simp only [elapse, found]
  refine ⟨_, rfl, rescan.elapse_distinct duration distinct, ?_⟩
  intro uri
  exact (fits uri).settles (rescan.elapse_settles server.engine duration distinct uri)

/-! ## Whole runs -/

def Opens (uri : Uri) : Request → Prop
  | .openDocument opened _ _ _ => opened = uri
  | _ => False

/-- The request does not open as an embedded document what is still open as a source. -/
def Steady (server : Server) : Request → Prop
  | .openDocument uri languageId _ _ =>
    DocumentKind.detect (some languageId) uri.path = .embedded →
      ∀ opened, server.documents.get? uri = some opened → opened.kind ≠ .source
  | _ => True

def SteadyRun (server : Server) : List (Surroundings × Request) → Prop
  | [] => True
  | (around, request) :: rest =>
    server.Steady request ∧ SteadyRun (server.step around request).2.2 rest

/-- A text that the document has had in a run since it was last opened. -/
def HadText (server : Server) (history : List (Surroundings × Request)) (uri : Uri)
    (text : List Char) : Prop :=
  ∃ before later opened, history = before ++ later ∧ (∀ moment ∈ later, ¬ Opens uri moment.2) ∧
    (server.run before).documents.get? uri = some opened ∧ opened.document.text = text

theorem HadText.current {server : Server} {history : List (Surroundings × Request)} {uri : Uri}
    {opened : OpenDocument} (found : (server.run history).documents.get? uri = some opened) :
    HadText server history uri opened.document.text :=
  ⟨history, [], opened, (List.append_nil history).symm, by simp, found, rfl⟩

theorem HadText.snoc {server : Server} {history : List (Surroundings × Request)} {uri : Uri}
    {text : List Char} (had : HadText server history uri text) (moment : Surroundings × Request)
    (stays : ¬ Opens uri moment.2) : HadText server (history ++ [moment]) uri text := by
  obtain ⟨before, later, opened, rfl, quiet, found, same⟩ := had
  refine ⟨before, later ++ [moment], opened, List.append_assoc .., ?_, found, same⟩
  intro other member
  rcases List.mem_append.mp member with member | member
  · exact quiet other member
  · rw [List.mem_singleton.mp member]
    exact stays

theorem Tracks.mono {had had' : Uri → List Char → Prop} {server : Server}
    (tracks : Tracks had server) (carried : ∀ uri text, had uri text → had' uri text) :
    Tracks had' server := by
  obtain ⟨rescan, found, distinct, fits⟩ := tracks
  exact ⟨rescan, found, distinct, fun uri => (fits uri).mono (carried uri)⟩

/-- A request that is not the shutdown keeps the stores together. -/
theorem step_tracks {had had' : Uri → List Char → Prop} {server : Server}
    (tracks : Tracks had server) (around : Surroundings) (request : Request)
    (running : request ≠ .shutdown) (steady : server.Steady request)
    (carried : ∀ uri text, ¬ Opens uri request → had uri text → had' uri text)
    (current : ∀ uri opened, server.documents.get? uri = some opened →
      had uri opened.document.text) :
    Tracks had' (server.step around request).2.2 := by
  have carriedAll (quiet : ∀ uri, ¬ Opens uri request) : Tracks had' server :=
    tracks.mono fun uri text => carried uri text (quiet uri)
  have currentAll (quiet : ∀ uri, ¬ Opens uri request) (uri : Uri) (opened : OpenDocument)
      (found : server.documents.get? uri = some opened) : had' uri opened.document.text :=
    carried uri _ (quiet uri) (current uri opened found)
  cases request with
  | openDocument uri languageId version text =>
      exact openDocument_tracks tracks uri languageId version text steady
        fun other differs earlier => carried other earlier (Ne.symm differs)
  | changeDocument uri version changes =>
      exact changeDocument_tracks (carriedAll fun _ => id) uri version changes
        (currentAll (fun _ => id) uri)
  | closeDocument uri => exact closeDocument_tracks (carriedAll fun _ => id) uri
  | elapse duration => exact elapse_tracks (carriedAll fun _ => id) duration
  | shutdown => exact absurd rfl running
  | handshake folders rootUri options =>
      have same := takeRoot_sameScans server folders rootUri
      exact SameScans.tracks ⟨same.documents, same.rescan, same.functions⟩
        (carriedAll fun _ => id)
  | ready => exact (loadCatalog_sameScans server around).tracks (carriedAll fun _ => id)
  | configure payload =>
      exact (applySettings_sameScans server around _).tracks (carriedAll fun _ => id)
  | command name => exact (runCommand_sameScans server around name).tracks (carriedAll fun _ => id)
  | complete uri position =>
      exact (complete_sameScans server uri position).tracks (carriedAll fun _ => id)

theorem run_append (server : Server) (before later : List (Surroundings × Request)) :
    server.run (before ++ later) = (server.run before).run later := by
  induction before generalizing server with
  | nil => rfl
  | cons moment rest ih => exact ih _

theorem run_tracks (server : Server) (before later : List (Surroundings × Request))
    (running : ∀ moment ∈ later, moment.2 ≠ .shutdown)
    (steady : SteadyRun (server.run before) later)
    (tracks : Tracks (HadText server before) (server.run before)) :
    Tracks (HadText server (before ++ later)) (server.run (before ++ later)) := by
  induction later generalizing before with
  | nil => simpa using tracks
  | cons moment rest ih =>
      obtain ⟨around, request⟩ := moment
      have next : server.run (before ++ [(around, request)]) =
          ((server.run before).step around request).2.2 := run_append server before _
      have tracksNext := step_tracks tracks around request (running _ (List.mem_cons_self ..))
        steady.1 (fun uri text stays had => had.snoc (around, request) stays)
        (fun uri opened found => HadText.current found)
      rw [← next] at tracksNext
      have result := ih (before ++ [(around, request)])
        (fun other member => running other (List.mem_cons_of_mem _ member))
        (next ▸ steady.2) tracksNext
      simpa using result

theorem new_tracks (fallback : String) :
    Tracks (HadText { fallback } []) (run { fallback } []) :=
  ⟨{}, rfl, List.nodup_nil, fun _ => .closed⟩

/-! ## Which documents are open -/

def Closes (uri : Uri) : Request → Prop
  | .closeDocument closed => closed = uri
  | .shutdown => True
  | _ => False

/-- What is held of one document after a request. -/
def documentAfter (uri : Uri) (held : Option OpenDocument) : Request → Option OpenDocument
  | .openDocument opened languageId version text =>
    if opened = uri then some ⟨DocumentKind.detect (some languageId) uri.path, ⟨text, version⟩⟩
    else held
  | .changeDocument changed version changes =>
    if changed = uri then
      held.map fun opened =>
        match opened.document.apply changes version with
        | .ok document => { opened with document }
        | .error _ => opened
    else held
  | .closeDocument closed => if closed = uri then none else held
  | .shutdown => none
  | _ => held

theorem notify_documents (server : Server) (event : Rescan.Event) :
    (server.notify event).documents = server.documents := by
  unfold notify
  split <;> rfl

theorem changeDocument_document (server : Server) (changed uri : Uri) (version : Int)
    (changes : List Change) :
    (server.changeDocument changed version changes).documents.get? uri =
      documentAfter uri (server.documents.get? uri) (.changeDocument changed version changes) := by
  rw [changeDocument, documentAfter]
  by_cases same : changed = uri
  · subst same
    cases opening : server.documents.get? changed with
    | none => simp [opening]
    | some opened =>
        cases applied : opened.document.apply changes version with
        | error stale => simp [opening, applied]
        | ok document =>
            by_cases source : opened.kind = .source <;>
              simp [applied, source, notify_documents, Table.get?_insert]
  · rw [if_neg same]
    split
    · rfl
    · split
      · rfl
      · dsimp only
        split <;> simp [notify_documents, Table.get?_insert, Ne.symm same]

theorem step_document (server : Server) (around : Surroundings) (request : Request) (uri : Uri) :
    (server.step around request).2.2.documents.get? uri =
      documentAfter uri (server.documents.get? uri) request := by
  cases request with
  | openDocument opened languageId version text =>
      simp only [step, openDocument, documentAfter, Table.get?_insert]
      by_cases same : uri = opened
      · subst same
        rw [if_pos rfl, if_pos rfl]
      · rw [if_neg same, if_neg (Ne.symm same)]
        split
        · rw [notify_documents]
        · rfl
  | changeDocument changed version changes =>
      exact changeDocument_document server changed uri version changes
  | closeDocument closed =>
      simp only [step, closeDocument, documentAfter, notify_documents, Table.get?_erase, eq_comm]
  | shutdown => rfl
  | elapse duration =>
      simp only [step, elapse]
      split <;> rfl
  | handshake folders rootUri options =>
      exact congrArg (Table.get? · uri) (takeRoot_sameScans server folders rootUri).documents
  | ready => exact congrArg (Table.get? · uri) (loadCatalog_sameScans server around).documents
  | configure payload =>
      exact congrArg (Table.get? · uri) (applySettings_sameScans server around _).documents
  | command name =>
      exact congrArg (Table.get? · uri) (runCommand_sameScans server around name).documents
  | complete asked position =>
      exact congrArg (Table.get? · uri) (complete_sameScans server asked position).documents

/-- What is held of a document is decided by the requests about it alone. -/
theorem run_document (server : Server) (history : List (Surroundings × Request)) (uri : Uri) :
    (server.run history).documents.get? uri =
      history.foldl (fun held moment => documentAfter uri held moment.2)
        (server.documents.get? uri) := by
  induction history generalizing server with
  | nil => rfl
  | cons moment rest ih => rw [run, ih, step_document, List.foldl_cons]

/-- Edits and requests about other documents leave a document open, or not, as it was. -/
theorem documentAfter_kind (uri : Uri) (held : Option OpenDocument) (request : Request)
    (stays : ¬ Opens uri request) (kept : ¬ Closes uri request) :
    (documentAfter uri held request).map OpenDocument.kind = held.map OpenDocument.kind := by
  cases request with
  | openDocument opened languageId version text =>
      have other : ¬ opened = uri := stays
      rw [documentAfter, if_neg other]
  | changeDocument changed version changes =>
      rw [documentAfter]
      split
      · cases held with
        | none => rfl
        | some opened =>
            simp only [Option.map_some]
            split <;> rfl
      · rfl
  | closeDocument closed =>
      have other : ¬ closed = uri := kept
      rw [documentAfter, if_neg other]
  | shutdown => exact absurd trivial kept
  | _ => rfl

theorem run_kind_of_untouched (server : Server) (history : List (Surroundings × Request))
    (uri : Uri)
    (untouched : ∀ moment ∈ history, ¬ Opens uri moment.2 ∧ ¬ Closes uri moment.2) :
    ((server.run history).documents.get? uri).map OpenDocument.kind =
      (server.documents.get? uri).map OpenDocument.kind := by
  rw [run_document]
  generalize server.documents.get? uri = held
  induction history generalizing held with
  | nil => rfl
  | cons moment rest ih =>
      obtain ⟨⟨stays, kept⟩, later⟩ := List.forall_mem_cons.mp untouched
      rw [List.foldl_cons, ih later, documentAfter_kind uri held moment.2 stays kept]

theorem exists_last_touch (history : List (Surroundings × Request)) (uri : Uri) :
    (∀ moment ∈ history, ¬ Opens uri moment.2 ∧ ¬ Closes uri moment.2) ∨
      ∃ before moment later, history = before ++ moment :: later ∧
        (Opens uri moment.2 ∨ Closes uri moment.2) ∧
        ∀ other ∈ later, ¬ Opens uri other.2 ∧ ¬ Closes uri other.2 := by
  induction history with
  | nil => exact Or.inl (by simp)
  | cons first rest ih =>
      rcases ih with untouched | ⟨before, moment, later, split, touches, untouched⟩
      · by_cases touches : Opens uri first.2 ∨ Closes uri first.2
        · exact Or.inr ⟨[], first, rest, rfl, touches, untouched⟩
        · exact Or.inl (List.forall_mem_cons.mpr ⟨not_or.mp touches, untouched⟩)
      · refine Or.inr ⟨first :: before, moment, later, ?_, touches, untouched⟩
        rw [split, List.cons_append]

/-- A document of a new server is open as one kind exactly if it has been opened so and, since then,
neither opened again nor closed nor dropped by the shutdown. -/
theorem run_opened_iff (fallback : String) (history : List (Surroundings × Request)) (uri : Uri)
    (kind : DocumentKind) :
    (∃ opened, (run { fallback } history).documents.get? uri = some opened ∧ opened.kind = kind) ↔
      ∃ before around languageId version text later,
        history = before ++ (around, .openDocument uri languageId version text) :: later ∧
        DocumentKind.detect (some languageId) uri.path = kind ∧
        ∀ moment ∈ later, ¬ Opens uri moment.2 ∧ ¬ Closes uri moment.2 := by
  rw [← Option.map_eq_some_iff]
  constructor
  · intro isOpen
    rcases exists_last_touch history uri with untouched | ⟨before, moment, later, rfl, last⟩
    · rw [run_kind_of_untouched _ history uri untouched] at isOpen
      cases isOpen
    · obtain ⟨touches, untouched⟩ := last
      obtain ⟨around, request⟩ := moment
      rw [run_append, run, run_kind_of_untouched _ later uri untouched, step_document] at isOpen
      cases request with
      | openDocument opened languageId version text =>
          obtain rfl : opened = uri := touches.resolve_right id
          rw [documentAfter, if_pos rfl] at isOpen
          exact ⟨before, around, languageId, version, text, later, rfl, Option.some.inj isOpen,
            untouched⟩
      | closeDocument closed =>
          obtain rfl : closed = uri := touches.resolve_left id
          rw [documentAfter, if_pos rfl] at isOpen
          cases isOpen
      | shutdown => cases isOpen
      | _ => exact absurd touches (by simp [Opens, Closes])
  · rintro ⟨before, around, languageId, version, text, later, rfl, detected, untouched⟩
    rw [run_append, run, run_kind_of_untouched _ later uri untouched, step_document,
      documentAfter, if_pos rfl, ← detected]
    rfl

/-! ## After the shutdown -/

/-- The delayed scans have been stopped and nothing is kept. -/
def Stopped (server : Server) : Prop := server.rescan = none ∧ server.engine.functions = []

theorem SameScans.stopped {server server' : Server} (same : SameScans server server')
    (stopped : server.Stopped) : server'.Stopped :=
  ⟨same.rescan.trans stopped.1, same.functions.trans stopped.2⟩

theorem notify_stopped {server : Server} (stopped : server.Stopped) (event : Rescan.Event) :
    server.notify event = server := by
  simp only [notify, stopped.1]

theorem step_stopped {server : Server} (stopped : server.Stopped) (around : Surroundings)
    (request : Request) : (server.step around request).2.2.Stopped := by
  cases request with
  | openDocument uri languageId version text =>
      simp only [step, openDocument, notify_stopped stopped, ite_self]
      exact stopped
  | changeDocument uri version changes =>
      simp only [step, changeDocument]
      split
      · exact stopped
      · split
        · exact stopped
        · simp only [notify, stopped.1, ite_self]
          exact ⟨rfl, stopped.2⟩
  | closeDocument uri =>
      simp only [step, closeDocument, notify, stopped.1]
      exact ⟨rfl, stopped.2⟩
  | elapse duration =>
      simp only [step, elapse, stopped.1]
      exact stopped
  | shutdown => exact ⟨rfl, rfl⟩
  | handshake folders rootUri options =>
      exact (takeRoot_sameScans server folders rootUri).stopped stopped
  | ready => exact (loadCatalog_sameScans server around).stopped stopped
  | configure payload => exact (applySettings_sameScans server around _).stopped stopped
  | command name => exact (runCommand_sameScans server around name).stopped stopped
  | complete uri position => exact (complete_sameScans server uri position).stopped stopped

theorem run_stopped {server : Server} (stopped : server.Stopped)
    (later : List (Surroundings × Request)) : (server.run later).Stopped := by
  induction later generalizing server with
  | nil => exact stopped
  | cons moment rest ih => exact ih (step_stopped stopped moment.1 moment.2)

theorem run_stopped_of_shutdown (server : Server) (history : List (Surroundings × Request))
    (down : ∃ moment ∈ history, moment.2 = .shutdown) : (server.run history).Stopped := by
  obtain ⟨moment, member, isShutdown⟩ := down
  obtain ⟨before, later, rfl⟩ := List.append_of_mem member
  obtain ⟨around, request⟩ := moment
  cases isShutdown
  rw [run_append]
  have stopped : (server.run before).shutdown.Stopped := ⟨rfl, rfl⟩
  exact run_stopped stopped later

/-- In every run of a new server in which no open source is opened again as an embedded document,
what is kept of a document and what is pending fit its current text until the shutdown, and nothing
is kept after it. -/
theorem run_keeps_scans_of_current_texts (fallback : String)
    (history : List (Surroundings × Request)) (steady : SteadyRun { fallback } history)
    (uri : Uri) :
    ((∀ moment ∈ history, moment.2 ≠ .shutdown) →
      ∃ rescan, (run { fallback } history).rescan = some rescan ∧
        (∀ opened, (run { fallback } history).documents.get? uri = some opened →
          opened.kind = .source → rescan.pending.get? uri = none →
          (run { fallback } history).engine.cached uri =
            declaredFunctions opened.document.text) ∧
        (∀ scan, rescan.pending.get? uri = some scan →
          ∃ opened text, (run { fallback } history).documents.get? uri = some opened ∧
            opened.kind = .source ∧ scan.text = opened.document.text ∧
            HadText { fallback } history uri text ∧
            (run { fallback } history).engine.cached uri = declaredFunctions text) ∧
        ((∀ opened, (run { fallback } history).documents.get? uri = some opened →
            opened.kind = .embedded) →
          rescan.pending.get? uri = none ∧ (run { fallback } history).engine.cached uri = [])) ∧
    ((∃ moment ∈ history, moment.2 = .shutdown) →
      (run { fallback } history).engine.cached uri = []) := by
  constructor
  · intro running
    obtain ⟨rescan, found, -, fits⟩ :=
      run_tracks { fallback } [] history running steady (new_tracks fallback)
    refine ⟨rescan, found, ?_, ?_, ?_⟩
    · intro opened opening source idle
      have fit := fits uri
      rw [List.nil_append, opening, idle] at fit
      exact fit.of_idle_source source
    · intro scan waiting
      have fit := fits uri
      rw [List.nil_append, waiting] at fit
      exact fit.of_pending
    · intro embedded
      refine (fits uri).of_not_source ?_
      intro opened opening source
      rw [embedded opened opening] at source
      cases source
  · intro down
    have stopped := run_stopped_of_shutdown { fallback } history down
    simp only [Engine.cached, stopped.2, Table.get?_nil, Option.getD_none]

/-- A source that is opened, edited and left alone until its scan is nearly due. -/
def editedRun : List (Surroundings × Request) :=
  let around : Surroundings := ⟨⟨fun _ => false, fun _ => .error .missing⟩, none⟩
  let uri : Uri := { scheme := "file", path := "/a.fx" }
  [(around, .openDocument uri "fluxon" 1 "def one() = 1".toList),
    (around, .changeDocument uri 2 [.whole "def two() = 2".toList]),
    (around, .elapse 499)]

theorem editedRun_waits_with_current_text :
    SteadyRun { fallback := "" } editedRun ∧
      ∃ rescan scan, (run { fallback := "" } editedRun).rescan = some rescan ∧
        rescan.pending.get? { scheme := "file", path := "/a.fx" } = some scan ∧
        ∃ opened text,
          (run { fallback := "" } editedRun).documents.get?
            { scheme := "file", path := "/a.fx" } = some opened ∧
          opened.kind = .source ∧ scan.text = opened.document.text ∧
          HadText { fallback := "" } editedRun { scheme := "file", path := "/a.fx" } text ∧
          (run { fallback := "" } editedRun).engine.cached
            { scheme := "file", path := "/a.fx" } = declaredFunctions text := by
  have steady : SteadyRun { fallback := "" } editedRun := by
    simp [editedRun, SteadyRun, Steady, DocumentKind.detect]
  have running : ∀ moment ∈ editedRun, moment.2 ≠ .shutdown := by simp [editedRun]
  obtain ⟨rescan, found, -, waits, -⟩ :=
    (run_keeps_scans_of_current_texts "" editedRun steady
      { scheme := "file", path := "/a.fx" }).1 running
  have pending : rescan.pending.get? { scheme := "file", path := "/a.fx" } =
      some ⟨0, "def two() = 2".toList⟩ := by
    cases found
    decide +kernel
  exact ⟨steady, rescan, _, found, pending, waits _ pending⟩

end Server
end FluxonAssist
