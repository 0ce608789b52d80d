import FluxonAssist.Proofs.DocumentLines
import FluxonAssist.Proofs.Units

/-!
# Incremental edits

A client that knows a text as a list of characters tells an edit by the positions of two indices,
each a line and a number of UTF-16 units from the start of the line. Decoding a position gives the
index back, unless the index stands inside a `\r\n`. Each edit is decoded against the text that the
edits before it have left, so a document in a session of edits has at every moment the text and the
version that the same splices give when they are done on the characters directly.
-/
set_option autoImplicit false
namespace FluxonAssist.Document

open FluxonAssist.Text

/-- The index stands between the return and the feed of one `\r\n`. -/
def SplitsPair (text : List Char) : Nat → Prop
  | 0 => False
  | index + 1 => text[index]? = some '\r' ∧ text[index + 1]? = some '\n'

instance (text : List Char) : (index : Nat) → Decidable (SplitsPair text index)
  | 0 => inferInstanceAs (Decidable False)
  | index + 1 =>
    inferInstanceAs (Decidable (text[index]? = some '\r' ∧ text[index + 1]? = some '\n'))

/-- The number of the line that holds an index; the last line holds the end of the text. -/
def lineHolding : List (List Char) → Nat → Nat
  | line :: next :: rest, index =>
    if index < line.length then 0 else lineHolding (next :: rest) (index - line.length) + 1
  | _, _ => 0

/-- The position of an index: the line that holds it and the units from that line's start to it. -/
def positionAt (text : List Char) (index : Nat) : Position :=
  let line := lineHolding (documentLines text) index
  ⟨line, units ((text.take index).drop (lineStart text line))⟩

/-! ## Decoding a position -/

theorem contentLength_le (line : List Char) : contentLength line ≤ line.length := by
  unfold contentLength
  split <;> omega

theorem splitsPair_append (first second : List Char) (index : Nat)
    (splits : SplitsPair second index) : SplitsPair (first ++ second) (first.length + index) := by
  cases index with
  | zero => exact False.elim splits
  | succ index =>
      show (first ++ second)[first.length + index]? = some '\r' ∧
        (first ++ second)[first.length + index + 1]? = some '\n'
      rw [List.getElem?_append_right (by omega), List.getElem?_append_right (by omega),
        Nat.add_assoc, Nat.add_sub_cancel_left, Nat.add_sub_cancel_left]
      exact splits

/-- The line that holds an index starts no later, and its content reaches as far as the index. -/
theorem lineHolding_spec (lines : List (List Char)) (broken : BrokenLines lines) (index : Nat)
    (inside : index ≤ lines.flatten.length) (whole : ¬ SplitsPair lines.flatten index) :
    ∃ before line after, lines = before ++ line :: after ∧
      before.length = lineHolding lines index ∧ before.flatten.length ≤ index ∧
      index - before.flatten.length ≤ contentLength line := by
  induction broken generalizing index with
  | last body unbroken =>
      refine ⟨[], body, [], rfl, rfl, Nat.zero_le _, ?_⟩
      rw [contentLength_unbroken body unbroken]
      simpa using inside
  | line body ending rest unbroken ends more ih =>
      obtain ⟨next, others, rfl⟩ := List.exists_cons_of_ne_nil more.ne_nil
      rw [lineHolding]
      by_cases here : index < (body ++ ending).length
      · rw [if_pos here]
        refine ⟨[], body ++ ending, next :: others, rfl, rfl, Nat.zero_le _, ?_⟩
        refine le_contentLength body ending unbroken ends index here ?_
        rintro rfl rfl
        apply whole
        simp [SplitsPair]
      · rw [if_neg here]
        have split : index = (body ++ ending).length + (index - (body ++ ending).length) := by
          omega
        obtain ⟨before, line, after, found, count, starts, reaches⟩ :=
          ih (index - (body ++ ending).length)
            (by rw [List.flatten_cons, List.length_append] at inside; omega)
            (fun splits => whole (by
              rw [split]
              exact splitsPair_append _ _ _ splits))
        refine ⟨(body ++ ending) :: before, line, after, by rw [found]; rfl, ?_, ?_, ?_⟩
        · simp [count]
        · rw [List.flatten_cons, List.length_append]
          omega
        · rw [List.flatten_cons, List.length_append, ← Nat.sub_sub]
          exact reaches

/-- Decoding the position of an index gives the index back. -/
theorem offset_positionAt (text : List Char) (index : Nat) (inside : index ≤ text.length)
    (whole : ¬ SplitsPair text index) : offset text (positionAt text index) = index := by
  obtain ⟨before, line, after, found, count, starts, reaches⟩ :=
    lineHolding_spec (documentLines text) (documentLines_broken text) index
      (by rwa [flatten_documentLines]) (by rwa [flatten_documentLines])
  have start : lineStart text before.length = before.flatten.length := by
    rw [lineStart, found, List.take_left]
  have addressed : lineIndex text before.length = before.length := by
    rw [lineIndex, found]
    simp
  have lineFound : lineText text before.length = line := by
    rw [lineText, found]
    simp
  have textSplit : text = before.flatten ++ (line ++ after.flatten) := by
    rw [← flatten_documentLines text, found]
    simp
  have short := contentLength_le line
  have told : (text.take index).drop before.flatten.length =
      (line.take (contentLength line)).take (index - before.flatten.length) := by
    rw [List.drop_take, List.take_take, Nat.min_eq_left reaches, textSplit, List.drop_left,
      List.take_append_of_le_length (by omega)]
  have decoded := charsWithin_units_take (line.take (contentLength line))
    (index - before.flatten.length) (by rw [List.length_take]; omega)
  simp only [offset, column, positionAt, ← count, addressed, start, lineFound, told, decoded]
  omega

/-! ## Sessions of edits -/

inductive IndexChange where
  | whole (text : List Char)
  | splice (start stop : Nat) (text : List Char)
  deriving DecidableEq, Repr

namespace IndexChange

/-- The edit done on the characters of a text. -/
def onChars (text : List Char) : IndexChange → List Char
  | .whole replacement => replacement
  | .splice start stop inserted => text.take start ++ inserted ++ text.drop stop

/-- The edit as a client that has the text tells it. -/
def told (text : List Char) : IndexChange → Change
  | .whole replacement => .whole replacement
  | .splice start stop inserted =>
    .splice (positionAt text start) (positionAt text stop) inserted

/-- A splice goes forward between indices of the text that do not stand inside a `\r\n`. -/
def Valid (text : List Char) : IndexChange → Prop
  | .whole _ => True
  | .splice start stop _ =>
    start ≤ stop ∧ stop ≤ text.length ∧ ¬ SplitsPair text start ∧ ¬ SplitsPair text stop

/-- Edits in order, each told against the text that those before it leave. -/
def toldAll (text : List Char) : List IndexChange → List Change
  | [] => []
  | change :: rest => change.told text :: toldAll (change.onChars text) rest

/-- Every edit is valid for the text that those before it leave. -/
def AllValid (text : List Char) : List IndexChange → Prop
  | [] => True
  | change :: rest => change.Valid text ∧ AllValid (change.onChars text) rest

theorem applyChange_told (text : List Char) (change : IndexChange) (valid : change.Valid text) :
    applyChange text (change.told text) = change.onChars text := by
  cases change with
  | whole replacement => rfl
  | splice start stop inserted =>
      obtain ⟨forward, inside, startWhole, stopWhole⟩ := valid
      simp only [told, applyChange, Document.splice, onChars]
      rw [offset_positionAt text start (by omega) startWhole,
        offset_positionAt text stop inside stopWhole, Nat.max_eq_left forward]

theorem applyAll_told (text : List Char) (changes : List IndexChange)
    (valid : AllValid text changes) :
    (toldAll text changes).foldl applyChange text = changes.foldl onChars text := by
  induction changes generalizing text with
  | nil => rfl
  | cons change rest ih =>
      obtain ⟨first, later⟩ := valid
      simp only [toldAll, List.foldl_cons]
      rw [applyChange_told text change first]
      exact ih _ later

end IndexChange

/-- A call that edits a document: what the client means, what it sends, and the new version. -/
structure EditCall where
  version : Int
  meant : List IndexChange
  sent : List Change

/-- What a call should do: its edits on the characters if its version is newer, else nothing. -/
def EditCall.onChars (document : Document) (call : EditCall) : Except StaleVersion Document :=
  if document.version < call.version then
    .ok ⟨call.meant.foldl IndexChange.onChars document.text, call.version⟩
  else .error ⟨call.version, document.version⟩

/-- A newer call sends valid edits as positions in the current text; a stale one sends anything. -/
def EditCall.Faithful (document : Document) (call : EditCall) : Prop :=
  document.version < call.version →
    IndexChange.AllValid document.text call.meant ∧
      call.sent = IndexChange.toldAll document.text call.meant

/-- The document after a call; a call that is turned down leaves it as it is. -/
def settle (document : Document) : Except StaleVersion Document → Document
  | .ok edited => edited
  | .error _ => document

/-- The outcomes of calls in order and the document after them. -/
def session (perform : Document → EditCall → Except StaleVersion Document) :
    Document → List EditCall → List (Except StaleVersion Document) × Document
  | document, [] => ([], document)
  | document, call :: rest =>
    let outcome := perform document call
    let later := session perform (document.settle outcome) rest
    (outcome :: later.1, later.2)

/-- Every call is faithful to the document that the calls before it should leave. -/
def FaithfulSession : Document → List EditCall → Prop
  | _, [] => True
  | document, call :: rest =>
    call.Faithful document ∧ FaithfulSession (document.settle (call.onChars document)) rest

theorem apply_faithful (document : Document) (call : EditCall) (faithful : call.Faithful document) :
    document.apply call.sent call.version = call.onChars document := by
  unfold apply EditCall.onChars
  by_cases newer : document.version < call.version
  · obtain ⟨valid, sent⟩ := faithful newer
    rw [if_neg (by omega), if_pos newer, sent,
      IndexChange.applyAll_told document.text call.meant valid]
  · rw [if_pos (by omega), if_neg newer]

/-- In every session a document has the outcomes, the text and the version that the same edits have
on the list of its characters. -/
theorem session_apply_eq_onChars (document : Document) (calls : List EditCall)
    (faithful : FaithfulSession document calls) :
    session (fun current call => current.apply call.sent call.version) document calls =
      session (fun current call => call.onChars current) document calls := by
  induction calls generalizing document with
  | nil => rfl
  | cons call rest ih =>
      obtain ⟨first, later⟩ := faithful
      have same := apply_faithful document call first
      simp only [session]
      rw [same, ih _ later]

/-- Two newer calls around a stale one: a character of two units goes, and a `\r\n` is removed. -/
def mixedSession : List EditCall :=
  [⟨2, [.splice 1 3 ['x'], .splice 4 4 ['y']],
      [.splice ⟨0, 1⟩ ⟨0, 4⟩ ['x'], .splice ⟨1, 0⟩ ⟨1, 0⟩ ['y']]⟩,
    ⟨2, [], [.splice ⟨7, 0⟩ ⟨0, 3⟩ ['z']]⟩,
    ⟨5, [.splice 2 4 []], [.splice ⟨0, 2⟩ ⟨1, 0⟩ []]⟩]

theorem mixedSession_result :
    FaithfulSession ⟨"a😀b\r\nc".toList, 1⟩ mixedSession ∧
      (session (fun current call => current.apply call.sent call.version)
        ⟨"a😀b\r\nc".toList, 1⟩ mixedSession).2 = ⟨"axyc".toList, 5⟩ := by
  have faithful : FaithfulSession ⟨"a😀b\r\nc".toList, 1⟩ mixedSession := by
    refine ⟨fun _ => ⟨⟨?_, ?_, trivial⟩, ?_⟩, fun newer => ?_, fun _ => ⟨⟨?_, trivial⟩, ?_⟩,
      trivial⟩
    · exact ⟨by decide, by decide, by decide, by decide⟩
    · exact ⟨by decide, by decide, by decide, by decide⟩
    · decide
    · exact absurd newer (by decide)
    · exact ⟨by decide, by decide, by decide, by decide⟩
    · decide
  refine ⟨faithful, ?_⟩
  rw [session_apply_eq_onChars _ _ faithful]
  decide

end FluxonAssist.Document
