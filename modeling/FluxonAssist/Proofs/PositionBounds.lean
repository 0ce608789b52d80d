import FluxonAssist.Proofs.InsertedText

/-!
# The place of a position

A position addresses a line, which lies between the lines before and after it, and decodes to a
place within the content of that line: behind the greatest number of characters that fit into the
given UTF-16 units. Counting the units from the start of the text gives the same place. Hence an
edit only ever removes and inserts inside the text that it is made on, whatever its range is.
-/
set_option autoImplicit false
namespace FluxonAssist.Document

open FluxonAssist.Text

/-- The line that a position addresses, between the lines before and after it: a content without
line feeds and returns, and the `\n`, `\r\n` or `\r` behind it, if there is one. -/
structure Addressed (text : List Char) (position : Position) (before : List (List Char))
    (content ending : List Char) (after : List (List Char)) : Prop where
  lines : documentLines text = before ++ (content ++ ending) :: after
  number : before.length = min position.line ((documentLines text).length - 1)
  plain : ∀ c ∈ content, c ≠ '\n' ∧ c ≠ '\r'
  ends : ending ∈ [[], ['\n'], ['\r', '\n'], ['\r']]
  measured : contentLength (content ++ ending) = content.length
  chomped : chomp (content ++ ending) = content

/-- A line is its content and a final `\n`, `\r\n` or `\r`; another break belongs to the content. -/
theorem exists_content {body ending : List Char} (unbroken : Unbroken body)
    (ends : ending = [] ∨ LineBreak ending) :
    ∃ content final, body ++ ending = content ++ final ∧ (∀ c ∈ content, c ≠ '\n' ∧ c ≠ '\r') ∧
      final ∈ [[], ['\n'], ['\r', '\n'], ['\r']] ∧
      contentLength (body ++ ending) = content.length := by
  have plain : ∀ c ∈ body, c ≠ '\n' ∧ c ≠ '\r' := fun c member => ne_of_unbroken unbroken member
  rcases ends with rfl | ends
  · refine ⟨body, [], rfl, plain, by simp, ?_⟩
    rw [List.append_nil, contentLength_unbroken body unbroken]
  cases ends with
  | pair => exact ⟨body, ['\r', '\n'], rfl, plain, by simp, contentLength_pair body⟩
  | single c ends =>
      have measured := contentLength_single body unbroken c
      by_cases cut : c = '\n' ∨ c = '\r'
      · rw [if_pos cut] at measured
        refine ⟨body, [c], rfl, plain, ?_, measured⟩
        rcases cut with rfl | rfl <;> simp
      · rw [if_neg cut] at measured
        refine ⟨body ++ [c], [], by simp, ?_, by simp, by simpa using measured⟩
        intro d member
        rcases List.mem_append.mp member with member | member
        · exact plain d member
        · rw [List.mem_singleton.mp member]
          exact not_or.mp cut

theorem exists_addressed (text : List Char) (position : Position) :
    ∃ before content ending after, Addressed text position before content ending after := by
  have inside := lineIndex_lt text position.line
  obtain ⟨body, final, parts, unbroken, ends⟩ := exists_line_parts inside
  obtain ⟨content, ending, split, plain, kind, measured⟩ := exists_content unbroken ends
  have chomped := chomp_eq_take_contentLength unbroken ends
  rw [measured, split, List.take_left] at chomped
  rw [split] at measured parts
  have found := getElem?_documentLines inside
  rw [parts] at found
  obtain ⟨bound, here⟩ := List.getElem?_eq_some_iff.mp found
  refine ⟨(documentLines text).take (lineIndex text position.line), content, ending,
    (documentLines text).drop (lineIndex text position.line + 1), ?_, ?_, plain, kind, measured,
    chomped⟩
  · rw [← here, ← List.drop_eq_getElem_cons, List.take_append_drop]
  · rw [List.length_take]
    unfold lineIndex
    omega

section
variable {text : List Char} {position : Position} {before after : List (List Char)}
  {content ending : List Char}

theorem Addressed.lineIndex_eq (line : Addressed text position before content ending after) :
    lineIndex text position.line = before.length := by
  rw [lineIndex, line.number]

theorem Addressed.lineStart_eq (line : Addressed text position before content ending after) :
    lineStart text before.length = before.flatten.length := by
  rw [lineStart, line.lines, List.take_left]

theorem Addressed.lineText_eq (line : Addressed text position before content ending after) :
    lineText text before.length = content ++ ending := by
  rw [lineText, line.lines]
  simp

theorem Addressed.text_eq (line : Addressed text position before content ending after) :
    text = before.flatten ++ (content ++ (ending ++ after.flatten)) := by
  rw [← flatten_documentLines text, line.lines]
  simp

theorem Addressed.column_eq (line : Addressed text position before content ending after) :
    column text position = charsWithin position.character content := by
  simp only [column, line.lineIndex_eq, line.lineText_eq, line.measured, List.take_left]

theorem Addressed.offset_eq (line : Addressed text position before content ending after) :
    offset text position = before.flatten.length + charsWithin position.character content := by
  rw [offset, line.lineIndex_eq, line.lineStart_eq, line.column_eq]

theorem Addressed.content_end_le (line : Addressed text position before content ending after) :
    before.flatten.length + content.length ≤ text.length := by
  have whole := congrArg List.length line.text_eq
  simp only [List.length_append] at whole
  omega

theorem Addressed.offset_le (line : Addressed text position before content ending after) :
    offset text position ≤ before.flatten.length + content.length := by
  have within := charsWithin_le position.character content
  rw [line.offset_eq]
  omega

/-- The place is also found by counting units from the start of the text, up to the end of the
content. -/
theorem Addressed.offset_eq_charsWithin
    (line : Addressed text position before content ending after) :
    offset text position =
      charsWithin (min (units (text.take before.flatten.length) + position.character)
        (units (text.take (before.flatten.length + content.length)))) text := by
  have upToLine : text.take before.flatten.length = before.flatten := by
    rw [line.text_eq, List.take_left]
  have upToEnd : text.take (before.flatten.length + content.length) =
      before.flatten ++ content := by
    rw [line.text_eq, List.take_length_add_append, List.take_left]
  have room : min (units before.flatten + position.character)
      (units before.flatten + units content) =
      units before.flatten + min position.character (units content) := by omega
  rw [upToLine, upToEnd, units_append, room, line.offset_eq, line.text_eq, charsWithin_append,
    charsWithin_min_units]

end

theorem offset_le_length (text : List Char) (position : Position) :
    offset text position ≤ text.length := by
  obtain ⟨before, content, ending, after, line⟩ := exists_addressed text position
  exact Nat.le_trans line.offset_le line.content_end_le

/-! ## Edits with checked indices -/

/-- The text without the characters between two places, which must be places of it in order. -/
def removed? (text : List Char) (start stop : Nat) : Option (List Char) :=
  if start ≤ stop ∧ stop ≤ text.length then some (text.take start ++ text.drop stop) else none

/-- The text with others put in at a place, which must be a place of it. -/
def inserted? (text : List Char) (place : Nat) (others : List Char) : Option (List Char) :=
  if place ≤ text.length then some (text.take place ++ others ++ text.drop place) else none

/-- An edit as a removal and an insertion, each of which fails outside the text. -/
def checkedChange (text : List Char) : Change → Option (List Char)
  | .whole replacement => some replacement
  | .splice start stop inserted => do
    let place := offset text start
    let rest ← removed? text place (max (offset text stop) place)
    inserted? rest place inserted

theorem checkedChange_eq (text : List Char) (change : Change) :
    checkedChange text change = some (applyChange text change) := by
  cases change with
  | whole replacement => rfl
  | splice start stop inserted =>
      have startInside := offset_le_length text start
      have stopInside := offset_le_length text stop
      have prefixLength : (text.take (offset text start)).length = offset text start := by
        rw [List.length_take]
        omega
      have removal : removed? text (offset text start)
          (max (offset text stop) (offset text start)) =
          some (text.take (offset text start) ++
            text.drop (max (offset text stop) (offset text start))) := by
        rw [removed?, if_pos ⟨by omega, by omega⟩]
      have insertion (rest : List Char) : inserted? (text.take (offset text start) ++ rest)
          (offset text start) inserted =
          some (text.take (offset text start) ++ inserted ++ rest) := by
        rw [inserted?, if_pos (by rw [List.length_append]; omega),
          List.take_append_of_le_length (by omega), List.take_of_length_le (by omega),
          List.drop_append_of_le_length (by omega), List.drop_of_length_le (by omega),
          List.nil_append]
      simp only [checkedChange, removal, Option.bind_eq_bind, Option.bind_some, insertion,
        applyChange, splice]

theorem foldlM_checkedChange (changes : List Change) (text : List Char) :
    changes.foldlM checkedChange text = some (changes.foldl applyChange text) := by
  induction changes generalizing text with
  | nil => rfl
  | cons change rest ih =>
      rw [List.foldlM_cons, checkedChange_eq, Option.bind_eq_bind, Option.bind_some, ih,
        List.foldl_cons]

/-- A position decodes to a place within the content of the line it addresses, and a cursor counts
the characters of that content that fit before the position. Both ways to cut off a final break
leave the same content, and no edit, whatever its ranges are, reaches outside the text it is made
on. -/
theorem position_decodes_within_content (document : Document) (position : Position) :
    (∃ before content ending after,
      Addressed document.text position before content ending after ∧
      before.flatten.length ≤ offset document.text position ∧
      offset document.text position ≤ before.flatten.length + content.length ∧
      before.flatten.length + content.length ≤ document.text.length ∧
      offset document.text position =
        charsWithin (min (units (document.text.take before.flatten.length) + position.character)
          (units (document.text.take (before.flatten.length + content.length)))) document.text ∧
      ∃ cursor, offset document.text position = before.flatten.length + cursor ∧
        document.lineAt position = (content, cursor) ∧
        cursor ≤ content.length ∧ units (content.take cursor) ≤ position.character ∧
        ∀ count ≤ content.length, units (content.take count) ≤ position.character →
          count ≤ cursor) ∧
    (∀ line ∈ documentLines document.text, chomp line = line.take (contentLength line)) ∧
    ∀ changes version, document.version < version →
      ∃ edited, changes.foldlM checkedChange document.text = some edited ∧
        document.apply changes version = .ok ⟨edited, version⟩ := by
  refine ⟨?_, ?_, ?_⟩
  · obtain ⟨before, content, ending, after, line⟩ := exists_addressed document.text position
    have place := line.offset_eq
    refine ⟨before, content, ending, after, line, by omega, line.offset_le, line.content_end_le,
      line.offset_eq_charsWithin, charsWithin position.character content, place, ?_,
      charsWithin_le _ _, units_take_charsWithin_le _ _, ?_⟩
    · rw [lineAt_eq, line.lineIndex_eq, line.lineText_eq, line.measured, List.take_left,
        line.column_eq]
    · intro count inside fits
      exact (le_charsWithin_iff _ _ count inside).mpr fits
  · intro line member
    obtain ⟨body, ending, rfl, unbroken, ends⟩ :=
      (documentLines_broken document.text).exists_parts member
    exact chomp_eq_take_contentLength unbroken ends
  · intro changes version newer
    refine ⟨_, foldlM_checkedChange changes document.text, ?_⟩
    rw [apply, if_neg (by omega)]

/-- The range is reversed, and one end stands inside a surrogate pair. -/
theorem reversedRange_within_text :
    ∃ edited, [Change.splice ⟨7, 9⟩ ⟨0, 2⟩ ['x']].foldlM checkedChange "a😀b\r\ncd".toList =
        some edited ∧
      (⟨"a😀b\r\ncd".toList, 1⟩ : Document).apply [.splice ⟨7, 9⟩ ⟨0, 2⟩ ['x']] 2 =
        .ok ⟨edited, 2⟩ :=
  (position_decodes_within_content ⟨"a😀b\r\ncd".toList, 1⟩ ⟨0, 2⟩).2.2 _ 2 (by decide)

end FluxonAssist.Document
