import FluxonAssist.Proofs.IncrementalEdit
import FluxonAssist.Proofs.ScannedLines

/-!
# An insertion and the lines around it

Text without breaks that is put inside a line changes that line alone: every break of the document
stays a break, and no new one forms. A position decodes to a place inside its line or at the end of
its content. The content of a line leaves out a final `\n`, `\r\n` or `\r` but keeps the five other
breaks, so a position behind one of those stands at the start of the next line, and an insertion
there goes into that line.
-/
set_option autoImplicit false
namespace FluxonAssist

namespace Text

/-- A text cut at its breaks; a return and a feed after it are never cut apart. -/
inductive LinesOf : List Char → List (List Char) → Prop
  | last (body : List Char) (unbroken : Unbroken body) : LinesOf body [body]
  | line (body ending rest : List Char) (lines : List (List Char)) (unbroken : Unbroken body)
      (ends : LineBreak ending) (whole : ending = ['\r'] → ∀ c ∈ rest.head?, c ≠ '\n')
      (more : LinesOf rest lines) : LinesOf (body ++ (ending ++ rest)) ((body ++ ending) :: lines)

theorem unbroken_append {first second : List Char} (left : Unbroken first)
    (right : Unbroken second) : Unbroken (first ++ second) := by
  intro c member
  exact (List.mem_append.mp member).elim (left c) (right c)

theorem LinesOf.cons {rest : List Char} {lines : List (List Char)} (cut : LinesOf rest lines)
    (c : Char) (inside : isLineBreak c = false) : LinesOf (c :: rest) (consLine c lines) := by
  cases cut with
  | last _ unbroken => exact .last (c :: rest) (List.forall_mem_cons.mpr ⟨inside, unbroken⟩)
  | line body ending rest lines unbroken ends whole more =>
      exact .line (c :: body) ending rest lines (List.forall_mem_cons.mpr ⟨inside, unbroken⟩) ends
        whole more

theorem documentLines_linesOf (text : List Char) : LinesOf text (documentLines text) := by
  have empty : Unbroken [] := List.forall_mem_nil _
  fun_induction documentLines text with
  | case1 => exact .last [] empty
  | case2 rest ih =>
      apply LinesOf.line [] ['\r', '\n'] rest _ empty .pair _ ih
      intro single
      cases single
  | case3 c rest single ends ih =>
      apply LinesOf.line [] [c] rest _ empty (.single c ends) _ ih
      intro isReturn d first isFeed
      obtain ⟨tail, starts⟩ := List.head?_eq_some_iff.mp first
      exact single tail (List.cons.inj isReturn).1 (isFeed ▸ starts)
  | case4 c rest _ inside ih => exact ih.cons c (by simpa using inside)

theorem LinesOf.documentLines_eq {text : List Char} {lines : List (List Char)}
    (cut : LinesOf text lines) : documentLines text = lines := by
  induction cut with
  | last body unbroken => exact documentLines_unbroken body unbroken
  | line body ending rest lines unbroken ends whole more ih =>
      induction body with
      | nil =>
          cases ends with
          | pair =>
              rw [List.nil_append, List.cons_append, List.cons_append, List.nil_append,
                documentLines, ih]
              rfl
          | single c ends =>
              rw [List.nil_append, List.singleton_append, documentLines, if_pos ends, ih]
              · rfl
              · intro tail isReturn starts
                subst isReturn
                exact whole rfl '\n' (by rw [starts]; rfl) rfl
      | cons c body inner =>
          obtain ⟨inside, others⟩ := List.forall_mem_cons.mp unbroken
          obtain ⟨-, ret⟩ := ne_of_unbroken unbroken (c := c) List.mem_cons_self
          rw [List.cons_append, documentLines_cons c _ ret, inside, inner others]
          rfl

/-- The start of a line that holds no break ends before the line's own break. -/
theorem le_length_of_unbroken_take {body ending : List Char} (ends : LineBreak ending)
    {column : Nat} (before : Unbroken ((body ++ ending).take column)) : column ≤ body.length := by
  obtain ⟨c, more, split, broken⟩ : ∃ c more, ending = c :: more ∧ isLineBreak c = true := by
    cases ends with
    | pair => exact ⟨'\r', ['\n'], rfl, by decide⟩
    | single c ends => exact ⟨c, [], rfl, ends⟩
  apply Nat.le_of_not_lt
  intro past
  have reached : c ∈ (body ++ ending).take column := by
    rw [List.take_append, split]
    apply List.mem_append_right
    obtain ⟨count, positive⟩ : ∃ count, column - body.length = count + 1 :=
      ⟨column - body.length - 1, by omega⟩
    rw [positive]
    exact List.mem_cons_self
  rw [before c reached] at broken
  cases broken

theorem head?_spliced {rest inserted : List Char} {index : Nat} {c : Char}
    (first : c ∈ (rest.take index ++ inserted ++ rest.drop index).head?) :
    c ∈ rest.head? ∨ c ∈ inserted.head? := by
  cases index with
  | zero =>
      cases inserted with
      | nil => exact .inl first
      | cons d others => exact .inr first
  | succ index =>
      cases rest with
      | nil =>
          rw [List.take_nil, List.nil_append, List.drop_nil, List.append_nil] at first
          exact .inr first
      | cons d others => exact .inl first

/-- Text without breaks that is put into a line, before its break, changes that line alone. -/
theorem LinesOf.insert {text : List Char} {lines : List (List Char)} (cut : LinesOf text lines)
    {index : Nat} {line : List Char} (here : lines[index]? = some line) {column start : Nat}
    (inside : column ≤ line.length) (before : Unbroken (line.take column))
    (starts : start = (lines.take index).flatten.length) {inserted : List Char}
    (unbroken : Unbroken inserted) :
    LinesOf (text.take (start + column) ++ inserted ++ text.drop (start + column))
      (lines.set index (line.take column ++ inserted ++ line.drop column)) := by
  induction cut generalizing index start with
  | last body whole =>
      cases index with
      | succ index => cases here
      | zero =>
          cases here
          rw [starts, List.take_zero, List.flatten_nil, List.length_nil, Nat.zero_add,
            List.set_cons_zero]
          apply LinesOf.last
          apply unbroken_append (unbroken_append before unbroken)
          intro c member
          exact whole c (List.mem_of_mem_drop member)
  | line body ending rest lines whole ends joined more ih =>
      cases index with
      | zero =>
          cases here
          have fits : column ≤ body.length := le_length_of_unbroken_take ends before
          rw [List.take_append_of_le_length fits] at before
          rw [starts, List.take_zero, List.flatten_nil, List.length_nil, Nat.zero_add,
            List.set_cons_zero, List.take_append_of_le_length fits,
            List.take_append_of_le_length fits, List.drop_append_of_le_length fits,
            List.drop_append_of_le_length fits]
          have body_unbroken : Unbroken (body.take column ++ inserted ++ body.drop column) := by
            apply unbroken_append (unbroken_append before unbroken)
            intro c member
            exact whole c (List.mem_of_mem_drop member)
          have changed := LinesOf.line _ ending rest lines body_unbroken ends joined more
          simpa only [List.append_assoc] using changed
      | succ index =>
          have later := ih here rfl
          have shifted : start + column =
              (body ++ ending).length + ((lines.take index).flatten.length + column) := by
            rw [starts, List.take_succ_cons, List.flatten_cons, List.length_append, Nat.add_assoc]
          have stillJoined : ending = ['\r'] → ∀ c ∈ (rest.take ((lines.take index).flatten.length +
              column) ++ inserted ++ rest.drop ((lines.take index).flatten.length + column)).head?,
              c ≠ '\n' := by
            intro isReturn c first
            rcases head?_spliced first with first | first
            · exact joined isReturn c first
            · exact (ne_of_unbroken unbroken (List.mem_of_mem_head? first)).1
          have changed := LinesOf.line body ending _ _ whole ends stillJoined later
          rw [shifted, ← List.append_assoc body, List.take_length_add_append,
            List.drop_length_add_append, List.set_cons_succ]
          simpa only [List.append_assoc] using changed

/-! ## The content of a document's line -/

theorem BrokenLines.exists_parts {lines : List (List Char)} (broken : BrokenLines lines)
    {line : List Char} (member : line ∈ lines) :
    ∃ body ending, line = body ++ ending ∧ Unbroken body ∧ (ending = [] ∨ LineBreak ending) := by
  induction broken with
  | last body unbroken =>
      cases List.mem_singleton.mp member
      exact ⟨line, [], (List.append_nil line).symm, unbroken, .inl rfl⟩
  | line body ending rest unbroken ends more ih =>
      rcases List.mem_cons.mp member with rfl | member
      · exact ⟨body, ending, rfl, unbroken, .inr ends⟩
      · exact ih member

theorem BrokenLines.lt_length_of_broken {lines : List (List Char)} (broken : BrokenLines lines)
    {index : Nat} {line : List Char} (here : lines[index]? = some line)
    (ended : ¬ Unbroken line) : index + 1 < lines.length := by
  induction broken generalizing index with
  | last body unbroken =>
      cases index with
      | zero => cases here; exact absurd unbroken ended
      | succ index => cases here
  | line body ending rest unbroken ends more ih =>
      cases index with
      | zero =>
          have some_line := List.length_pos_iff.mpr more.ne_nil
          rw [List.length_cons]
          omega
      | succ index =>
          have later := ih here
          rw [List.length_cons]
          omega

theorem chomp_concat (front : List Char) (c : Char) :
    chomp (front ++ [c]) = if c = '\n' ∨ c = '\r' then chomp front else front ++ [c] := by
  by_cases cut : c = '\n' ∨ c = '\r'
  · rw [if_pos cut, chomp, List.reverse_append, List.reverse_singleton, List.singleton_append,
      List.dropWhile_cons_of_pos (by simpa using cut), chomp]
  · rw [if_neg cut, chomp, List.reverse_append, List.reverse_singleton, List.singleton_append,
      List.dropWhile_cons_of_neg (by simpa using cut)]
    simp

theorem chomp_unbroken (body : List Char) (unbroken : Unbroken body) : chomp body = body := by
  rcases List.eq_nil_or_concat body with rfl | ⟨front, c, rfl⟩
  · rfl
  · obtain ⟨feed, ret⟩ := ne_of_unbroken unbroken (c := c) (by simp)
    rw [List.concat_eq_append, chomp_concat, if_neg (not_or.mpr ⟨feed, ret⟩)]

/-- Both ways to cut off a final break leave the same content. -/
theorem chomp_eq_take_contentLength {body ending : List Char} (unbroken : Unbroken body)
    (ends : ending = [] ∨ LineBreak ending) :
    chomp (body ++ ending) = (body ++ ending).take (contentLength (body ++ ending)) := by
  rcases ends with rfl | ends
  · rw [List.append_nil, chomp_unbroken body unbroken, contentLength_unbroken body unbroken,
      List.take_length]
  cases ends with
  | pair =>
      rw [contentLength_pair, List.take_left, ← List.singleton_append, ← List.append_assoc,
        chomp_concat, if_pos (.inl rfl), chomp_concat, if_pos (.inr rfl),
        chomp_unbroken body unbroken]
  | single c ends =>
      rw [chomp_concat, contentLength_single body unbroken]
      split
      · rw [List.take_left, chomp_unbroken body unbroken]
      · rw [List.take_of_length_le (by simp)]

/-- A place before a line's break lies within its content. -/
theorem le_contentLength_of_unbroken {body ending : List Char} (unbroken : Unbroken body)
    (ends : ending = [] ∨ LineBreak ending) {column : Nat}
    (inside : column ≤ (body ++ ending).length) (before : Unbroken ((body ++ ending).take column)) :
    column ≤ contentLength (body ++ ending) := by
  rcases ends with rfl | ends
  · rw [List.append_nil] at inside ⊢
    rwa [contentLength_unbroken body unbroken]
  · have fits := le_length_of_unbroken_take ends before
    cases ends with
    | pair => rwa [contentLength_pair]
    | single c ends =>
        rw [contentLength_single body unbroken]
        split <;> omega

end Text

namespace Document

open FluxonAssist.Text

theorem lineIndex_lt (text : List Char) (line : Nat) :
    lineIndex text line < (documentLines text).length := by
  have some_line := List.length_pos_iff.mpr (documentLines_broken text).ne_nil
  unfold lineIndex
  omega

theorem exists_line_parts {text : List Char} {index : Nat}
    (inside : index < (documentLines text).length) :
    ∃ body ending, lineText text index = body ++ ending ∧ Unbroken body ∧
      (ending = [] ∨ LineBreak ending) :=
  (documentLines_broken text).exists_parts (List.mem_of_getElem? (getElem?_documentLines inside))

theorem column_le (text : List Char) (position : Position) :
    column text position ≤ contentLength (lineText text (lineIndex text position.line)) := by
  have within := charsWithin_le position.character
    ((lineText text (lineIndex text position.line)).take
      (contentLength (lineText text (lineIndex text position.line))))
  rw [List.length_take] at within
  exact Nat.le_trans within (Nat.min_le_left _ _)

theorem lineAt_eq (document : Document) (position : Position) :
    document.lineAt position =
      ((lineText document.text (lineIndex document.text position.line)).take
        (contentLength (lineText document.text (lineIndex document.text position.line))),
        column document.text position) := by
  obtain ⟨body, ending, parts, unbroken, ends⟩ :=
    exists_line_parts (lineIndex_lt document.text position.line)
  have content := chomp_eq_take_contentLength unbroken ends
  rw [← parts] at content
  have within := column_le document.text position
  have short := contentLength_le (lineText document.text (lineIndex document.text position.line))
  unfold lineAt offset
  simp only [content, List.length_take, Nat.add_sub_cancel_left]
  congr 1
  omega

/-- The text that a position sees before the cursor on its line. -/
def seenAt (document : Document) (position : Position) : List Char :=
  (document.lineAt position).1.take (document.lineAt position).2

theorem seenAt_eq (document : Document) (position : Position) :
    document.seenAt position =
      (lineText document.text (lineIndex document.text position.line)).take
        (column document.text position) := by
  unfold seenAt
  rw [lineAt_eq, List.take_take, Nat.min_eq_left (column_le document.text position)]

/-- The position of a place before a line's break sees the line up to that place. -/
theorem seenAt_units (document : Document) {index : Nat}
    (inLines : index < (documentLines document.text).length) {front suffix : List Char}
    (split : lineText document.text index = front ++ suffix) (before : Unbroken front) :
    document.seenAt ⟨index, units front⟩ = front := by
  have addressed : lineIndex document.text index = index := by
    unfold lineIndex
    omega
  have start : (lineText document.text index).take front.length = front := by
    rw [split, List.take_left]
  have longer : front.length ≤ (lineText document.text index).length := by
    rw [split, List.length_append]
    omega
  have within : front.length ≤ contentLength (lineText document.text index) := by
    obtain ⟨body, ending, parts, unbroken, ends⟩ := exists_line_parts inLines
    rw [parts] at start longer ⊢
    exact le_contentLength_of_unbroken unbroken ends longer (start.symm ▸ before)
  have decoded := charsWithin_units_take
    ((lineText document.text index).take (contentLength (lineText document.text index)))
    front.length (by rw [List.length_take]; omega)
  rw [List.take_take, Nat.min_eq_left within, start] at decoded
  rw [seenAt_eq, Document.column]
  simp only [addressed, decoded, start]

/-- The position addresses a line that ends in one of the five breaks that its content keeps, and
its character lies behind that break. -/
def PastBreak (text : List Char) (position : Position) : Prop :=
  (lineText text (lineIndex text position.line)).getLast?.any isOtherBreak = true ∧
    units (lineText text (lineIndex text position.line)) ≤ position.character

instance (text : List Char) (position : Position) : Decidable (PastBreak text position) :=
  inferInstanceAs (Decidable (_ ∧ _))

theorem ne_of_isOtherBreak {c : Char} (other : isOtherBreak c = true) :
    isLineBreak c = true ∧ c ≠ '\n' ∧ c ≠ '\r' := by
  simpa [isOtherBreak] using other

/-- Such a break belongs to the content, so the column may lie behind it. -/
theorem column_of_isOtherBreak {text body : List Char} {position : Position} {c : Char}
    (parts : lineText text (lineIndex text position.line) = body ++ [c])
    (other : isOtherBreak c = true) :
    column text position = charsWithin position.character (body ++ [c]) := by
  obtain ⟨-, feed, ret⟩ := ne_of_isOtherBreak other
  have kept : contentLength (body ++ [c]) = (body ++ [c]).length := by
    simp [contentLength, feed, ret]
  simp only [column, parts, kept, List.take_length]

theorem column_eq_of_pastBreak {text : List Char} {position : Position}
    (past : PastBreak text position) :
    column text position = (lineText text (lineIndex text position.line)).length := by
  obtain ⟨ended, reached⟩ := past
  obtain ⟨c, last, other⟩ := (Option.any_eq_true _ _).mp ended
  obtain ⟨body, parts⟩ := List.getLast?_eq_some_iff.mp last
  rw [column_of_isOtherBreak parts other, ← parts]
  exact (charsWithin_eq_length_iff _ _).mpr reached

theorem unbroken_seenAt (document : Document) {position : Position}
    (clear : ¬ PastBreak document.text position) : Unbroken (document.seenAt position) := by
  obtain ⟨body, ending, parts, unbroken, ends⟩ :=
    exists_line_parts (lineIndex_lt document.text position.line)
  have within := column_le document.text position
  rw [parts] at within
  have fits : column document.text position ≤ body.length := by
    rcases ends with rfl | ends
    · rwa [List.append_nil, contentLength_unbroken body unbroken] at within
    cases ends with
    | pair => rwa [contentLength_pair] at within
    | single c ends =>
        rw [contentLength_single body unbroken] at within
        split at within
        · exact within
        · next kept =>
            have other : isOtherBreak c = true := by
              obtain ⟨feed, ret⟩ := not_or.mp kept
              simp [isOtherBreak, ends, feed, ret]
            have incomplete : column document.text position ≠ (body ++ [c]).length := by
              rw [column_of_isOtherBreak parts other, Ne, charsWithin_eq_length_iff]
              intro reached
              apply clear
              rw [← parts] at reached
              exact ⟨by rw [parts, List.getLast?_concat]; exact other, reached⟩
            rw [List.length_append, List.length_singleton] at incomplete
            omega
  rw [seenAt_eq, parts, List.take_append_of_le_length fits]
  intro c member
  exact unbroken c (List.mem_of_mem_take member)

theorem next_line_of_pastBreak {text : List Char} {position : Position}
    (past : PastBreak text position) :
    lineIndex text position.line + 1 < (documentLines text).length := by
  obtain ⟨c, last, other⟩ := (Option.any_eq_true _ _).mp past.1
  have here := getElem?_documentLines (lineIndex_lt text position.line)
  apply (documentLines_broken text).lt_length_of_broken here
  intro unbroken
  have inside := unbroken c (List.mem_of_getLast? last)
  rw [(ne_of_isOtherBreak other).1] at inside
  cases inside

theorem lineStart_succ {text : List Char} {index : Nat}
    (inside : index < (documentLines text).length) :
    lineStart text (index + 1) = lineStart text index + (lineText text index).length := by
  unfold lineStart
  rw [List.take_add_one, getElem?_documentLines inside]
  simp

/-! ## Insertions -/

theorem apply_insertion (document : Document) (position : Position) (inserted : List Char)
    {version : Int} (newer : document.version < version) :
    document.apply [.splice position position inserted] version =
      .ok ⟨document.text.take (offset document.text position) ++ inserted ++
        document.text.drop (offset document.text position), version⟩ := by
  rw [apply, if_neg (by omega)]
  simp only [List.foldl_cons, List.foldl_nil, applyChange, splice, Nat.max_self]

/-- Inserting at a place before the break of a line sets that line alone. -/
theorem documentLines_insert {text : List Char} {index column place : Nat}
    (inLines : index < (documentLines text).length) (inside : column ≤ (lineText text index).length)
    (before : Unbroken ((lineText text index).take column))
    (placed : place = lineStart text index + column) {inserted : List Char}
    (unbroken : Unbroken inserted) :
    documentLines (text.take place ++ inserted ++ text.drop place) =
      (documentLines text).set index
        ((lineText text index).take column ++ inserted ++ (lineText text index).drop column) := by
  rw [placed]
  exact ((documentLines_linesOf text).insert (getElem?_documentLines inLines) inside before rfl
    unbroken).documentLines_eq

theorem lineText_of_set {text : List Char} {lines : List (List Char)} {index : Nat}
    {line : List Char} (split : documentLines text = lines.set index line)
    (inside : index < lines.length) : lineText text index = line := by
  rw [lineText, split, List.getD_eq_getElem?_getD, List.getElem?_set_self inside]
  rfl

/-- Text without breaks that is inserted at a position goes into the addressed line, behind the text
that the position sees; every other line stays, and the position behind the inserted text sees it.
The exception is a position behind a vertical tab or another break that the content of a line keeps:
there the text goes to the start of the next line. -/
theorem insertion_stays_on_line_unless_pastBreak (document : Document) (position : Position)
    (index : Nat) (addressed : index = lineIndex document.text position.line)
    (inserted : List Char) (unbroken : Unbroken inserted) (version : Int)
    (newer : document.version < version) :
    ∃ edited, document.apply [.splice position position inserted] version = .ok edited ∧
      edited.version = version ∧
      (¬ PastBreak document.text position →
        (∃ suffix, (documentLines document.text)[index]? =
            some (document.seenAt position ++ suffix) ∧
          documentLines edited.text = (documentLines document.text).set index
            (document.seenAt position ++ inserted ++ suffix)) ∧
        edited.seenAt ⟨index, units (document.seenAt position ++ inserted)⟩ =
          document.seenAt position ++ inserted) ∧
      (PastBreak document.text position →
        ∃ next, (documentLines document.text)[index + 1]? = some next ∧
          documentLines edited.text =
            (documentLines document.text).set (index + 1) (inserted ++ next)) := by
  have inLines : index < (documentLines document.text).length := by
    rw [addressed]
    exact lineIndex_lt document.text position.line
  have placed : offset document.text position =
      lineStart document.text index + column document.text position := by
    rw [offset, addressed]
  have seen : document.seenAt position =
      (lineText document.text index).take (column document.text position) := by
    rw [seenAt_eq, addressed]
  refine ⟨_, apply_insertion document position inserted newer, rfl, ?_, ?_⟩
  · intro clear
    have before := unbroken_seenAt document clear
    have within : column document.text position ≤ (lineText document.text index).length := by
      have content := column_le document.text position
      rw [← addressed] at content
      exact Nat.le_trans content (contentLength_le _)
    have changed := documentLines_insert inLines within (seen ▸ before) placed unbroken
    rw [← seen] at changed
    refine ⟨⟨(lineText document.text index).drop (column document.text position), ?_, changed⟩, ?_⟩
    · rw [seen, List.take_append_drop, getElem?_documentLines inLines]
    · apply seenAt_units
      · rw [changed, List.length_set]
        exact inLines
      · exact lineText_of_set changed inLines
      · exact unbroken_append before unbroken
  · intro past
    have column_eq := column_eq_of_pastBreak past
    have nextInLines := next_line_of_pastBreak past
    rw [← addressed] at column_eq nextInLines
    have nextPlaced : offset document.text position = lineStart document.text (index + 1) + 0 := by
      rw [placed, column_eq, lineStart_succ inLines, Nat.add_zero]
    have changed := documentLines_insert nextInLines (Nat.zero_le _) (List.forall_mem_nil _)
      nextPlaced unbroken
    exact ⟨_, getElem?_documentLines nextInLines, changed⟩

/-- An insertion behind the end of a line that a vertical tab ends changes the next line. -/
theorem insertion_behind_tab_changes_next_line :
    ∃ edited : Document,
      (⟨"ab\x0bcd".toList, 1⟩ : Document).apply [.splice ⟨0, 99⟩ ⟨0, 99⟩ ['X']] 2 = .ok edited ∧
      documentLines "ab\x0bcd".toList = ["ab\x0b".toList, "cd".toList] ∧
      documentLines edited.text = ["ab\x0b".toList, "Xcd".toList] := by
  refine ⟨_, apply_insertion ⟨"ab\x0bcd".toList, 1⟩ ⟨0, 99⟩ ['X'] (by decide), ?_, ?_⟩
  · decide +kernel
  · decide +kernel

/-- The position lies behind the end of a line with a character of two units and a `\r\n`. -/
theorem insertion_behind_wide_line :
    Unbroken ['x', 'y'] ∧ ¬ PastBreak "a😀b\r\ncd".toList ⟨0, 99⟩ ∧
      ∃ edited : Document,
        (⟨"a😀b\r\ncd".toList, 1⟩ : Document).apply [.splice ⟨0, 99⟩ ⟨0, 99⟩ ['x', 'y']] 2 =
          .ok edited ∧
        edited.seenAt ⟨0, 6⟩ = "a😀bxy".toList := by
  have unbroken : Unbroken ['x', 'y'] := by simp [Unbroken, isLineBreak]
  have clear : ¬ PastBreak "a😀b\r\ncd".toList ⟨0, 99⟩ := by decide +kernel
  obtain ⟨edited, applied, -, stays, -⟩ := insertion_stays_on_line_unless_pastBreak
    ⟨"a😀b\r\ncd".toList, 1⟩ ⟨0, 99⟩ 0 (by decide +kernel) ['x', 'y'] unbroken 2 (by decide)
  have seen : seenAt ⟨"a😀b\r\ncd".toList, 1⟩ ⟨0, 99⟩ = "a😀b".toList := by decide +kernel
  have result := (stays clear).2
  rw [seen] at result
  exact ⟨unbroken, clear, edited, applied, result⟩

end Document
end FluxonAssist
