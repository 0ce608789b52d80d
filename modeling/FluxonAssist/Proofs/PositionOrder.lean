import FluxonAssist.Proofs.PositionBounds

/-!
# The order of positions and of their places

Positions are ordered by line, then by character. Decoding keeps this order between different lines
of the text, since a line ends where the next one starts, and within one line, since more units hold
more characters. The one exception are positions past the last line: they all address that line with
the characters that they have, so a later line number no longer counts. There a range may decode to
an end before its start, although its start is not after its end.
-/
set_option autoImplicit false
namespace FluxonAssist

instance : LE Position where
  le p q := p.line < q.line ∨ p.line = q.line ∧ p.character ≤ q.character

instance (p q : Position) : Decidable (p ≤ q) :=
  inferInstanceAs (Decidable (p.line < q.line ∨ p.line = q.line ∧ p.character ≤ q.character))

namespace Document

open FluxonAssist.Text

theorem lineStart_mono (text : List Char) {first second : Nat} (ordered : first ≤ second) :
    lineStart text first ≤ lineStart text second := by
  obtain ⟨between, rfl⟩ := Nat.exists_eq_add_of_le ordered
  rw [lineStart, lineStart, List.take_add, List.flatten_append, List.length_append]
  omega

/-- The line behind all breaks, which no break ends. -/
def lastLine (text : List Char) : List Char := lineText text ((documentLines text).length - 1)

section
variable {text : List Char} {p q : Position} {before others after rest : List (List Char)}
  {content ending next final : List Char}

/-- The content of a line ends before a later line starts. -/
theorem Addressed.offset_le_of_before (line : Addressed text p before content ending after)
    (later : Addressed text q others next final rest) (ordered : before.length < others.length) :
    offset text p ≤ offset text q := by
  have bound := line.offset_le
  have inside : before.length < (documentLines text).length := by
    rw [line.lines, List.length_append, List.length_cons]
    omega
  have start := lineStart_succ inside
  rw [line.lineStart_eq, line.lineText_eq, List.length_append] at start
  have step := lineStart_mono text (Nat.succ_le_of_lt ordered)
  rw [Nat.succ_eq_add_one, start, later.lineStart_eq] at step
  have place := later.offset_eq
  omega

theorem Addressed.same_line (line : Addressed text p before content ending after)
    (other : Addressed text q others next final rest) (same : before.length = others.length) :
    before = others ∧ content = next := by
  have split := line.lines.symm.trans other.lines
  obtain ⟨front, tails⟩ := List.append_inj split same
  have whole := (List.cons.inj tails).1
  refine ⟨front, ?_⟩
  rw [← line.chomped, whole, other.chomped]

/-- On one line the places are ordered as the characters that fit. -/
theorem Addressed.offset_lt_iff (line : Addressed text p before content ending after)
    (other : Addressed text q others next final rest) (same : before.length = others.length) :
    offset text q < offset text p ↔
      charsWithin q.character content < charsWithin p.character content := by
  obtain ⟨rfl, rfl⟩ := line.same_line other same
  rw [line.offset_eq, other.offset_eq]
  omega

/-- Behind the content of the last line the text ends. -/
theorem Addressed.nothing_behind (line : Addressed text p before content ending after)
    (last : (documentLines text).length ≤ p.line + 1) : ending = [] ∧ after = [] := by
  have count := line.number
  have total := congrArg List.length line.lines
  rw [List.length_append, List.length_cons] at total
  have here : (documentLines text)[before.length]? = some (content ++ ending) := by
    rw [line.lines, List.getElem?_append_right (Nat.le_refl _), Nat.sub_self]
    rfl
  have unbroken : Unbroken (content ++ ending) := by
    by_cases ended : Unbroken (content ++ ending)
    · exact ended
    · have followed := (documentLines_broken text).lt_length_of_broken here ended
      omega
  have whole := contentLength_unbroken _ unbroken
  rw [line.measured, List.length_append] at whole
  exact ⟨List.length_eq_zero_iff.mp (by omega), List.length_eq_zero_iff.mp (by omega)⟩

theorem Addressed.content_eq_lastLine (line : Addressed text p before content ending after)
    (last : (documentLines text).length ≤ p.line + 1) : content = lastLine text := by
  have found := line.lineText_eq
  rw [(line.nothing_behind last).1, List.append_nil, line.number,
    Nat.min_eq_right (by omega)] at found
  exact found.symm

end

/-- Both positions address the last line, the second from a later number, and some characters of
that line fit before the first position but not before the second. -/
def Crossed (text : List Char) (p q : Position) : Prop :=
  (documentLines text).length ≤ p.line + 1 ∧ p.line < q.line ∧
    ∃ count ≤ (lastLine text).length, q.character < units ((lastLine text).take count) ∧
      units ((lastLine text).take count) ≤ p.character

theorem offset_lt_iff_crossed (text : List Char) {p q : Position} (ordered : p ≤ q) :
    offset text q < offset text p ↔ Crossed text p q := by
  obtain ⟨before, content, ending, after, line⟩ := exists_addressed text p
  obtain ⟨others, next, final, rest, other⟩ := exists_addressed text q
  have number := line.number
  have otherNumber := other.number
  rcases ordered with earlier | ⟨sameLine, sooner⟩
  · -- numbers past the last line all mean that line, where only the characters are left to compare
    by_cases last : (documentLines text).length ≤ p.line + 1
    · rw [line.offset_lt_iff other (by omega), charsWithin_lt_iff,
        line.content_eq_lastLine last, Crossed]
      exact ⟨fun found => ⟨last, earlier, found⟩, fun crossed => crossed.2.2⟩
    · have kept := line.offset_le_of_before other (by omega)
      refine iff_of_false (by omega) ?_
      intro crossed
      exact last crossed.1
  · have fits := charsWithin_mono sooner content
    refine iff_of_false ?_ ?_
    · rw [line.offset_lt_iff other (by omega)]
      omega
    · intro crossed
      have earlier := crossed.2.1
      omega

theorem offset_eq_length (text : List Char) (q : Position)
    (past : (documentLines text).length ≤ q.line) (reached : units (lastLine text) ≤ q.character) :
    offset text q = text.length := by
  obtain ⟨before, content, ending, after, line⟩ := exists_addressed text q
  have content_eq := line.content_eq_lastLine (by omega)
  have all := (charsWithin_eq_length_iff q.character content).mpr (content_eq ▸ reached)
  obtain ⟨bare, none⟩ := line.nothing_behind (by omega)
  have whole := congrArg List.length line.text_eq
  rw [bare, none] at whole
  simp only [List.flatten_nil, List.append_nil, List.length_append] at whole
  rw [line.offset_eq, all, whole]

theorem not_crossed_of_reached {text : List Char} {p q : Position}
    (reached : units (lastLine text) ≤ q.character) : ¬ Crossed text p q := by
  intro crossed
  obtain ⟨-, -, count, -, above, -⟩ := crossed
  have most := units_take_le count (lastLine text)
  omega

/-- Decoding turns the order of two positions around exactly if they cross on the last line. A range
that does not is replaced from the place of its start to the place of its end, and one that ends
past the last line ends no earlier than any position of the text on an earlier line or at no greater
character; if its character reaches the end of the last line, it ends at the end of the text. -/
theorem offset_monotone_unless_crossed (text : List Char) (p q : Position) (ordered : p ≤ q) :
    (offset text q < offset text p ↔ Crossed text p q) ∧
    (¬ Crossed text p q → offset text p ≤ offset text q ∧
      ∀ inserted, applyChange text (.splice p q inserted) =
        text.take (offset text p) ++ inserted ++ text.drop (offset text q)) ∧
    ((documentLines text).length ≤ q.line →
      (∀ r : Position, r.line < (documentLines text).length →
        r.line + 1 < (documentLines text).length ∨ r.character ≤ q.character ∨
          units (lastLine text) ≤ q.character →
        offset text r ≤ offset text q) ∧
      (units (lastLine text) ≤ q.character → offset text q = text.length)) := by
  have turned := offset_lt_iff_crossed text ordered
  refine ⟨turned, ?_, ?_⟩
  · intro straight
    have kept : offset text p ≤ offset text q :=
      Nat.le_of_not_lt fun less => straight (turned.mp less)
    refine ⟨kept, ?_⟩
    intro inserted
    rw [applyChange, splice, Nat.max_eq_left kept]
  · intro past
    refine ⟨?_, offset_eq_length text q past⟩
    intro r inside known
    apply Nat.le_of_not_lt
    intro less
    have crossed := (offset_lt_iff_crossed text (Or.inl (by omega))).mp less
    rcases known with earlier | sooner | reached
    · have last := crossed.1
      omega
    · obtain ⟨-, -, count, -, above, below⟩ := crossed
      omega
    · exact not_crossed_of_reached reached crossed

/-- A range that ends past the last line, at its first column: the end decodes to the start of the
last line, before places that the text has behind it, and the line stays when the range goes. -/
theorem end_past_last_line_decodes_early :
    (⟨1, 2⟩ : Position) ≤ ⟨2, 0⟩ ∧ documentLines "ab\ncd".toList = ["ab\n".toList, "cd".toList] ∧
      offset "ab\ncd".toList ⟨2, 0⟩ < offset "ab\ncd".toList ⟨1, 2⟩ ∧
      (⟨"ab\ncd".toList, 1⟩ : Document).apply [.splice ⟨0, 0⟩ ⟨2, 0⟩ []] 2 =
        .ok ⟨"cd".toList, 2⟩ := by
  have left : [Change.splice ⟨0, 0⟩ ⟨2, 0⟩ []].foldl applyChange "ab\ncd".toList = "cd".toList := by
    decide +kernel
  refine ⟨by decide, by decide +kernel, by decide +kernel, ?_⟩
  rw [apply, if_neg (by decide), left]

/-- Both ends stand inside a surrogate pair of the last line, one of them past that line. -/
theorem rangeInsidePair_in_order :
    (⟨1, 1⟩ : Position) ≤ ⟨7, 2⟩ ∧ (documentLines "a\x0b😀b".toList).length ≤ 7 ∧
      offset "a\x0b😀b".toList ⟨1, 1⟩ ≤ offset "a\x0b😀b".toList ⟨7, 2⟩ ∧
      offset "a\x0b😀b".toList ⟨0, 9⟩ ≤ offset "a\x0b😀b".toList ⟨7, 2⟩ := by
  have ordered : (⟨1, 1⟩ : Position) ≤ ⟨7, 2⟩ := by decide
  have past : (documentLines "a\x0b😀b".toList).length ≤ 7 := by decide +kernel
  obtain ⟨-, straight, ends⟩ :=
    offset_monotone_unless_crossed "a\x0b😀b".toList ⟨1, 1⟩ ⟨7, 2⟩ ordered
  refine ⟨ordered, past, (straight ?_).1, ?_⟩
  · intro crossed
    obtain ⟨-, -, count, -, above, below⟩ := crossed
    exact absurd (Nat.lt_of_lt_of_le above below) (by decide)
  · exact (ends past).1 ⟨0, 9⟩ (by decide +kernel) (Or.inl (by decide +kernel))

end Document
end FluxonAssist
