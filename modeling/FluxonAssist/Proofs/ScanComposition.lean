import FluxonAssist.Proofs.ScannedLines

/-!
# Scanning a text part by part

The functions of a text depend only on its lines. So the kind of a break does not matter, and a text
cut at a line feed is scanned as its two parts, the second with its lines counted on. The one
exception is a first part that ends in a return, which would form one break with the feed. The
numbers of the functions ascend, since each line declares at most one.
-/
set_option autoImplicit false
namespace FluxonAssist

namespace Text

/-- The text with every `\r\n`, `\n` and `\r` replaced by `\n`. -/
def unifyBreaks : List Char → List Char
  | [] => []
  | '\r' :: '\n' :: rest => '\n' :: unifyBreaks rest
  | c :: rest => (if c = '\r' then '\n' else c) :: unifyBreaks rest

theorem sourceLines_feed (rest : List Char) :
    sourceLines ('\n' :: rest) = [] :: sourceLines rest := by
  apply sourceLines_break '\n' rest (.inl rfl)
  intro tail isReturn
  exact absurd isReturn (by decide)

theorem sourceLines_unifyBreaks (text : List Char) :
    sourceLines (unifyBreaks text) = sourceLines text := by
  fun_induction unifyBreaks text with
  | case1 => rfl
  | case2 rest ih => rw [sourceLines_feed, ih, sourceLines]
  | case3 c rest single ih =>
      by_cases isReturn : c = '\r'
      · rw [if_pos isReturn, sourceLines_feed, ih, sourceLines_break c rest (.inr isReturn) single]
      · rw [if_neg isReturn]
        by_cases feed : c = '\n'
        · rw [feed, sourceLines_feed, sourceLines_feed, ih]
        · rw [sourceLines_cons c _ feed isReturn, sourceLines_cons c _ feed isReturn, ih]

/-- A line feed cuts a text into two, unless it belongs to a return before it. -/
theorem sourceLines_append_feed (first second : List Char) (whole : first.getLast? ≠ some '\r') :
    sourceLines (first ++ '\n' :: second) = sourceLines first ++ sourceLines second := by
  have tail_whole {c : Char} {rest : List Char} (whole : (c :: rest).getLast? ≠ some '\r') :
      rest.getLast? ≠ some '\r' := by
    intro ends
    apply whole
    rw [List.getLast?_cons, ends]
    rfl
  fun_induction sourceLines first with
  | case1 => exact sourceLines_feed second
  | case2 rest ih =>
      rw [List.cons_append, List.cons_append, sourceLines, ih (tail_whole (tail_whole whole))]
      rfl
  | case3 c rest single cut ih =>
      -- the feed after the first part is no half of its last break
      have stillSingle : ∀ tail, c = '\r' → rest ++ '\n' :: second = '\n' :: tail → False := by
        intro tail isReturn follows
        cases rest with
        | nil => exact whole (by rw [isReturn]; rfl)
        | cons d others => exact single others isReturn (by rw [(List.cons.inj follows).1])
      rw [List.cons_append, sourceLines_break c _ cut stillSingle, ih (tail_whole whole)]
      rfl
  | case4 c rest single uncut ih =>
      obtain ⟨feed, isReturn⟩ := not_or.mp uncut
      rw [List.cons_append, sourceLines_cons c _ feed isReturn, ih (tail_whole whole),
        consLine_append c _ _ (sourceLines_ne_nil rest)]

end Text

open FluxonAssist.Text

/-- The function with its line counted on. -/
def UserFunction.moved (f : UserFunction) (lines : Nat) : UserFunction :=
  { f with span := { f.span with line := f.span.line + UInt32.ofNat lines } }

namespace Declaration

theorem ofLine?_add (line : List Char) (number lines : Nat) :
    ofLine? line (number + lines) = (ofLine? line number).map fun f => f.moved lines := by
  cases declares : ofLine? line number with
  | none =>
      cases again : ofLine? line (number + lines) with
      | none => rfl
      | some f =>
          have renumbered := (ofLine?_renumber again number).2
          rw [declares] at renumbered
          cases renumbered
  | some f =>
      obtain ⟨span, renumbered⟩ := ofLine?_renumber declares (number + lines)
      rw [renumbered, UInt32.ofNat_add, Option.map_some, UserFunction.moved, span]

theorem ofLines_add (first lines : Nat) (source : List (List Char)) :
    ofLines (first + lines) source = (ofLines first source).map fun f => f.moved lines := by
  induction source generalizing first with
  | nil => rfl
  | cons line rest ih =>
      have later := ih (first + 1)
      rw [Nat.add_right_comm] at later
      rw [ofLines, ofLines, ofLine?_add, later]
      cases ofLine? line first <;> rfl

theorem ofLines_append (first : Nat) (before after : List (List Char)) :
    ofLines first (before ++ after) =
      ofLines first before ++ ofLines (first + before.length) after := by
  rw [ofLines_eq_filterMap, List.zipIdx_append, List.filterMap_append, ← ofLines_eq_filterMap,
    ← ofLines_eq_filterMap]

theorem declaredFunctions_append_feed (first second : List Char)
    (whole : first.getLast? ≠ some '\r') :
    declaredFunctions (first ++ '\n' :: second) = declaredFunctions first ++
      (declaredFunctions second).map fun f => f.moved (sourceLines first).length := by
  unfold declaredFunctions
  rw [sourceLines_append_feed first second whole, ofLines_append, ofLines_add]

theorem toNat_line_moved {text : List Char} {f : UserFunction} (member : f ∈ declaredFunctions text)
    {lines : Nat} (few : lines + (sourceLines text).length ≤ UInt32.size) :
    (f.moved lines).span.line.toNat = f.span.line.toNat + lines := by
  obtain ⟨index, line, here, declares⟩ := mem_declaredFunctions_iff.mp member
  have numbered : index < (sourceLines text).length := (List.getElem?_eq_some_iff.mp here).1
  have span := (ofLine?_renumber declares 0).1
  simp only [UserFunction.moved, span]
  rw [← UInt32.ofNat_add, UInt32.toNat_ofNat_of_lt' (by omega),
    UInt32.toNat_ofNat_of_lt' (by omega)]

theorem declaredFunctions_ascend {text : List Char}
    (few : (sourceLines text).length ≤ UInt32.size) :
    (declaredFunctions text).Pairwise fun f g => f.span.line < g.span.line := by
  have numbers : ((sourceLines text).zipIdx 0).Pairwise fun p q => p.2 < q.2 := by
    apply List.pairwise_map.mp
    rw [List.zipIdx_map_snd]
    exact List.pairwise_lt_range' 1
  rw [declaredFunctions, ofLines_eq_filterMap, List.pairwise_filterMap]
  apply numbers.imp_of_mem
  intro p q inP inQ less f declaresF g declaresG
  have bound := List.snd_lt_of_mem_zipIdx inQ
  rw [(ofLine?_renumber declaresF 0).1, (ofLine?_renumber declaresG 0).1, UInt32.lt_iff_toNat_lt,
    UInt32.toNat_ofNat_of_lt' (by omega), UInt32.toNat_ofNat_of_lt' (by omega)]
  exact less

end Declaration

open FluxonAssist.Declaration

/-- Unifying the breaks of a text leaves its functions as they are. A text cut at a line feed has
the functions of the first part and those of the second with their lines counted on, if the first
does not end in a return; the sums do not wrap if there are fewer than `2^32` lines. In every text
of fewer lines than that the numbers strictly ascend, and each function spans the line of its
number from column 0 to its end. -/
theorem scan_composes_over_lines :
    (∀ text : List Char, declaredFunctions (unifyBreaks text) = declaredFunctions text) ∧
    (∀ first second : List Char, first.getLast? ≠ some '\r' →
      declaredFunctions (first ++ '\n' :: second) = declaredFunctions first ++
          (declaredFunctions second).map (fun f => f.moved (sourceLines first).length) ∧
        ((sourceLines (first ++ '\n' :: second)).length < UInt32.size →
          ∀ f ∈ declaredFunctions second, (f.moved (sourceLines first).length).span.line.toNat =
            f.span.line.toNat + (sourceLines first).length)) ∧
    (∀ text : List Char, (sourceLines text).length < UInt32.size →
      (declaredFunctions text).Pairwise (fun f g => f.span.line < g.span.line) ∧
        ∀ f ∈ declaredFunctions text, ∃ line, (sourceLines text)[f.span.line.toNat]? = some line ∧
          f.span.startColumn = 0 ∧ f.span.endColumn = UInt32.ofNat line.length ∧
          (line.length < UInt32.size → f.span.endColumn.toNat = line.length)) := by
  refine ⟨?_, ?_, ?_⟩
  · intro text
    rw [declaredFunctions, sourceLines_unifyBreaks, declaredFunctions]
  · intro first second whole
    refine ⟨declaredFunctions_append_feed first second whole, ?_⟩
    intro few f member
    rw [sourceLines_append_feed first second whole, List.length_append] at few
    exact toNat_line_moved member (Nat.le_of_lt few)
  · intro text few
    refine ⟨declaredFunctions_ascend (Nat.le_of_lt few), ?_⟩
    intro f member
    obtain ⟨line, here, span, -⟩ := line_of_mem_declaredFunctions (Nat.le_of_lt few) member
    refine ⟨line, here, by rw [span], by rw [span], ?_⟩
    intro short
    rw [span]
    exact UInt32.toNat_ofNat_of_lt' short

theorem cutSource_scanned :
    "def a = 1\r\n# x".toList.getLast? ≠ some '\r' ∧
      (sourceLines ("def a = 1\r\n# x".toList ++ '\n' :: "fun b(p) = p\rdef c = 3".toList)).length <
        UInt32.size ∧
      declaredFunctions ("def a = 1\r\n# x".toList ++ '\n' :: "fun b(p) = p\rdef c = 3".toList) =
        [⟨"a", 0, false, false, ⟨0, 0, 9⟩⟩, ⟨"b", 1, false, false, ⟨2, 0, 12⟩⟩,
          ⟨"c", 0, false, false, ⟨3, 0, 9⟩⟩] := by
  have whole : "def a = 1\r\n# x".toList.getLast? ≠ some '\r' := by decide
  have few : (sourceLines ("def a = 1\r\n# x".toList ++ '\n' ::
      "fun b(p) = p\rdef c = 3".toList)).length < UInt32.size := by decide +kernel
  have parts := (scan_composes_over_lines.2.1 "def a = 1\r\n# x".toList
    "fun b(p) = p\rdef c = 3".toList whole).1
  exact ⟨whole, few, parts.trans (by decide +kernel)⟩

end FluxonAssist
