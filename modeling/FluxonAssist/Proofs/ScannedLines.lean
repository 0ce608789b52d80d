import FluxonAssist.Declaration
import FluxonAssist.Proofs.DocumentLines

/-!
# The lines of a scan and of an open document

A scan cuts a text at `\r\n`, `\n` and `\r`, an open document also at five other characters. So the
lines of the document are those of the scan, each cut once more, and the two agree exactly on the
texts without the five. There a declared function stands on the document's line of its number, and
that line alone declares the same function. Elsewhere the numbers can differ.
-/
set_option autoImplicit false
namespace FluxonAssist

namespace Text

theorem sourceLines_cons (c : Char) (rest : List Char) (feed : c ≠ '\n') (ret : c ≠ '\r') :
    sourceLines (c :: rest) = consLine c (sourceLines rest) := by
  rw [sourceLines]
  · simp [feed, ret]
  · rintro _ rfl
    exact absurd rfl ret

theorem sourceLines_break (c : Char) (rest : List Char) (cut : c = '\n' ∨ c = '\r')
    (single : ∀ tail, c = '\r' → rest = '\n' :: tail → False) :
    sourceLines (c :: rest) = [] :: sourceLines rest := by
  rw [sourceLines]
  · rw [if_pos cut]
  · exact single

theorem documentLines_cons (c : Char) (rest : List Char) (ret : c ≠ '\r') :
    documentLines (c :: rest) =
      if isLineBreak c then [c] :: documentLines rest else consLine c (documentLines rest) := by
  rw [documentLines]
  rintro _ rfl
  exact absurd rfl ret

theorem exists_sourceLines_eq_cons (text : List Char) :
    ∃ line rest, sourceLines text = line :: rest := by
  fun_induction sourceLines text with
  | case1 => exact ⟨[], [], rfl⟩
  | case2 rest _ => exact ⟨[], _, rfl⟩
  | case3 c rest _ _ _ => exact ⟨[], _, rfl⟩
  | case4 c rest _ _ ih =>
      obtain ⟨line, others, split⟩ := ih
      exact ⟨c :: line, others, by rw [split]; rfl⟩

theorem chomp_cons (c : Char) (line : List Char) (feed : c ≠ '\n') (ret : c ≠ '\r') :
    chomp (c :: line) = c :: chomp line := by
  have keeps : (c == '\n' || c == '\r') = false := by simp [feed, ret]
  rw [chomp, List.reverse_cons, List.dropWhile_append]
  by_cases blank : (line.reverse.dropWhile fun c => c == '\n' || c == '\r').isEmpty = true
  · rw [if_pos blank, List.dropWhile_cons, keeps, chomp, List.isEmpty_iff.mp blank]
    rfl
  · rw [if_neg blank, List.reverse_append]
    rfl

theorem map_chomp_consLine (c : Char) (lines : List (List Char)) (feed : c ≠ '\n')
    (ret : c ≠ '\r') : (consLine c lines).map chomp = consLine c (lines.map chomp) := by
  cases lines with
  | nil => exact congrArg (fun line => [line]) (chomp_cons c [] feed ret)
  | cons line rest => simp [consLine, chomp_cons c line feed ret]

theorem consLine_append (c : Char) (lines others : List (List Char)) (nonempty : lines ≠ []) :
    consLine c (lines ++ others) = consLine c lines ++ others := by
  cases lines with
  | nil => exact absurd rfl nonempty
  | cons line rest => rfl

/-- A line of a scan is cut by the document as if it stood alone. -/
theorem map_chomp_documentLines (text : List Char) :
    (documentLines text).map chomp = (sourceLines text).flatMap documentLines := by
  fun_induction documentLines text with
  | case1 => rfl
  | case2 rest ih =>
      rw [List.map_cons, ih, sourceLines, List.flatMap_cons]
      rfl
  | case3 c rest single ends ih =>
      by_cases cut : c = '\n' ∨ c = '\r'
      · have emptied : chomp [c] = [] := by rcases cut with rfl | rfl <;> rfl
        rw [List.map_cons, ih, sourceLines_break c rest cut single, List.flatMap_cons, emptied]
        rfl
      · obtain ⟨feed, ret⟩ := not_or.mp cut
        obtain ⟨line, others, split⟩ := exists_sourceLines_eq_cons rest
        rw [List.map_cons, ih, sourceLines_cons c rest feed ret, split, consLine,
          List.flatMap_cons, List.flatMap_cons, documentLines_cons c line ret, if_pos ends,
          chomp_cons c [] feed ret]
        rfl
  | case4 c rest _ inside ih =>
      obtain ⟨feed, ret⟩ : c ≠ '\n' ∧ c ≠ '\r' := by
        constructor <;> rintro rfl <;> exact inside (by decide)
      obtain ⟨line, others, split⟩ := exists_sourceLines_eq_cons rest
      rw [map_chomp_consLine c _ feed ret, ih, sourceLines_cons c rest feed ret, split, consLine,
        List.flatMap_cons, List.flatMap_cons, documentLines_cons c line ret, if_neg inside,
        consLine_append c _ _ (documentLines_broken line).ne_nil]

/-! ## Texts on which the two agree -/

/-- A character that ends a line of an open document but not of a scan. -/
def isOtherBreak (c : Char) : Bool := isLineBreak c && !(c == '\n' || c == '\r')

theorem isOtherBreak_eq_false_iff (c : Char) :
    isOtherBreak c = false ↔ (isLineBreak c = true → c = '\n' ∨ c = '\r') := by
  cases ends : isLineBreak c with
  | false => simp [isOtherBreak, ends]
  | true => by_cases feed : c = '\n' <;> simp [isOtherBreak, ends, feed]

theorem length_consLine (c : Char) {lines : List (List Char)} (nonempty : lines ≠ []) :
    (consLine c lines).length = lines.length := by
  cases lines with
  | nil => exact absurd rfl nonempty
  | cons line rest => rfl

theorem sourceLines_ne_nil (text : List Char) : sourceLines text ≠ [] := by
  obtain ⟨line, rest, split⟩ := exists_sourceLines_eq_cons text
  rw [split]
  exact List.cons_ne_nil _ _

theorem length_documentLines (text : List Char) :
    (documentLines text).length = (sourceLines text).length + text.countP isOtherBreak := by
  fun_induction documentLines text with
  | case1 => rfl
  | case2 rest ih =>
      have counts : ('\r' :: '\n' :: rest).countP isOtherBreak = rest.countP isOtherBreak := by
        simp [isOtherBreak]
      rw [sourceLines, List.length_cons, List.length_cons, ih, counts]
      omega
  | case3 c rest single ends ih =>
      by_cases cut : c = '\n' ∨ c = '\r'
      · have counts : (c :: rest).countP isOtherBreak = rest.countP isOtherBreak := by
          rcases cut with rfl | rfl <;> simp [isOtherBreak]
        rw [sourceLines_break c rest cut single, List.length_cons, List.length_cons, ih, counts]
        omega
      · obtain ⟨feed, ret⟩ := not_or.mp cut
        have counts : (c :: rest).countP isOtherBreak = rest.countP isOtherBreak + 1 := by
          simp [isOtherBreak, ends, feed, ret]
        rw [sourceLines_cons c rest feed ret, length_consLine c (sourceLines_ne_nil rest),
          List.length_cons, ih, counts]
        omega
  | case4 c rest _ inside ih =>
      obtain ⟨feed, ret⟩ : c ≠ '\n' ∧ c ≠ '\r' := by
        constructor <;> rintro rfl <;> exact inside (by decide)
      have counts : (c :: rest).countP isOtherBreak = rest.countP isOtherBreak := by
        simp [isOtherBreak, inside]
      rw [sourceLines_cons c rest feed ret, length_consLine c (sourceLines_ne_nil rest),
        length_consLine c (documentLines_broken rest).ne_nil, ih, counts]

theorem documentLines_unbroken (body : List Char) (unbroken : Unbroken body) :
    documentLines body = [body] := by
  induction body with
  | nil => rfl
  | cons c rest ih =>
      obtain ⟨inside, others⟩ := List.forall_mem_cons.mp unbroken
      obtain ⟨-, ret⟩ := ne_of_unbroken unbroken (c := c) List.mem_cons_self
      rw [documentLines_cons c rest ret, inside, ih others]
      rfl

/-- The characters of a scan's line are characters of the text and no breaks of the scan. -/
theorem mem_sourceLines {text line : List Char} (member : line ∈ sourceLines text) :
    ∀ c ∈ line, c ∈ text ∧ c ≠ '\n' ∧ c ≠ '\r' := by
  fun_induction sourceLines text generalizing line with
  | case1 => simp_all
  | case2 rest ih =>
      intro c here
      rcases List.mem_cons.mp member with rfl | member
      · cases here
      · obtain ⟨inRest, breaks⟩ := ih member c here
        exact ⟨List.mem_cons_of_mem _ (List.mem_cons_of_mem _ inRest), breaks⟩
  | case3 d rest _ _ ih =>
      intro c here
      rcases List.mem_cons.mp member with rfl | member
      · cases here
      · obtain ⟨inRest, breaks⟩ := ih member c here
        exact ⟨List.mem_cons_of_mem _ inRest, breaks⟩
  | case4 d rest _ uncut ih =>
      obtain ⟨first, others, split⟩ := exists_sourceLines_eq_cons rest
      rw [split] at member ih
      intro c here
      rcases List.mem_cons.mp member with rfl | member
      · rcases List.mem_cons.mp here with rfl | here
        · exact ⟨List.mem_cons_self, not_or.mp uncut⟩
        · obtain ⟨inRest, breaks⟩ := ih List.mem_cons_self c here
          exact ⟨List.mem_cons_of_mem _ inRest, breaks⟩
      · obtain ⟨inRest, breaks⟩ := ih (List.mem_cons_of_mem _ member) c here
        exact ⟨List.mem_cons_of_mem _ inRest, breaks⟩

/-- The document's lines are those of a scan exactly if nothing else breaks them. -/
theorem map_chomp_documentLines_eq_iff (text : List Char) :
    (documentLines text).map chomp = sourceLines text ↔ ∀ c ∈ text, isOtherBreak c = false := by
  constructor
  · intro same
    have lengths := congrArg List.length same
    rw [List.length_map, length_documentLines] at lengths
    have none_counted : text.countP isOtherBreak = 0 := by omega
    intro c member
    simpa using List.countP_eq_zero.mp none_counted c member
  · intro clean
    have each : ∀ line ∈ sourceLines text, documentLines line = [line] := by
      intro line member
      apply documentLines_unbroken
      intro c here
      obtain ⟨inText, feed, ret⟩ := mem_sourceLines member c here
      have broken := (isOtherBreak_eq_false_iff c).mp (clean c inText)
      simpa [feed, ret] using broken
    rw [map_chomp_documentLines, List.flatMap_def, List.map_congr_left each, ← List.flatMap_def,
      List.flatMap_singleton']

/-- A scan has at most one line more than characters, its breaks left out. -/
theorem length_sourceLines_le (text : List Char) :
    (sourceLines text).flatten.length + (sourceLines text).length ≤ text.length + 1 := by
  fun_induction sourceLines text with
  | case1 => exact Nat.le_refl _
  | case2 rest ih =>
      simp only [List.flatten_cons, List.nil_append, List.length_cons]
      omega
  | case3 c rest _ _ ih =>
      simp only [List.flatten_cons, List.nil_append, List.length_cons]
      omega
  | case4 c rest _ _ ih =>
      rw [flatten_consLine, length_consLine c (sourceLines_ne_nil rest)]
      simp only [List.length_cons]
      omega

theorem sourceLines_single (line : List Char) (uncut : ∀ c ∈ line, c ≠ '\n' ∧ c ≠ '\r') :
    sourceLines line = [line] := by
  induction line with
  | nil => rfl
  | cons c rest ih =>
      obtain ⟨⟨feed, ret⟩, others⟩ := List.forall_mem_cons.mp uncut
      rw [sourceLines_cons c rest feed ret, ih others]
      rfl

end Text

open FluxonAssist.Text

/-! ## Declared functions -/

namespace Declaration

/-- A line declares the same function under any number. -/
theorem ofLine?_renumber {line : List Char} {number : Nat} {f : UserFunction}
    (declares : ofLine? line number = some f) (other : Nat) :
    f.span = ⟨UInt32.ofNat number, 0, UInt32.ofNat line.length⟩ ∧
      ofLine? line other = some { f with
        span := ⟨UInt32.ofNat other, 0, UInt32.ofNat line.length⟩ } := by
  unfold ofLine? at declares ⊢
  cases found : (afterKeyword? (splitModifier (trim line)).2).bind splitIdentifier? with
  | none => simp [found] at declares
  | some split =>
      simp only [found, Option.some.injEq] at declares ⊢
      subst declares
      exact ⟨rfl, rfl⟩

theorem ofLines_eq_filterMap (first : Nat) (lines : List (List Char)) :
    ofLines first lines = (lines.zipIdx first).filterMap fun p => ofLine? p.1 p.2 := by
  induction lines generalizing first with
  | nil => rfl
  | cons line rest ih =>
      rw [ofLines, List.zipIdx_cons, List.filterMap_cons, ih]
      cases ofLine? line first <;> rfl

theorem mem_declaredFunctions_iff {text : List Char} {f : UserFunction} :
    f ∈ declaredFunctions text ↔
      ∃ index line, (sourceLines text)[index]? = some line ∧ ofLine? line index = some f := by
  rw [declaredFunctions, ofLines_eq_filterMap, List.mem_filterMap]
  constructor
  · intro ⟨⟨line, index⟩, numbered, declares⟩
    exact ⟨index, line, List.mk_mem_zipIdx_iff_getElem?.mp numbered, declares⟩
  · intro ⟨index, line, here, declares⟩
    exact ⟨(line, index), List.mk_mem_zipIdx_iff_getElem?.mpr here, declares⟩

/-- A declared function stands on the scan's line of its number and spans it. -/
theorem line_of_mem_declaredFunctions {text : List Char}
    (few : (sourceLines text).length ≤ UInt32.size) {f : UserFunction}
    (member : f ∈ declaredFunctions text) :
    ∃ line, (sourceLines text)[f.span.line.toNat]? = some line ∧
      f.span = ⟨f.span.line, 0, UInt32.ofNat line.length⟩ ∧
      ofLine? line 0 = some { f with span := ⟨0, 0, f.span.endColumn⟩ } := by
  obtain ⟨index, line, here, declares⟩ := mem_declaredFunctions_iff.mp member
  obtain ⟨span, alone⟩ := ofLine?_renumber declares 0
  have numbered : index < (sourceLines text).length := (List.getElem?_eq_some_iff.mp here).1
  have lineNumber : (UInt32.ofNat index).toNat = index := UInt32.toNat_ofNat_of_lt' (by omega)
  refine ⟨line, ?_, ?_, ?_⟩
  · rw [span, lineNumber]
    exact here
  · rw [span]
  · rw [alone, span]
    rfl

/-- The line of a declared function has the length of its span and alone declares it. -/
theorem mem_declaredFunctions {text : List Char} (small : text.length < UInt32.size)
    {f : UserFunction} (member : f ∈ declaredFunctions text) :
    ∃ line, (sourceLines text)[f.span.line.toNat]? = some line ∧
      line.length = f.span.endColumn.toNat ∧
      declaredFunctions line = [{ f with span := ⟨0, 0, f.span.endColumn⟩ }] := by
  have bound := length_sourceLines_le text
  have few : (sourceLines text).length ≤ UInt32.size := by omega
  obtain ⟨line, here, span, alone⟩ := line_of_mem_declaredFunctions few member
  have inLines : line ∈ sourceLines text := List.mem_of_getElem? here
  have some_line : 0 < (sourceLines text).length := List.length_pos_of_mem inLines
  have short : line.length ≤ (sourceLines text).flatten.length :=
    (List.sublist_flatten_of_mem inLines).length_le
  have lineLength : (UInt32.ofNat line.length).toNat = line.length :=
    UInt32.toNat_ofNat_of_lt' (by omega)
  refine ⟨line, here, ?_, ?_⟩
  · rw [span, lineLength]
  · have single := sourceLines_single line fun c inLine => (mem_sourceLines inLines c inLine).2
    rw [declaredFunctions, single, ofLines, alone]
    rfl

end Declaration

namespace Document

theorem getElem?_documentLines {text : List Char} {index : Nat}
    (inside : index < (documentLines text).length) :
    (documentLines text)[index]? = some (lineText text index) := by
  rw [lineText, List.getD_eq_getElem?_getD, List.getElem?_eq_getElem inside]
  rfl

theorem chomp_lineText {text : List Char} {number : Nat} {line : List Char}
    (here : ((documentLines text).map chomp)[number]? = some line) :
    chomp (lineText text (lineIndex text number)) = line := by
  have inside : number < (documentLines text).length := by
    simpa using (List.getElem?_eq_some_iff.mp here).1
  have addressed : lineIndex text number = number := by
    rw [lineIndex]
    omega
  rw [List.getElem?_map, getElem?_documentLines inside] at here
  rw [addressed]
  exact Option.some.inj here

end Document

/-- The lines of an open document are those of the scan, each cut once more, and they are the same
exactly if the text holds none of the five characters that break only document lines. In such a text
of fewer than `2^32` characters every declared function has the number of the document's line that
it stands on and the length of that line, which alone declares the same function. -/
theorem scan_numbers_document_lines (text : List Char) :
    (documentLines text).map chomp = (sourceLines text).flatMap documentLines ∧
    ((documentLines text).map chomp = sourceLines text ↔
      ∀ c ∈ text, isLineBreak c = true → c = '\n' ∨ c = '\r') ∧
    ((∀ c ∈ text, isLineBreak c = true → c = '\n' ∨ c = '\r') → text.length < UInt32.size →
      ∀ f ∈ declaredFunctions text, ∀ version character, ∃ line,
        (Document.lineAt ⟨text, version⟩ ⟨f.span.line.toNat, character⟩).1 = line ∧
        line.length = f.span.endColumn.toNat ∧
        declaredFunctions line = [{ f with span := ⟨0, 0, f.span.endColumn⟩ }]) := by
  have cleanIff : (∀ c ∈ text, isOtherBreak c = false) ↔
      ∀ c ∈ text, isLineBreak c = true → c = '\n' ∨ c = '\r' :=
    forall₂_congr fun c _ => isOtherBreak_eq_false_iff c
  have agreeIff := (map_chomp_documentLines_eq_iff text).trans cleanIff
  refine ⟨map_chomp_documentLines text, agreeIff, ?_⟩
  intro clean small f member version character
  obtain ⟨line, here, length, alone⟩ := Declaration.mem_declaredFunctions small member
  rw [← agreeIff.mpr clean] at here
  exact ⟨line, Document.chomp_lineText here, length, alone⟩

/-- A vertical tab ends a line of the document only, so the function on its third line is numbered
as if it stood on the second. -/
theorem scan_number_differs_after_tab :
    ∃ f ∈ declaredFunctions "x\x0b\ndef f = 1".toList, f.span.line = 1 ∧
      f.span.endColumn = 9 ∧
      (Document.lineAt ⟨"x\x0b\ndef f = 1".toList, 0⟩ ⟨1, 0⟩).1 = [] ∧
      (Document.lineAt ⟨"x\x0b\ndef f = 1".toList, 0⟩ ⟨2, 0⟩).1 = "def f = 1".toList := by
  refine ⟨⟨"f", 0, false, false, ⟨1, 0, 9⟩⟩, ?_, rfl, rfl, ?_, ?_⟩ <;> decide +kernel

def mixedBreaks : List Char := "val x\rasync def wait a b = a\r\n\n fun two(p, q) = p".toList

theorem mixedBreaks_numbered :
    (∀ c ∈ mixedBreaks, isLineBreak c = true → c = '\n' ∨ c = '\r') ∧
      mixedBreaks.length < UInt32.size ∧
      (declaredFunctions mixedBreaks).map (fun f => (f.name, f.span.line)) =
        [("wait", 1), ("two", 3)] ∧
      ∀ f ∈ declaredFunctions mixedBreaks, ∀ version character, ∃ line,
        (Document.lineAt ⟨mixedBreaks, version⟩ ⟨f.span.line.toNat, character⟩).1 = line ∧
        line.length = f.span.endColumn.toNat ∧
        declaredFunctions line = [{ f with span := ⟨0, 0, f.span.endColumn⟩ }] := by
  have clean : ∀ c ∈ mixedBreaks, isLineBreak c = true → c = '\n' ∨ c = '\r' := by
    have none_other : mixedBreaks.all (fun c => !isOtherBreak c) = true := by decide +kernel
    intro c member
    apply (isOtherBreak_eq_false_iff c).mp
    simpa using List.all_eq_true.mp none_other c member
  have small : mixedBreaks.length < UInt32.size := by decide +kernel
  exact ⟨clean, small, by decide +kernel, (scan_numbers_document_lines mixedBreaks).2.2 clean small⟩

end FluxonAssist
