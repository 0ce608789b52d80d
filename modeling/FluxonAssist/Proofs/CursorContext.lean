import FluxonAssist.Candidate.List
import FluxonAssist.Context.Classify
import FluxonAssist.Proofs.LineShape

/-!
# The rules behind the cursor's context

The context of a cursor is the one given by the first of eight rules that applies. The rules speak
of how the line and the text before the cursor can be written as concatenations, and the recognisers
only decide them. A word typed at the cursor leaves every rule but the single colon's as it was. A
second colon, which the hint after the first one inserts, opens an extension call.
-/
set_option autoImplicit false
namespace FluxonAssist

open FluxonAssist.Text FluxonAssist.Line

/-- The rule of a rank applies and gives a context, on a line with a text before the cursor. -/
inductive Rule (kind : DocumentKind) (line text : List Char) : Nat → Context → Prop
  | noCode (embedded : kind = .embedded) (unmarked : ¬ HoldsMarker line) :
      Rule kind line text 1 .ignored
  | comment (starts : StartsComment text) : Rule kind line text 2 .ignored
  | importing (parts : ImportText) (split : text = parts.text) :
      Rule kind line text 3 (.importNamespace parts.quote)
  | openString (odd : text.count singleQuote % 2 = 1 ∨ text.count doubleQuote % 2 = 1) :
      Rule kind line text 4 .ignored
  | oneColon (ends : EndsInOneColon text) : Rule kind line text 5 .singleColon
  | call (ends : EndsInCall text) : Rule kind line text 6 (.extensionCall .all)
  | atSign (ends : EndsInAt text) : Rule kind line text 7 .annotationName
  | otherwise : Rule kind line text 8 .topLevel

section FirstRule

variable {kind : DocumentKind} {line text : List Char}

/-- No rule below a rank applies. -/
def NoneBelow (kind : DocumentKind) (line text : List Char) (rank : Nat) : Prop :=
  ∀ earlier < rank, ∀ context, ¬ Rule kind line text earlier context

theorem noneBelow_one : NoneBelow kind line text 1 := by
  intro earlier below context applies
  cases applies <;> omega

theorem NoneBelow.succ {rank : Nat} (none : NoneBelow kind line text rank)
    (silent : ∀ context, ¬ Rule kind line text rank context) :
    NoneBelow kind line text (rank + 1) := by
  intro earlier below context
  rcases Nat.lt_succ_iff_lt_or_eq.mp below with lower | rfl
  · exact none earlier lower context
  · exact silent context

theorem Rule.context_eq {rank : Nat} {first second : Context}
    (applies : Rule kind line text rank first) (again : Rule kind line text rank second) :
    first = second := by
  cases applies with
  | importing parts split =>
      cases again with
      | importing others splitAgain =>
          rw [ImportText.text_injective (split.symm.trans splitAgain)]
  | _ => cases again; rfl

/-- The first rule that applies gives one context. -/
theorem first_context_eq {rank rank' : Nat} {context context' : Context}
    (applies : Rule kind line text rank context) (none : NoneBelow kind line text rank)
    (applies' : Rule kind line text rank' context') (none' : NoneBelow kind line text rank') :
    context = context' := by
  rcases Nat.lt_trichotomy rank rank' with below | rfl | below
  · exact absurd applies (none' rank below context)
  · exact applies.context_eq applies'
  · exact absurd applies' (none rank' below context')

end FirstRule

theorem exists_first_rule (kind : DocumentKind) (line : List Char) (cursor : Nat) :
    ∃ rank, Rule kind line (line.take cursor) rank (classify line cursor kind) ∧
      NoneBelow kind line (line.take cursor) rank := by
  unfold classify Context.ofPrefix linePrefix
  generalize line.take cursor = text
  -- a question answered with no leaves no rule below the next rank
  by_cases noCode : kind = .embedded ∧ hasCodeMarker line = false
  · rw [if_pos noCode]
    have unmarked : ¬ HoldsMarker line := by
      rw [← hasCodeMarker_iff, noCode.2]
      exact Bool.false_ne_true
    exact ⟨1, .noCode noCode.1 unmarked, noneBelow_one⟩
  rw [if_neg noCode]
  have none2 : NoneBelow kind line text 2 := noneBelow_one.succ (by
    intro context applies
    cases applies with
    | noCode embedded unmarked =>
        rw [← hasCodeMarker_iff, Bool.not_eq_true] at unmarked
        exact noCode ⟨embedded, unmarked⟩)
  by_cases comment : isComment text = true
  · rw [if_pos comment]
    exact ⟨2, .comment ((isComment_iff text).mp comment), none2⟩
  rw [if_neg comment]
  have none3 : NoneBelow kind line text 3 := none2.succ (by
    intro context applies
    cases applies with
    | comment starts => exact comment ((isComment_iff text).mpr starts))
  cases found : importQuote text with
  | some quote =>
      obtain ⟨parts, split, rfl⟩ := (importQuote_eq_some_iff text quote).mp found
      exact ⟨3, .importing parts split, none3⟩
  | none =>
  have none4 : NoneBelow kind line text 4 := none3.succ (by
    intro context applies
    cases applies with
    | importing parts split =>
        rw [split, parts.importQuote_text] at found
        cases found)
  dsimp only
  by_cases odd : opensString text = true
  · rw [if_pos odd]
    exact ⟨4, .openString ((opensString_iff text).mp odd), none4⟩
  rw [if_neg odd]
  have none5 : NoneBelow kind line text 5 := none4.succ (by
    intro context applies
    cases applies with
    | openString counts => exact odd ((opensString_iff text).mpr counts))
  by_cases colon : endsInSingleColon text = true
  · rw [if_pos colon]
    exact ⟨5, .oneColon ((endsInSingleColon_iff text).mp colon), none5⟩
  rw [if_neg colon]
  have none6 : NoneBelow kind line text 6 := none5.succ (by
    intro context applies
    cases applies with
    | oneColon ends => exact colon ((endsInSingleColon_iff text).mpr ends))
  by_cases call : endsInExtensionCall text = true
  · rw [if_pos call]
    exact ⟨6, .call ((endsInExtensionCall_iff text).mp call), none6⟩
  rw [if_neg call]
  have none7 : NoneBelow kind line text 7 := none6.succ (by
    intro context applies
    cases applies with
    | call ends => exact call ((endsInExtensionCall_iff text).mpr ends))
  by_cases sign : endsInAnnotation text = true
  · rw [if_pos sign]
    exact ⟨7, .atSign ((endsInAnnotation_iff text).mp sign), none7⟩
  rw [if_neg sign]
  have none8 : NoneBelow kind line text 8 := none7.succ (by
    intro context applies
    cases applies with
    | atSign ends => exact sign ((endsInAnnotation_iff text).mpr ends))
  exact ⟨8, .otherwise, none8⟩

/-- The context of a cursor is the one of the first rule that applies, and the rule of imports can
apply in one way only. -/
theorem classify_eq_iff_first_rule (line : List Char) (cursor : Nat) (kind : DocumentKind) :
    (∀ context, classify line cursor kind = context ↔
      ∃ rank, Rule kind line (line.take cursor) rank context ∧
        ∀ earlier < rank, ∀ other, ¬ Rule kind line (line.take cursor) earlier other) ∧
    Function.Injective ImportText.text := by
  refine ⟨?_, ImportText.text_injective⟩
  intro context
  obtain ⟨first, applies, none⟩ := exists_first_rule kind line cursor
  constructor
  · rintro rfl
    exact ⟨first, applies, none⟩
  · rintro ⟨rank, appliesHere, noneHere⟩
    exact first_context_eq applies none appliesHere noneHere

/-! ## Texts that go on -/

section Tail

variable {tail : List Char} (text : List Char)

theorem importQuote_append_name (named : ∀ c ∈ tail, isNamespacePart c = true) :
    importQuote (text ++ tail) = importQuote text := by
  have reversed : ∀ c ∈ tail.reverse, isNamespacePart c = true := by
    intro c member
    exact named c (List.mem_reverse.mp member)
  unfold importQuote
  rw [List.reverse_append, List.dropWhile_append_of_pos reversed]

theorem opensString_append_unquoted (unquoted : ∀ c ∈ tail, isQuote c = false) :
    opensString (text ++ tail) = opensString text := by
  have absent {d : Char} (quote : isQuote d = true) : tail.count d = 0 := by
    rw [List.count_eq_zero]
    intro member
    rw [unquoted d member] at quote
    cases quote
  have single : isQuote singleQuote = true := by decide
  have double : isQuote doubleQuote = true := by decide
  simp only [opensString, List.count_append, absent single, absent double, Nat.add_zero]

theorem isComment_cons (c : Char) (text : List Char) :
    isComment (c :: text) =
      if isBlank c then isComment text else c == '#' || (c == '/' && text.head? == some '/') := by
  unfold isComment trimStart
  by_cases blank : isBlank c = true
  · rw [List.dropWhile_cons_of_pos blank, if_pos blank]
  · rw [List.dropWhile_cons_of_neg blank, if_neg blank]
    cases text with
    | nil => split <;> simp_all
    | cons d rest => split <;> simp_all

theorem isComment_append_inert
    (inert : ∀ c ∈ tail.head?, isBlank c = false ∧ c ≠ '#' ∧ c ≠ '/') :
    isComment (text ++ tail) = isComment text := by
  induction text with
  | nil =>
      cases tail with
      | nil => rfl
      | cons c rest =>
          obtain ⟨solid, hash, slash⟩ := inert c rfl
          rw [List.nil_append, isComment_cons, solid]
          simp [hash, slash, isComment, trimStart]
  | cons c rest ih =>
      rw [List.cons_append, isComment_cons, isComment_cons, ih]
      cases rest with
      | nil =>
          have noSlash : (tail.head? == some '/') = false := by
            rw [beq_eq_false_iff_ne]
            intro slash
            exact (inert '/' slash).2.2 rfl
          simp [noSlash]
      | cons d rest => rfl

end Tail

/-! ## Typing a word -/

section TypedWord

variable {word : List Char} (text : List Char) (typed : ∀ c ∈ word, isWord c = true)

include typed

theorem reverse_typed : ∀ c ∈ word.reverse, isWord c = true := by
  intro c member
  exact typed c (List.mem_reverse.mp member)

theorem importQuote_append_word : importQuote (text ++ word) = importQuote text := by
  apply importQuote_append_name
  intro c member
  exact (isNamespacePart_iff c).mpr (Or.inl (typed c member))

theorem opensString_append_word : opensString (text ++ word) = opensString text := by
  apply opensString_append_unquoted
  intro c member
  have single : c ≠ singleQuote := ne_of_isWord (typed c member) (by decide)
  have double : c ≠ doubleQuote := ne_of_isWord (typed c member) (by decide)
  simp [isQuote, single, double]

theorem isComment_append_word : isComment (text ++ word) = isComment text := by
  apply isComment_append_inert
  intro c first
  have wordChar : isWord c = true := typed c (List.mem_of_mem_head? first)
  exact ⟨not_isBlank_of_isWord wordChar, ne_of_isWord wordChar (by decide),
    ne_of_isWord wordChar (by decide)⟩

theorem endsInExtensionCall_append_word :
    endsInExtensionCall (text ++ word) = endsInExtensionCall text := by
  unfold endsInExtensionCall
  rw [List.reverse_append, List.dropWhile_append_of_pos (reverse_typed typed)]

theorem endsInAnnotation_append_word : endsInAnnotation (text ++ word) = endsInAnnotation text := by
  unfold endsInAnnotation
  rw [List.reverse_append, List.dropWhile_append_of_pos (reverse_typed typed)]

theorem endsInSingleColon_append_word (nonempty : word ≠ []) :
    endsInSingleColon (text ++ word) = false := by
  have colon : isWord ':' = false := by decide
  rcases List.eq_nil_or_concat word with empty | ⟨front, c, rfl⟩
  · exact absurd empty nonempty
  · have notColon : c ≠ ':' := ne_of_isWord (typed c (by simp)) colon
    simp [endsInSingleColon, notColon]

end TypedWord

/-- After one colon neither a call nor an annotation is in progress. -/
theorem not_call_of_endsInSingleColon {text : List Char} (ends : endsInSingleColon text = true) :
    endsInExtensionCall text = false ∧ endsInAnnotation text = false := by
  have colon : isWord ':' = false := by decide
  obtain ⟨-, single, front, c, rfl, -⟩ := (endsInSingleColon_iff text).mp ends
  have notColon : c ≠ ':' := by
    rintro rfl
    exact single ⟨front, rfl⟩
  constructor
  · simp [endsInExtensionCall, colon, notColon]
  · simp [colon, endsInAnnotation]

theorem ofPrefix_append_word {word : List Char} (text : List Char) (nonempty : word ≠ [])
    (typed : ∀ c ∈ word, isWord c = true) :
    Context.ofPrefix (text ++ word) =
      match Context.ofPrefix text with
      | .singleColon => .topLevel
      | context => context := by
  unfold Context.ofPrefix
  rw [isComment_append_word text typed, importQuote_append_word text typed,
    opensString_append_word text typed, endsInSingleColon_append_word text typed nonempty,
    endsInExtensionCall_append_word text typed, endsInAnnotation_append_word text typed]
  by_cases comment : isComment text = true
  · simp only [if_pos comment]
  simp only [if_neg comment]
  cases importQuote text with
  | some quote => rfl
  | none =>
  dsimp only
  by_cases odd : opensString text = true
  · simp only [if_pos odd]
  simp only [if_neg odd]
  by_cases colon : endsInSingleColon text = true
  · obtain ⟨noCall, noSign⟩ := not_call_of_endsInSingleColon colon
    simp [colon, noCall, noSign]
  · by_cases call : endsInExtensionCall text = true
    · simp [colon, call]
    · by_cases sign : endsInAnnotation text = true <;> simp [colon, call, sign]

theorem classify_source (text rest : List Char) :
    classify (text ++ rest) text.length .source = Context.ofPrefix text := by
  simp [classify, linePrefix]

/-- A word typed at the cursor of a source keeps the context, except that one colon is then no
longer about to become two. What follows the cursor does not matter. -/
theorem classify_after_typed_word (text word rest oldRest : List Char) (nonempty : word ≠ [])
    (typed : ∀ c ∈ word, isWord c = true) :
    classify (text ++ word ++ rest) (text ++ word).length .source =
      match classify (text ++ oldRest) text.length .source with
      | .singleColon => .topLevel
      | context => context := by
  rw [classify_source, classify_source]
  exact ofPrefix_append_word text nonempty typed

theorem typed_net_contexts :
    ("net".toList ≠ [] ∧ ∀ c ∈ "net".toList, isWord c = true) ∧
      classify "import \"net\"".toList 11 .source = .importNamespace (some doubleQuote) ∧
      classify "foo:net".toList 7 .source = .topLevel := by
  have nonempty : "net".toList ≠ [] := by decide
  have typed : ∀ c ∈ "net".toList, isWord c = true := List.all_eq_true.mp (by decide)
  have inImport := classify_after_typed_word "import \"".toList "net".toList [doubleQuote] []
    nonempty typed
  have afterColon := classify_after_typed_word "foo:".toList "net".toList [] [] nonempty typed
  exact ⟨⟨nonempty, typed⟩, inImport.trans (by decide), afterColon.trans (by decide)⟩

/-! ## The second colon -/

theorem ofPrefix_eq_singleColon {text : List Char} (single : Context.ofPrefix text = .singleColon) :
    isComment text = false ∧ importQuote text = none ∧ opensString text = false ∧
      endsInSingleColon text = true := by
  unfold Context.ofPrefix at single
  by_cases comment : isComment text = true
  · rw [if_pos comment] at single
    cases single
  rw [if_neg comment] at single
  cases found : importQuote text with
  | some quote =>
      rw [found] at single
      cases single
  | none =>
  rw [found] at single
  dsimp only at single
  by_cases odd : opensString text = true
  · rw [if_pos odd] at single
    cases single
  rw [if_neg odd] at single
  by_cases colon : endsInSingleColon text = true
  · exact ⟨by simpa using comment, rfl, by simpa using odd, colon⟩
  · rw [if_neg colon] at single
    split at single
    · cases single
    · split at single <;> cases single

theorem ofPrefix_append_colon {text : List Char} (single : Context.ofPrefix text = .singleColon) :
    Context.ofPrefix (text ++ [':']) = .extensionCall .all := by
  obtain ⟨comment, quote, even, colon⟩ := ofPrefix_eq_singleColon single
  obtain ⟨-, -, front, c, split, solid⟩ := (endsInSingleColon_iff text).mp colon
  have stillCode : isComment (text ++ [':']) = false := by
    rw [isComment_append_inert, comment]
    rintro d ⟨⟩
    decide
  have noImport : importQuote (text ++ [':']) = none := by
    rw [importQuote_append_name, quote]
    simp [isNamespacePart]
  have stillEven : opensString (text ++ [':']) = false := by
    rw [opensString_append_unquoted, even]
    simp [isQuote, singleQuote, doubleQuote]
  have twoColons : endsInSingleColon (text ++ [':']) = false := by
    simp [split, endsInSingleColon]
  have call : endsInExtensionCall (text ++ [':']) = true := by
    apply (endsInExtensionCall_iff _).mpr
    exact ⟨front ++ [c], [], by simp [split], by simp, c, by simp, solid⟩
  simp [Context.ofPrefix, stillCode, noImport, stillEven, twoColons, call]

/-- A marker survives a second colon after one of the line's colons. -/
theorem hasCodeMarker_double_colon (front rest : List Char)
    (marked : hasCodeMarker (front ++ ':' :: rest) = true) :
    hasCodeMarker (front ++ ':' :: ':' :: rest) = true := by
  have solid : isBlank ':' = false := by decide
  induction front with
  | nil =>
      rw [List.nil_append] at marked ⊢
      rw [hasCodeMarker, marked, Bool.or_true]
  | cons d front ih =>
      -- what follows `d` starts alike in both lines
      have sameHead : (trimStart (front ++ ':' :: ':' :: rest)).head? =
          (trimStart (front ++ ':' :: rest)).head? := by
        rw [trimStart_append_cons front _ solid, trimStart_append_cons front _ solid]
        cases trimStart front <;> rfl
      rw [List.cons_append, hasCodeMarker, Bool.or_eq_true] at marked ⊢
      rw [sameHead]
      exact marked.imp id ih

theorem classify_append_colon (text rest : List Char) (kind : DocumentKind)
    (single : classify (text ++ rest) text.length kind = .singleColon) :
    classify (text ++ [':'] ++ rest) (text.length + 1) kind = .extensionCall .all := by
  unfold classify linePrefix at single ⊢
  rw [List.take_left] at single
  by_cases noCode : kind = .embedded ∧ hasCodeMarker (text ++ rest) = false
  · rw [if_pos noCode] at single
    cases single
  rw [if_neg noCode] at single
  obtain ⟨-, -, -, colon⟩ := ofPrefix_eq_singleColon single
  obtain ⟨⟨front, split⟩, -⟩ := (endsInSingleColon_iff text).mp colon
  have stillCode : ¬ (kind = .embedded ∧ hasCodeMarker (text ++ [':'] ++ rest) = false) := by
    intro ⟨embedded, unmarked⟩
    have marked : hasCodeMarker (text ++ rest) = true := by simpa [embedded] using noCode
    rw [split, List.append_assoc, List.singleton_append] at marked
    have kept := hasCodeMarker_double_colon front rest marked
    rw [split, List.append_assoc, List.append_assoc, List.singleton_append, List.singleton_append,
      kept] at unmarked
    cases unmarked
  rw [if_neg stillCode, List.take_left' (by simp)]
  exact ofPrefix_append_colon single

/-- After one colon the only candidate is the hint. With its text at the cursor, and the cursor
behind that, an extension call is in progress. -/
theorem classify_after_colon_hint (line : List Char) (cursor : Nat) (kind : DocumentKind)
    (offered : classify line cursor kind = .singleColon) (catalog : LoadedCatalog)
    (users : List UserFunction) (options : ListOptions) :
    Candidate.listFor (classify line cursor kind) catalog users options = [Candidate.colonHint] ∧
      Candidate.colonHint.insert = some (":", .plain) ∧
      classify (line.take (min cursor line.length) ++ ":".toList ++
          line.drop (min cursor line.length)) (min cursor line.length + 1) kind =
        .extensionCall .all := by
  refine ⟨by rw [offered]; rfl, rfl, ?_⟩
  have length : min cursor line.length = (line.take (min cursor line.length)).length := by
    rw [List.length_take, Nat.min_assoc, Nat.min_self]
  have clamped : classify line (min cursor line.length) kind = .singleColon := by
    unfold classify linePrefix at offered ⊢
    rw [← List.take_eq_take_min]
    exact offered
  have single := classify_append_colon (line.take (min cursor line.length))
    (line.drop (min cursor line.length)) kind
  rw [List.take_append_drop, ← length] at single
  exact single clamped

/-- The doubled colon is the one of the line's code marker. -/
theorem marker_hint_accepted :
    classify "run: ; x".toList 4 .embedded = .singleColon ∧
      classify "run:: ; x".toList 5 .embedded = .extensionCall .all := by
  have offered : classify "run: ; x".toList 4 .embedded = .singleColon := by decide +kernel
  have accepted := classify_after_colon_hint _ 4 .embedded offered
    { source := "", catalog := { generatedAt := "", system := [], extensions := [] } } [] {}
  exact ⟨offered, accepted.2.2⟩

end FluxonAssist
