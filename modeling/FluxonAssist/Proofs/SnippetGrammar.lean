import FluxonAssist.Proofs.SnippetReader

/-!
# The grammar of snippets

`Reads` says what a snippet stands for, without an order of reading: a backslash makes the next
character literal, a dollar with digits is a stop, and a dollar with braces is a placeholder. The
reader finds exactly what the grammar says, so a text stands for one list of parts at most. What a
call stands for shows its name and its number of arguments, and so the text of a call does.
-/
set_option autoImplicit false
namespace FluxonAssist.Snippet

/-- The parts that a text stands for. -/
inductive Reads : List Char → List Part → Prop
  | nil : Reads [] []
  | plain {c : Char} {rest : List Char} {parts : List Part} (notSlash : c ≠ '\\')
      (notDollar : c ≠ '$') (later : Reads rest parts) : Reads (c :: rest) (.char c :: parts)
  | escaped (c : Char) {rest : List Char} {parts : List Part} (later : Reads rest parts) :
      Reads ('\\' :: c :: rest) (.char c :: parts)
  | stop {digits rest : List Char} {parts : List Part} (numeral : IsNumeral digits)
      (ends : ∀ c ∈ rest.head?, c.isDigit = false) (later : Reads rest parts) :
      Reads ('$' :: (digits ++ rest)) (.stop (decimal digits) :: parts)
  | placeholder {digits written text rest : List Char} {parts : List Part}
      (numeral : IsNumeral digits) (filled : DefaultText written text) (later : Reads rest parts) :
      Reads ('$' :: '\x7b' :: (digits ++ ':' :: (written ++ '\x7d' :: rest)))
        (.placeholder (decimal digits) text :: parts)

/-! ## The reader accepts what the grammar says -/

theorem readFrom_dollar_digits {digits : List Char} (numeral : IsNumeral digits) :
    readFrom .text ('$' :: digits) = some ([], .stop digits) := by
  obtain ⟨c, more, rfl⟩ := List.exists_cons_of_ne_nil numeral.nonempty
  obtain ⟨first, others⟩ := List.forall_mem_cons.mp numeral.decimals
  have opened : step .text '$' = some ([], .dollar) := rfl
  have notBrace : c ≠ '\x7b' := by
    intro brace
    rw [brace] at first
    exact absurd first (by decide)
  have started : step .dollar c = some ([], .stop [c]) := by
    simp [step, first, notBrace]
  have collected := readFrom_digits .stop (fun _ _ digit => by simp [step, digit]) [c] more others
  exact readFrom_cons opened (readFrom_cons started collected)

/-- The parts of a text that has been read to its end. -/
def atEnd : List Part × Reading → Option (List Part)
  | (parts, .text) => some parts
  | (parts, .stop digits) => some (parts ++ [.stop (decimal digits)])
  | _ => none

theorem read_eq (snippet : String) :
    read snippet = (readFrom .text snippet.toList).bind atEnd := by
  rw [read]
  rcases readFrom .text snippet.toList with _ | ⟨parts, state⟩
  · rfl
  · cases state <;> rfl

theorem atEnd_prepend (front : List Part) {parts later : List Part} {state : Reading}
    (ends : atEnd (later, state) = some parts) :
    atEnd (front ++ later, state) = some (front ++ parts) := by
  cases state with
  | text =>
      cases ends
      rfl
  | stop digits =>
      cases ends
      exact congrArg some (List.append_assoc _ _ _)
  | _ => cases ends

theorem bind_atEnd_append {state : Reading} {first second : List Char} {front parts : List Part}
    (reads : readFrom state first = some (front, .text))
    (ends : (readFrom .text second).bind atEnd = some parts) :
    (readFrom state (first ++ second)).bind atEnd = some (front ++ parts) := by
  obtain ⟨⟨later, last⟩, readsLater, ends⟩ := Option.bind_eq_some_iff.mp ends
  rw [readFrom_append reads readsLater]
  exact atEnd_prepend front ends

/-- Behind a number, a character that is no digit is read as plain text. -/
theorem readFrom_stop_of_not_digit (digits : List Char) {c : Char} (ends : c.isDigit = false)
    (rest : List Char) :
    readFrom (.stop digits) (c :: rest) =
      (readFrom .text (c :: rest)).map fun outcome =>
        (.stop (decimal digits) :: outcome.1, outcome.2) := by
  have stepped : step (.stop digits) c =
      some (.stop (decimal digits) :: (stepText c).1, (stepText c).2) := by
    simp [step, ends]
  have asText : step .text c = some ((stepText c).1, (stepText c).2) := rfl
  rw [readFrom, readFrom, stepped, asText]
  cases found : readFrom (stepText c).2 rest <;> simp [found]

theorem bind_atEnd_of_reads {text : List Char} {parts : List Part} (reads : Reads text parts) :
    (readFrom .text text).bind atEnd = some parts := by
  induction reads with
  | nil => rfl
  | @plain c rest parts notSlash notDollar _ ih =>
      have first : readFrom .text [c] = some ([.char c], .text) := by
        simp [readFrom, step, stepText, notSlash, notDollar]
      exact bind_atEnd_append first ih
  | @escaped c rest parts _ ih =>
      have first : readFrom .text ['\\', c] = some ([.char c], .text) := rfl
      exact bind_atEnd_append first ih
  | @stop digits rest parts numeral ends _ ih =>
      have first := readFrom_dollar_digits numeral
      cases rest with
      | nil =>
          cases ih
          rw [List.append_nil, first]
          rfl
      | cons c rest =>
          obtain ⟨⟨later, last⟩, readsLater, ended⟩ := Option.bind_eq_some_iff.mp ih
          have behind := readFrom_stop_of_not_digit digits (ends c rfl) rest
          rw [readsLater] at behind
          have whole := readFrom_append first behind
          rw [List.cons_append] at whole
          rw [whole]
          exact atEnd_prepend [.stop (decimal digits)] ended
  | @placeholder digits written text rest parts numeral filled _ ih =>
      have first := readFrom_written_placeholder numeral filled
      have whole := bind_atEnd_append first ih
      simpa using whole

/-! ## The grammar says what the reader accepts -/

/-- The texts after which the reader is in a state, with nothing left to hand out. -/
inductive Pending : Reading → List Char → Prop
  | text : Pending .text []
  | escaped : Pending .escaped ['\\']
  | dollar : Pending .dollar ['$']
  | stop {digits : List Char} (numeral : IsNumeral digits) : Pending (.stop digits) ('$' :: digits)
  | number {digits : List Char} (decimals : ∀ c ∈ digits, c.isDigit = true) :
      Pending (.number digits) ('$' :: '\x7b' :: digits)
  | inside {digits written text : List Char} (numeral : IsNumeral digits)
      (filled : DefaultText written text) :
      Pending (.inside (decimal digits) text) ('$' :: '\x7b' :: (digits ++ ':' :: written))
  | insideEscaped {digits written text : List Char} (numeral : IsNumeral digits)
      (filled : DefaultText written text) :
      Pending (.insideEscaped (decimal digits) text)
        ('$' :: '\x7b' :: (digits ++ ':' :: (written ++ ['\\'])))

theorem DefaultText.append {first second text more : List Char} (filled : DefaultText first text)
    (others : DefaultText second more) : DefaultText (first ++ second) (text ++ more) := by
  induction filled with
  | nil => exact others
  | plain notSlash notBrace notDollar _ ih => exact .plain notSlash notBrace notDollar ih
  | escaped c _ ih => exact .escaped c ih

theorem IsNumeral.snoc {digits : List Char} (decimals : ∀ c ∈ digits, c.isDigit = true) {c : Char}
    (digit : c.isDigit = true) : IsNumeral (digits ++ [c]) := by
  refine ⟨by simp, ?_⟩
  intro d member
  rcases List.mem_append.mp member with before | last
  · exact decimals d before
  · rw [List.mem_singleton.mp last]
    exact digit

/-- What the reader still has to hand out after a piece, behind the parts that it has. -/
def Continues (whole : List Char) (parts : List Part) (state : Reading) : Prop :=
  ∃ pending, Pending state pending ∧
    ∀ rest later, Reads (pending ++ rest) later → Reads (whole ++ rest) (parts ++ later)

theorem continues_stepText (c : Char) : Continues [c] (stepText c).1 (stepText c).2 := by
  unfold stepText
  by_cases slash : c = '\\'
  · subst slash
    exact ⟨_, .escaped, fun _ _ reads => reads⟩
  by_cases dollar : c = '$'
  · subst dollar
    exact ⟨_, .dollar, fun _ _ reads => reads⟩
  rw [if_neg slash, if_neg dollar]
  exact ⟨_, .text, fun _ _ reads => .plain slash dollar reads⟩

theorem continues_step {state next : Reading} {pending : List Char} {c : Char} {parts : List Part}
    (waits : Pending state pending) (stepped : step state c = some (parts, next)) :
    Continues (pending ++ [c]) parts next := by
  cases waits with
  | text =>
      obtain ⟨rfl, rfl⟩ := Prod.mk.inj (Option.some.inj stepped)
      exact continues_stepText c
  | escaped =>
      cases stepped
      exact ⟨_, .text, fun _ _ reads => .escaped c reads⟩
  | dollar =>
      rw [step] at stepped
      by_cases brace : c = '\x7b'
      · rw [if_pos brace] at stepped
        cases stepped
        subst brace
        exact ⟨_, .number (List.forall_mem_nil _), fun _ _ reads => reads⟩
      · rw [if_neg brace] at stepped
        by_cases digit : c.isDigit = true
        · rw [if_pos digit] at stepped
          cases stepped
          exact ⟨_, .stop (.snoc (List.forall_mem_nil _) digit), fun _ _ reads => reads⟩
        · rw [if_neg digit] at stepped
          cases stepped
  | @stop digits numeral =>
      rw [step] at stepped
      by_cases digit : c.isDigit = true
      · rw [if_pos digit] at stepped
        cases stepped
        exact ⟨_, .stop (.snoc numeral.decimals digit), fun _ _ reads => reads⟩
      · -- the character ends the number and is then read as plain text
        rw [if_neg digit] at stepped
        cases stepped
        obtain ⟨pending, waits, continues⟩ := continues_stepText c
        refine ⟨pending, waits, ?_⟩
        intro rest later reads
        have ends : ∀ d ∈ (c :: rest).head?, d.isDigit = false := by
          intro d first
          cases first
          simpa using digit
        have whole := Reads.stop numeral ends (continues rest later reads)
        simpa using whole
  | @number digits decimals =>
      rw [step] at stepped
      by_cases digit : c.isDigit = true
      · rw [if_pos digit] at stepped
        cases stepped
        exact ⟨_, .number (IsNumeral.snoc decimals digit).decimals, fun _ _ reads => reads⟩
      · rw [if_neg digit] at stepped
        by_cases divides : c = ':' ∧ digits ≠ []
        · rw [if_pos divides] at stepped
          cases stepped
          obtain ⟨rfl, nonempty⟩ := divides
          exact ⟨_, .inside ⟨nonempty, decimals⟩ .nil, fun _ _ reads => reads⟩
        · rw [if_neg divides] at stepped
          cases stepped
  | @inside digits written text numeral filled =>
      rw [step] at stepped
      by_cases slash : c = '\\'
      · rw [if_pos slash] at stepped
        cases stepped
        subst slash
        refine ⟨_, .insideEscaped numeral filled, ?_⟩
        intro rest later reads
        simpa using reads
      rw [if_neg slash] at stepped
      by_cases brace : c = '\x7d'
      · rw [if_pos brace] at stepped
        cases stepped
        subst brace
        refine ⟨_, .text, ?_⟩
        intro rest later reads
        have whole := Reads.placeholder numeral filled reads
        simpa using whole
      rw [if_neg brace] at stepped
      by_cases dollar : c = '$'
      · rw [if_pos dollar] at stepped
        cases stepped
      rw [if_neg dollar] at stepped
      cases stepped
      refine ⟨_, .inside numeral (filled.append (.plain slash brace dollar .nil)), ?_⟩
      intro rest later reads
      simpa using reads
  | @insideEscaped digits written text numeral filled =>
      cases stepped
      refine ⟨_, .inside numeral (filled.append (.escaped c .nil)), ?_⟩
      intro rest later reads
      simpa using reads

theorem continues_readFrom {state last : Reading} {pending text : List Char} {parts : List Part}
    (waits : Pending state pending) (reads : readFrom state text = some (parts, last)) :
    Continues (pending ++ text) parts last := by
  induction text generalizing state pending parts with
  | nil =>
      cases reads
      exact ⟨pending, waits, fun _ _ reads => by simpa using reads⟩
  | cons c rest ih =>
      rw [readFrom] at reads
      cases stepped : step state c with
      | none => simp [stepped] at reads
      | some outcome =>
          obtain ⟨head, next⟩ := outcome
          cases tail : readFrom next rest with
          | none => simp [stepped, tail] at reads
          | some result =>
              obtain ⟨body, final⟩ := result
              simp only [stepped, tail, Option.some.injEq, Prod.mk.injEq] at reads
              obtain ⟨rfl, rfl⟩ := reads
              obtain ⟨between, waitsNext, first⟩ := continues_step waits stepped
              obtain ⟨left, waitsLast, others⟩ := ih waitsNext tail
              refine ⟨left, waitsLast, ?_⟩
              intro more later readsMore
              have behind := others more later readsMore
              rw [List.append_assoc] at behind
              have whole := first _ _ behind
              simpa using whole

/-- The reader finds exactly what the grammar says. -/
theorem read_eq_some_iff (snippet : String) (parts : List Part) :
    read snippet = some parts ↔ Reads snippet.toList parts := by
  rw [read_eq]
  constructor
  · intro found
    obtain ⟨⟨front, last⟩, reads, ended⟩ := Option.bind_eq_some_iff.mp found
    obtain ⟨pending, waits, continues⟩ := continues_readFrom .text reads
    -- a snippet may end in plain text or right behind a number
    cases waits with
    | text =>
        cases ended
        have whole := continues [] [] .nil
        simpa using whole
    | stop numeral =>
        cases ended
        have whole := continues [] _ (.stop numeral (by simp) .nil)
        simpa using whole
    | _ => cases ended
  · exact bind_atEnd_of_reads

/-! ## Calls -/

/-- The placeholders of the arguments `1` to `arity` with commas between them; without arguments the
final stop. -/
def argumentList (arity : Nat) : List Part :=
  if arity = 0 then [.stop 0]
  else [.char ',', .char ' '].intercalate ((List.range' 1 arity).map fun i =>
    [.placeholder i ("arg" ++ toString i).toList])

theorem argumentParts_eq_intercalate (first count : Nat) :
    argumentParts first count =
      [.char ',', .char ' '].intercalate ((List.range' first (count + 1)).map fun i =>
        [.placeholder i ("arg" ++ toString i).toList]) := by
  induction count generalizing first with
  | zero => rfl
  | succ count ih =>
      rw [argumentParts, ih (first + 1), List.range'_succ, List.range'_succ]
      rfl

theorem callParts_eq_argumentList (arity : Nat) : callParts arity = argumentList arity := by
  cases arity with
  | zero => rfl
  | succ count => exact argumentParts_eq_intercalate 1 count

theorem arity_eq_of_call_eq {name other : String} {arity otherArity : Nat}
    (same : call name arity = call other otherArity) : arity = otherArity := by
  obtain ⟨parts, reads, numbers, -⟩ := read_call_numbers name arity
  obtain ⟨others, readsOther, otherNumbers, -⟩ := read_call_numbers other otherArity
  rw [same, readsOther] at reads
  cases reads
  have lengths := congrArg List.length (numbers.symm.trans otherNumbers)
  simpa using lengths

theorem call_injective {name other : String} {arity otherArity : Nat}
    (same : call name arity = call other otherArity) : name = other ∧ arity = otherArity := by
  obtain rfl := arity_eq_of_call_eq same
  have reads := read_call name arity
  rw [same, read_call, Option.some.injEq] at reads
  have names := (List.map_inj_right fun _ _ => Part.char.inj).mp (List.append_cancel_right reads)
  exact ⟨(String.toList_inj.mp names).symm, rfl⟩

theorem readFrom_call_front (name : String) (arity count : Nat) :
    ∃ front rest, (call name arity).toList = front ++ rest ∧
      readFrom .text front = some ((name.toList.take count).map .char, .text) := by
  obtain ⟨behind, split⟩ : ∃ behind, (call name arity).toList =
      name.toList.flatMap literalChar ++ behind := by
    unfold call
    split <;> simp [literal]
  refine ⟨(name.toList.take count).flatMap literalChar,
    (name.toList.drop count).flatMap literalChar ++ behind, ?_, readFrom_literal _⟩
  rw [split, ← List.append_assoc, ← List.flatMap_append, List.take_append_drop]

/-- The text of a call stands for the characters of the function's name, an opening parenthesis, the
placeholders of its arguments in order and a closing parenthesis, and for nothing else. Every
character of the name is read as itself, between two places of plain text. Calls that differ in name
or number of arguments have different texts. -/
theorem call_stands_for_name_and_arguments (name : String) (arity : Nat) :
    (∀ parts, Reads (call name arity).toList parts ↔
      parts = name.toList.map .char ++ [.char '('] ++ argumentList arity ++ [.char ')']) ∧
    read (call name arity) =
      some (name.toList.map .char ++ [.char '('] ++ argumentList arity ++ [.char ')']) ∧
    (∀ count, ∃ front rest, (call name arity).toList = front ++ rest ∧
      readFrom .text front = some ((name.toList.take count).map .char, .text)) ∧
    ∀ other otherArity,
      call name arity = call other otherArity ↔ name = other ∧ arity = otherArity := by
  have reads : read (call name arity) =
      some (name.toList.map .char ++ [.char '('] ++ argumentList arity ++ [.char ')']) := by
    rw [read_call, callParts_eq_argumentList]
    simp
  refine ⟨?_, reads, readFrom_call_front name arity, ?_⟩
  · intro parts
    rw [← read_eq_some_iff, reads, Option.some.injEq]
    exact eq_comm
  · intro other otherArity
    constructor
    · exact call_injective
    · intro same
      rw [same.1, same.2]

example : read (call "a$1\x7d\\" 2) =
    some [.char 'a', .char '$', .char '1', .char '\x7d', .char '\\', .char '(',
      .placeholder 1 ['a', 'r', 'g', '1'], .char ',', .char ' ',
      .placeholder 2 ['a', 'r', 'g', '2'], .char ')'] := by decide

end FluxonAssist.Snippet
