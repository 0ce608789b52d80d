import FluxonAssist.Candidate.Snippet

/-!
# Reading snippets

A snippet is read character by character. A backslash makes the next character literal; a dollar
starts a stop, which is a number, or a placeholder, which is a number and a default text in braces.
The text of a call is read back as the function's name, character by character, and its arguments,
so no character of a name is ever taken for a stop or a placeholder.
-/
set_option autoImplicit false
namespace FluxonAssist.Snippet

inductive Part where
  | char (c : Char)
  | stop (number : Nat)
  | placeholder (number : Nat) (text : List Char)
  deriving DecidableEq, Repr

/-- What a reader is in the middle of. -/
inductive Reading where
  | text
  /-- After a backslash. -/
  | escaped
  /-- After a dollar. -/
  | dollar
  /-- In the number of a stop. -/
  | stop (digits : List Char)
  /-- In the number of a placeholder. -/
  | number (digits : List Char)
  /-- In the default text of a placeholder. -/
  | inside (number : Nat) (text : List Char)
  | insideEscaped (number : Nat) (text : List Char)
  deriving DecidableEq, Repr

def decimal (digits : List Char) : Nat := Nat.ofDigitChars 10 digits 0

/-- The parts that a character of plain text completes, and what comes after it. -/
def stepText (c : Char) : List Part × Reading :=
  if c = '\\' then ([], .escaped)
  else if c = '$' then ([], .dollar)
  else ([.char c], .text)

/-- One character; nothing if the text is no snippet. -/
def step : Reading → Char → Option (List Part × Reading)
  | .text, c => some (stepText c)
  | .escaped, c => some ([.char c], .text)
  | .dollar, c =>
    if c = '\x7b' then some ([], .number [])
    else if c.isDigit then some ([], .stop [c])
    else none
  | .stop digits, c =>
    if c.isDigit then some ([], .stop (digits ++ [c]))
    else some (.stop (decimal digits) :: (stepText c).1, (stepText c).2)
  | .number digits, c =>
    if c.isDigit then some ([], .number (digits ++ [c]))
    else if c = ':' ∧ digits ≠ [] then some ([], .inside (decimal digits) [])
    else none
  | .inside number text, c =>
    if c = '\\' then some ([], .insideEscaped number text)
    else if c = '\x7d' then some ([.placeholder number text], .text)
    else if c = '$' then none
    else some ([], .inside number (text ++ [c]))
  | .insideEscaped number text, c => some ([], .inside number (text ++ [c]))

/-- The parts that a text completes, and what comes after it. -/
def readFrom (state : Reading) : List Char → Option (List Part × Reading)
  | [] => some ([], state)
  | c :: rest =>
    match step state c with
    | none => none
    | some (parts, next) =>
      match readFrom next rest with
      | none => none
      | some (later, last) => some (parts ++ later, last)

/-- The parts of a snippet; a number at its end is a stop, anything else must be complete. -/
def read (snippet : String) : Option (List Part) :=
  match readFrom .text snippet.toList with
  | some (parts, .text) => some parts
  | some (parts, .stop digits) => some (parts ++ [.stop (decimal digits)])
  | _ => none

def placeholders (parts : List Part) : List Nat :=
  parts.filterMap fun part =>
    match part with
    | .placeholder number _ => some number
    | _ => none

def stops (parts : List Part) : List Nat :=
  parts.filterMap fun part =>
    match part with
    | .stop number => some number
    | _ => none

/-! ## Pieces of a text one after the other -/

theorem readFrom_append {state middle last : Reading} {first second : List Char}
    {parts later : List Part} (reads : readFrom state first = some (parts, middle))
    (readsLater : readFrom middle second = some (later, last)) :
    readFrom state (first ++ second) = some (parts ++ later, last) := by
  induction first generalizing state parts with
  | nil =>
      cases reads
      exact readsLater
  | cons c rest ih =>
      rw [readFrom] at reads
      cases stepped : step state c with
      | none => simp [stepped] at reads
      | some outcome =>
          obtain ⟨head, next⟩ := outcome
          cases tail : readFrom next rest with
          | none => simp [stepped, tail] at reads
          | some result =>
              obtain ⟨body, final⟩ := result
              simp only [stepped, tail, Option.some.injEq, Prod.mk.injEq] at reads
              obtain ⟨rfl, rfl⟩ := reads
              rw [List.cons_append, readFrom, stepped]
              simp only [ih tail, List.append_assoc]

theorem readFrom_cons {state next last : Reading} {c : Char} {rest : List Char}
    {parts later : List Part} (stepped : step state c = some (parts, next))
    (reads : readFrom next rest = some (later, last)) :
    readFrom state (c :: rest) = some (parts ++ later, last) := by
  rw [readFrom, stepped]
  simp only [reads]

theorem readFrom_literal (name : List Char) :
    readFrom .text (name.flatMap literalChar) = some (name.map .char, .text) := by
  induction name with
  | nil => rfl
  | cons c rest ih =>
      rw [List.flatMap_cons]
      have first : readFrom .text (literalChar c) = some ([.char c], .text) := by
        unfold literalChar
        by_cases special : c = '\\' ∨ c = '$' ∨ c = '\x7d'
        · rw [if_pos special]
          rfl
        · obtain ⟨notSlash, notDollar, -⟩ : c ≠ '\\' ∧ c ≠ '$' ∧ c ≠ '\x7d' := by
            simpa [not_or] using special
          rw [if_neg special]
          simp [readFrom, step, stepText, notSlash, notDollar]
      exact readFrom_append first ih

/-- In a state that collects digits, digits are collected. -/
theorem readFrom_digits (state : List Char → Reading)
    (collects : ∀ digits c, c.isDigit = true →
      step (state digits) c = some ([], state (digits ++ [c])))
    (digits more : List Char) (decimals : ∀ c ∈ more, c.isDigit = true) :
    readFrom (state digits) more = some ([], state (digits ++ more)) := by
  induction more generalizing digits with
  | nil =>
      rw [List.append_nil]
      rfl
  | cons c rest ih =>
      obtain ⟨first, others⟩ := List.forall_mem_cons.mp decimals
      have later := readFrom_cons (collects digits c first) (ih (digits ++ [c]) others)
      rwa [List.append_assoc] at later

/-! ## Placeholders -/

/-- How a default text is written. -/
inductive DefaultText : List Char → List Char → Prop
  | nil : DefaultText [] []
  | plain {c : Char} {written text : List Char} (notSlash : c ≠ '\\') (notBrace : c ≠ '\x7d')
      (notDollar : c ≠ '$') (rest : DefaultText written text) :
      DefaultText (c :: written) (c :: text)
  | escaped (c : Char) {written text : List Char} (rest : DefaultText written text) :
      DefaultText ('\\' :: c :: written) (c :: text)

/-- The digits of a number. -/
structure IsNumeral (digits : List Char) : Prop where
  nonempty : digits ≠ []
  decimals : ∀ c ∈ digits, c.isDigit = true

theorem readFrom_defaultText {written text : List Char} (filled : DefaultText written text)
    (number : Nat) (before : List Char) :
    readFrom (.inside number before) written = some ([], .inside number (before ++ text)) := by
  induction filled generalizing before with
  | nil =>
      rw [List.append_nil]
      rfl
  | @plain c written text notSlash notBrace notDollar _ ih =>
      have stepped :
          step (.inside number before) c = some ([], .inside number (before ++ [c])) := by
        simp [step, notSlash, notBrace, notDollar]
      have later := readFrom_cons stepped (ih (before ++ [c]))
      rwa [List.append_assoc] at later
  | @escaped c written text _ ih =>
      have slashed : step (.inside number before) '\\' =
          some ([], .insideEscaped number before) := rfl
      have stepped : step (.insideEscaped number before) c =
          some ([], .inside number (before ++ [c])) := rfl
      have later := readFrom_cons slashed (readFrom_cons stepped (ih (before ++ [c])))
      rwa [List.append_assoc] at later

theorem readFrom_written_placeholder {digits written text : List Char}
    (numeral : IsNumeral digits) (filled : DefaultText written text) :
    readFrom .text ('$' :: '\x7b' :: (digits ++ ':' :: (written ++ ['\x7d']))) =
      some ([.placeholder (decimal digits) text], .text) := by
  have opened : readFrom .text ['$', '\x7b'] = some ([], .number []) := rfl
  have numbered := readFrom_digits .number (fun _ _ digit => by simp [step, digit]) [] digits
    numeral.decimals
  have divided : readFrom (.number ([] ++ digits)) [':'] =
      some ([], .inside (decimal digits) []) := by
    simp [readFrom, step, numeral.nonempty]
  have inside := readFrom_defaultText filled (decimal digits) []
  have closed : readFrom (.inside (decimal digits) ([] ++ text)) ['\x7d'] =
      some ([.placeholder (decimal digits) text], .text) := by
    simp [readFrom, step]
  exact readFrom_append opened (readFrom_append numbered (readFrom_append divided
    (readFrom_append inside closed)))

/-! ## Calls -/

theorem toList_placeholder (number : Nat) (text : String) :
    (placeholder number text).toList =
      ['$', '\x7b'] ++ (Nat.toDigits 10 number ++ ([':'] ++ (text.toList ++ ['\x7d']))) := by
  simp [placeholder]

theorem defaultText_plain {text : List Char}
    (plain : ∀ c ∈ text, c ≠ '\\' ∧ c ≠ '$' ∧ c ≠ '\x7d') : DefaultText text text := by
  induction text with
  | nil => exact .nil
  | cons c rest ih =>
      obtain ⟨⟨notSlash, notDollar, notBrace⟩, others⟩ := List.forall_mem_cons.mp plain
      exact .plain notSlash notBrace notDollar (ih others)

theorem isNumeral_toDigits (number : Nat) : IsNumeral (Nat.toDigits 10 number) where
  nonempty := Nat.toDigits_ne_nil
  decimals := fun _ member => Nat.isDigit_of_mem_toDigits (by omega) (by omega) member

theorem readFrom_placeholder (number : Nat) (text : String)
    (plain : ∀ c ∈ text.toList, c ≠ '\\' ∧ c ≠ '$' ∧ c ≠ '\x7d') :
    readFrom .text (placeholder number text).toList =
      some ([.placeholder number text.toList], .text) := by
  have value : decimal (Nat.toDigits 10 number) = number := Nat.ofDigitChars_ten_toDigits
  have reads :=
    readFrom_written_placeholder (isNumeral_toDigits number) (defaultText_plain plain)
  rw [value] at reads
  rw [toList_placeholder]
  exact reads

def argumentText (number : Nat) : List Char := ("arg" ++ toString number).toList

/-- The arguments `first` to `first + count` with commas between them. -/
def argumentParts (first : Nat) : Nat → List Part
  | 0 => [.placeholder first (argumentText first)]
  | count + 1 =>
    .placeholder first (argumentText first) :: .char ',' :: .char ' ' ::
      argumentParts (first + 1) count

theorem argumentText_plain (number : Nat) :
    ∀ c ∈ argumentText number, c ≠ '\\' ∧ c ≠ '$' ∧ c ≠ '\x7d' := by
  intro c member
  rw [argumentText, String.toList_append, List.mem_append, Nat.toString_eq_repr,
    Nat.toList_repr] at member
  rcases member with letter | digit
  · have letters : c = 'a' ∨ c = 'r' ∨ c = 'g' := by simpa using letter
    rcases letters with rfl | rfl | rfl <;> decide
  · have decimal : c.isDigit = true :=
      Nat.isDigit_of_mem_toDigits (by omega) (by omega) digit
    refine ⟨?_, ?_, ?_⟩ <;> rintro rfl <;> exact absurd decimal (by decide)

theorem readFrom_arguments (first count : Nat) :
    readFrom .text (joined ", " (argumentsFrom first (count + 1))).toList =
      some (argumentParts first count, .text) := by
  induction count generalizing first with
  | zero => exact readFrom_placeholder first _ (argumentText_plain first)
  | succ count ih =>
      have head := readFrom_placeholder first _ (argumentText_plain first)
      have comma : readFrom .text (", ").toList = some ([.char ',', .char ' '], .text) := by decide
      have split : (joined ", " (argumentsFrom first (count + 1 + 1))).toList =
          (placeholder first ("arg" ++ toString first)).toList ++ ((", ").toList ++
            (joined ", " (argumentsFrom (first + 1) (count + 1))).toList) := by
        rw [argumentsFrom, argumentsFrom, joined, String.toList_append, String.toList_append,
          List.append_assoc, ← argumentsFrom]
        simp
      rw [split]
      exact readFrom_append head (readFrom_append comma (ih (first + 1)))

/-- The parts between the parentheses of a call. -/
def callParts : Nat → List Part
  | 0 => [.stop 0]
  | count + 1 => argumentParts 1 count

/-- A call is read as the function's name and its arguments. -/
theorem read_call (name : String) (arity : Nat) :
    read (call name arity) =
      some (name.toList.map .char ++ .char '(' :: (callParts arity ++ [.char ')'])) := by
  have named := readFrom_literal name.toList
  have whole : readFrom .text (call name arity).toList =
      some (name.toList.map .char ++ .char '(' :: (callParts arity ++ [.char ')']), .text) := by
    cases arity with
    | zero =>
        have split : (call name 0).toList = name.toList.flatMap literalChar ++ "($0)".toList := by
          simp [call, literal]
        rw [split]
        exact readFrom_append named (by decide)
    | succ count =>
        have split : (call name (count + 1)).toList = name.toList.flatMap literalChar ++
            (['('] ++ ((joined ", " (argumentsFrom 1 (count + 1))).toList ++ [')'])) := by
          simp [call, literal]
        have opened : readFrom .text ['('] = some ([.char '('], .text) := by decide
        have closed : readFrom .text [')'] = some ([.char ')'], .text) := by decide
        rw [split]
        exact readFrom_append named (readFrom_append opened
          (readFrom_append (readFrom_arguments 1 count) closed))
  rw [read, whole]

/-! ## The numbers in a call -/

theorem placeholders_append (first second : List Part) :
    placeholders (first ++ second) = placeholders first ++ placeholders second :=
  List.filterMap_append

theorem stops_append (first second : List Part) :
    stops (first ++ second) = stops first ++ stops second :=
  List.filterMap_append

theorem placeholders_chars (cs : List Char) : placeholders (cs.map .char) = [] := by
  induction cs with
  | nil => rfl
  | cons c rest ih => exact ih

theorem stops_chars (cs : List Char) : stops (cs.map .char) = [] := by
  induction cs with
  | nil => rfl
  | cons c rest ih => exact ih

theorem placeholders_argumentParts (first count : Nat) :
    placeholders (argumentParts first count) = List.range' first (count + 1) := by
  induction count generalizing first with
  | zero => rfl
  | succ count ih =>
      rw [List.range'_succ, ← ih (first + 1)]
      rfl

theorem stops_argumentParts (first count : Nat) : stops (argumentParts first count) = [] := by
  induction count generalizing first with
  | zero => rfl
  | succ count ih => exact ih (first + 1)

/-- A call of `arity` arguments has the placeholders `1` to `arity`, and a stop only if there are
none. -/
theorem read_call_numbers (name : String) (arity : Nat) :
    ∃ parts, read (call name arity) = some parts ∧ placeholders parts = List.range' 1 arity ∧
      stops parts = if arity = 0 then [0] else [] := by
  refine ⟨_, read_call name arity, ?_, ?_⟩
  · rw [placeholders_append, placeholders_chars]
    cases arity with
    | zero => rfl
    | succ count =>
        show placeholders (argumentParts 1 count ++ [.char ')']) = _
        rw [placeholders_append, placeholders_argumentParts]
        exact List.append_nil _
  · rw [stops_append, stops_chars]
    cases arity with
    | zero => rfl
    | succ count =>
        show stops (argumentParts 1 count ++ [.char ')']) = _
        rw [stops_append, stops_argumentParts]
        rfl

end FluxonAssist.Snippet
