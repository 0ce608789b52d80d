import FluxonAssist.Proofs.LineShape
import FluxonAssist.Proofs.ScannedLines

/-!
# Which lines declare a function

A line declares a function exactly if it starts with a heading: an optional modifier, a keyword and
a name, with white space after the first two. The name is the longest identifier there. What follows
it only decides the number of parameters, and a list of names has the same number in every style:
in parentheses or bare, with commas or without, before `=` or an opening brace.
-/
set_option autoImplicit false
namespace FluxonAssist

namespace Text

theorem trimEnd_append_cons (front rest : List Char) {c : Char} (solid : isBlank c = false) :
    trimEnd (front ++ c :: rest) = front ++ c :: trimEnd rest := by
  have mirrored := Line.trimStart_append_cons rest.reverse front.reverse solid
  unfold trimStart at mirrored
  rw [trimEnd, List.reverse_append, List.reverse_cons, List.append_assoc, List.singleton_append,
    mirrored]
  simp [trimEnd]

theorem trim_eq_nil_iff (text : List Char) : trim text = [] ↔ ∀ c ∈ text, isBlank c = true := by
  constructor
  · intro empty
    cases started : trimStart text with
    | nil => exact List.dropWhile_eq_nil_iff.mp started
    | cons c rest =>
        obtain ⟨solid, -⟩ := (Line.dropWhile_eq_cons_iff _ _ _ _).mp started
        have kept := trimEnd_append_cons [] rest solid
        rw [List.nil_append] at kept
        rw [trim, started, kept] at empty
        cases empty
  · intro blank
    rw [trim, trimStart, List.dropWhile_eq_nil_iff.mpr blank]
    rfl

theorem pieces_whole {separator : Char → Bool} (run : List Char)
    (whole : ∀ c ∈ run, separator c = false) : pieces separator run = [run] := by
  induction run with
  | nil => rfl
  | cons c others ih =>
      obtain ⟨first, later⟩ := List.forall_mem_cons.mp whole
      rw [pieces, first, ih later]
      rfl

theorem pieces_ne_nil (separator : Char → Bool) (text : List Char) :
    pieces separator text ≠ [] := by
  cases text with
  | nil => exact List.cons_ne_nil _ _
  | cons c rest =>
      rw [pieces]
      cases separator c
      · cases pieces separator rest <;> exact List.cons_ne_nil _ _
      · exact List.cons_ne_nil _ _

/-- A separator keeps what stands before it and behind it apart. -/
theorem pieces_append_cons {separator : Char → Bool} (front rest : List Char) {c : Char}
    (cuts : separator c = true) :
    pieces separator (front ++ c :: rest) = pieces separator front ++ pieces separator rest := by
  induction front with
  | nil =>
      show pieces separator (c :: rest) = [] :: pieces separator rest
      rw [pieces, if_pos cuts]
  | cons d others ih =>
      rw [List.cons_append, pieces, pieces, ih]
      cases separator d
      · exact consLine_append d _ _ (pieces_ne_nil separator others)
      · rfl

end Text

namespace Declaration

open FluxonAssist.Text FluxonAssist.Line

/-! ## Headings -/

def Modifier.word : Modifier → List Char
  | .plain => []
  | .async => ['a', 's', 'y', 'n', 'c']
  | .sync => ['s', 'y', 'n', 'c']

/-- The word that introduces a name. -/
inductive Keyword where
  | define
  | function
  deriving DecidableEq, Repr

def Keyword.word : Keyword → List Char
  | .define => ['d', 'e', 'f']
  | .function => ['f', 'u', 'n']

/-- A declaration up to the end of its name, cut into its parts. -/
structure Heading where
  modifier : Modifier
  afterModifier : List Char
  keyword : Keyword
  afterKeyword : List Char
  name : List Char
  modified : afterModifier = [] ↔ modifier = .plain
  separated : afterKeyword ≠ []
  blank : ∀ c ∈ afterModifier ++ afterKeyword, isBlank c = true
  named : isIdentifier name = true

/-- The heading from its keyword on. -/
def Heading.afterFirst (heading : Heading) : List Char :=
  heading.keyword.word ++ (heading.afterKeyword ++ heading.name)

def Heading.text (heading : Heading) : List Char :=
  heading.modifier.word ++ (heading.afterModifier ++ heading.afterFirst)

/-- The function of a heading with the given number of parameters, on a line of the given number and
length. -/
def Heading.function (heading : Heading) (arity number length : Nat) : UserFunction where
  name := String.ofList heading.name
  arity := UInt32.ofNat arity
  isAsync := heading.modifier = .async
  isSync := heading.modifier = .sync
  span := ⟨UInt32.ofNat number, 0, UInt32.ofNat length⟩

theorem not_isBlank_of_isIdentifierPart {c : Char} (part : isIdentifierPart c = true) :
    isBlank c = false := by
  apply not_isBlank_of_isWord
  have ascii : c.toNat < 128 := by
    simp only [isIdentifierPart, isAsciiLetter, isAsciiDigit, Bool.or_eq_true, Bool.and_eq_true,
      decide_eq_true_eq, beq_iff_eq] at part
    rcases part with (letter | digit) | rfl
    · omega
    · omega
    · decide
  rw [isWord, if_pos ascii]
  exact part

theorem isIdentifierPart_of_isIdentifierStart {c : Char} (start : isIdentifierStart c = true) :
    isIdentifierPart c = true := by
  simp only [isIdentifierStart, isIdentifierPart, Bool.or_eq_true] at start ⊢
  exact start.elim (fun letter => .inl (.inl letter)) .inr

theorem isIdentifierPart_of_mem {name : List Char} (named : isIdentifier name = true) :
    ∀ c ∈ name, isIdentifierPart c = true := by
  cases name with
  | nil => cases named
  | cons first rest =>
      simp only [isIdentifier, Bool.and_eq_true, List.all_eq_true] at named
      exact List.forall_mem_cons.mpr ⟨isIdentifierPart_of_isIdentifierStart named.1, named.2⟩

theorem exists_cons_of_isIdentifier {name : List Char} (named : isIdentifier name = true) :
    ∃ c later, name = c :: later ∧ isIdentifierPart c = true := by
  cases name with
  | nil => cases named
  | cons c later => exact ⟨c, later, rfl, isIdentifierPart_of_mem named c List.mem_cons_self⟩

theorem afterWord?_eq_some_iff (word text rest : List Char) :
    afterWord? word text = some rest ↔
      ∃ blanks, text = word ++ (blanks ++ rest) ∧ blanks ≠ [] ∧ (∀ c ∈ blanks, isBlank c = true) ∧
        ∀ c ∈ rest.head?, isBlank c = false := by
  induction word generalizing text with
  | nil =>
      cases text with
      | nil => simp [afterWord?]
      | cons c tail =>
          rw [afterWord?]
          constructor
          · intro found
            split at found
            · next blank =>
                obtain ⟨run, split, all, stops⟩ :=
                  (dropWhile_eq_iff isBlank tail rest).mp (Option.some.inj found)
                refine ⟨c :: run, by rw [split]; rfl, List.cons_ne_nil c run, ?_, stops⟩
                exact List.forall_mem_cons.mpr ⟨blank, all⟩
            · cases found
          · intro ⟨blanks, split, nonempty, all, stops⟩
            cases blanks with
            | nil => exact absurd rfl nonempty
            | cons b run =>
                obtain ⟨rfl, later⟩ := List.cons.inj split
                obtain ⟨blank, others⟩ := List.forall_mem_cons.mp all
                rw [if_pos blank]
                exact congrArg some
                  ((dropWhile_eq_iff isBlank tail rest).mpr ⟨run, later, others, stops⟩)
  | cons w word ih =>
      cases text with
      | nil => simp [afterWord?]
      | cons c tail =>
          rw [afterWord?]
          by_cases same : w = c
          · simp [same, ih]
          · simp [same, Ne.symm same]

theorem afterKeyword?_eq_some_iff (text rest : List Char) :
    afterKeyword? text = some rest ↔
      ∃ (keyword : Keyword) (blanks : List Char), text = keyword.word ++ (blanks ++ rest) ∧
        blanks ≠ [] ∧ (∀ c ∈ blanks, isBlank c = true) ∧ ∀ c ∈ rest.head?, isBlank c = false := by
  unfold afterKeyword?
  constructor
  · intro found
    split at found
    · next define =>
        cases found
        obtain ⟨blanks, facts⟩ := (afterWord?_eq_some_iff _ _ _).mp define
        exact ⟨.define, blanks, facts⟩
    · obtain ⟨blanks, facts⟩ := (afterWord?_eq_some_iff _ _ _).mp found
      exact ⟨.function, blanks, facts⟩
  · intro ⟨keyword, blanks, split, facts⟩
    cases keyword with
    | define => rw [(afterWord?_eq_some_iff ['d', 'e', 'f'] _ _).mpr ⟨blanks, split, facts⟩]
    | function =>
        have other : afterWord? ['d', 'e', 'f'] text = none := by
          rw [split]
          simp [Keyword.word, afterWord?]
        rw [other]
        exact (afterWord?_eq_some_iff ['f', 'u', 'n'] _ _).mpr ⟨blanks, split, facts⟩

theorem splitIdentifier?_eq_some_iff (text name rest : List Char) :
    splitIdentifier? text = some (name, rest) ↔
      text = name ++ rest ∧ isIdentifier name = true ∧
        ∀ c ∈ rest.head?, isIdentifierPart c = false := by
  cases text with
  | nil =>
      constructor
      · intro found
        cases found
      · intro cut
        obtain ⟨split, named, -⟩ := cut
        rw [(List.append_eq_nil_iff.mp split.symm).1] at named
        cases named
  | cons c tail =>
      rw [splitIdentifier?]
      constructor
      · intro found
        split at found
        · next start =>
            obtain ⟨rfl, dropped⟩ := Prod.mk.inj (Option.some.inj found)
            obtain ⟨-, -, -, stops⟩ := (dropWhile_eq_iff isIdentifierPart tail rest).mp dropped
            refine ⟨?_, ?_, stops⟩
            · rw [← dropped, List.cons_append, List.takeWhile_append_dropWhile]
            · simp [isIdentifier, start]
        · cases found
      · intro cut
        obtain ⟨split, named, stops⟩ := cut
        cases name with
        | nil => cases named
        | cons first later =>
            obtain ⟨rfl, rfl⟩ := List.cons.inj split
            simp only [isIdentifier, Bool.and_eq_true, List.all_eq_true] at named
            obtain ⟨start, parts⟩ := named
            have dropped : (later ++ rest).dropWhile isIdentifierPart = rest :=
              (dropWhile_eq_iff _ _ _).mpr ⟨later, rfl, parts, stops⟩
            have taken := takeWhile_append_stop later rest parts stops
            rw [if_pos start, List.append_eq, dropped, taken]

theorem splitModifier_spec {text rest : List Char} {modifier : Modifier}
    (splits : splitModifier text = (modifier, rest)) :
    ∃ blanks, text = modifier.word ++ (blanks ++ rest) ∧ (blanks = [] ↔ modifier = .plain) ∧
      ∀ c ∈ blanks, isBlank c = true := by
  unfold splitModifier at splits
  split at splits
  · next found =>
      cases splits
      obtain ⟨blanks, split, nonempty, blank, -⟩ := (afterWord?_eq_some_iff _ _ _).mp found
      exact ⟨blanks, split, by simp [nonempty], blank⟩
  · split at splits
    · next found =>
        cases splits
        obtain ⟨blanks, split, nonempty, blank, -⟩ := (afterWord?_eq_some_iff _ _ _).mp found
        exact ⟨blanks, split, by simp [nonempty], blank⟩
    · cases splits
      exact ⟨[], rfl, by simp, by simp⟩

theorem Heading.exists_afterFirst_eq_cons (heading : Heading) :
    ∃ c rest, heading.afterFirst = c :: rest ∧ (c = 'd' ∨ c = 'f') := by
  unfold afterFirst
  cases heading.keyword with
  | define => exact ⟨'d', _, rfl, .inl rfl⟩
  | function => exact ⟨'f', _, rfl, .inr rfl⟩

theorem isBlank_keyword {c : Char} (letter : c = 'd' ∨ c = 'f') : isBlank c = false := by
  rcases letter with rfl | rfl <;> decide

theorem splitModifier_heading (heading : Heading) (rest : List Char) :
    splitModifier (heading.text ++ rest) = (heading.modifier, heading.afterFirst ++ rest) := by
  obtain ⟨c, later, first, letter⟩ := heading.exists_afterFirst_eq_cons
  have solid : ∀ d ∈ (heading.afterFirst ++ rest).head?, isBlank d = false := by
    rw [first]
    rintro d ⟨⟩
    exact isBlank_keyword letter
  have blank : ∀ d ∈ heading.afterModifier, isBlank d = true := by
    intro d member
    exact heading.blank d (List.mem_append_left _ member)
  have reads {word : List Char} (spaced : heading.modifier ≠ .plain)
      (spelled : heading.modifier.word = word) :
      afterWord? word (heading.text ++ rest) = some (heading.afterFirst ++ rest) := by
    refine (afterWord?_eq_some_iff _ _ _).mpr ⟨heading.afterModifier, ?_, ?_, blank, solid⟩
    · simp [Heading.text, spelled]
    · intro empty
      exact spaced (heading.modified.mp empty)
  unfold splitModifier
  cases kind : heading.modifier with
  | plain =>
      have unspaced : heading.text = heading.afterFirst := by
        rw [Heading.text, heading.modified.mpr kind, kind]
        rfl
      rw [unspaced, first]
      rcases letter with rfl | rfl <;> simp [afterWord?]
  | async => rw [reads (by simp [kind]) (by rw [kind]; rfl)]
  | sync =>
      have other : afterWord? ['a', 's', 'y', 'n', 'c'] (heading.text ++ rest) = none := by
        rw [Heading.text, kind]
        simp [Modifier.word, afterWord?]
      rw [other, reads (by simp [kind]) (by rw [kind]; rfl)]

theorem afterKeyword?_heading (heading : Heading) (rest : List Char) :
    afterKeyword? (heading.afterFirst ++ rest) = some (heading.name ++ rest) := by
  have solid : ∀ c ∈ (heading.name ++ rest).head?, isBlank c = false := by
    obtain ⟨d, later, spelled, part⟩ := exists_cons_of_isIdentifier heading.named
    rw [spelled]
    rintro c ⟨⟩
    exact not_isBlank_of_isIdentifierPart part
  refine (afterKeyword?_eq_some_iff _ _).mpr
    ⟨heading.keyword, heading.afterKeyword, ?_, heading.separated, ?_, solid⟩
  · simp [Heading.afterFirst]
  · intro c member
    exact heading.blank c (List.mem_append_right _ member)

/-- A line declares a function exactly if it starts with a heading, white space at both ends left
out, and the name of the heading does not go on. -/
theorem ofLine?_eq_some_iff (line : List Char) (number : Nat) (f : UserFunction) :
    ofLine? line number = some f ↔
      ∃ (heading : Heading) (rest : List Char), trim line = heading.text ++ rest ∧
        (∀ c ∈ rest.head?, isIdentifierPart c = false) ∧
        f = heading.function (arityOf (trim rest)) number line.length := by
  constructor
  · intro declares
    unfold ofLine? at declares
    rcases splits : splitModifier (trim line) with ⟨modifier, text⟩
    obtain ⟨first, split, modified, blank⟩ := splitModifier_spec splits
    rw [splits] at declares
    cases found : (afterKeyword? text).bind splitIdentifier? with
    | none => simp [found] at declares
    | some parts =>
        obtain ⟨name, rest⟩ := parts
        simp only [found, Option.some.injEq] at declares
        obtain ⟨named, afterKeyword, identifier⟩ := Option.bind_eq_some_iff.mp found
        obtain ⟨keyword, second, keySplit, separated, blankKey, -⟩ :=
          (afterKeyword?_eq_some_iff _ _).mp afterKeyword
        obtain ⟨nameSplit, isName, stops⟩ := (splitIdentifier?_eq_some_iff _ _ _).mp identifier
        have blanks : ∀ c ∈ first ++ second, isBlank c = true := by
          intro c member
          exact (List.mem_append.mp member).elim (blank c) (blankKey c)
        refine ⟨⟨modifier, first, keyword, second, name, modified, separated, blanks, isName⟩, rest,
          ?_, stops, declares.symm⟩
        rw [split, keySplit, nameSplit]
        simp [Heading.text, Heading.afterFirst]
  · intro ⟨heading, rest, split, stops, function⟩
    have identifier : splitIdentifier? (heading.name ++ rest) = some (heading.name, rest) :=
      (splitIdentifier?_eq_some_iff _ _ _).mpr ⟨rfl, heading.named, stops⟩
    unfold ofLine?
    rw [split, splitModifier_heading]
    simp only [afterKeyword?_heading, Option.bind_some, identifier, function]
    rfl

/-! ## Parameters -/

/-- Names between parentheses: white space may stand around each, and commas divide them. -/
inductive Enclosed : List (List Char) → List Char → Prop
  | none (gap : List Char) (blank : ∀ c ∈ gap, isBlank c = true) : Enclosed [] gap
  | last (before name after : List Char) (blank : ∀ c ∈ before ++ after, isBlank c = true)
      (named : isIdentifier name = true) : Enclosed [name] (before ++ (name ++ after))
  | more (before name after : List Char) (names : List (List Char)) (rest : List Char)
      (blank : ∀ c ∈ before ++ after, isBlank c = true) (named : isIdentifier name = true)
      (nonempty : names ≠ []) (later : Enclosed names rest) :
      Enclosed (name :: names) (before ++ (name ++ (after ++ ',' :: rest)))

/-- Names without parentheses: white space, commas or both stand before each. -/
inductive Bare : List (List Char) → List Char → Prop
  | none (gap : List Char) (blank : ∀ c ∈ gap, isBlank c = true) : Bare [] gap
  | more (separator name : List Char) (names : List (List Char)) (rest : List Char)
      (nonempty : separator ≠ []) (divides : ∀ c ∈ separator, c = ',' ∨ isBlank c = true)
      (named : isIdentifier name = true) (later : Bare names rest) :
      Bare (name :: names) (separator ++ (name ++ rest))

/-- What stands after a name: its parameters in one of the styles, and a body. -/
inductive Styled (names : List (List Char)) : List Char → Prop
  | enclosed (gap inner body : List Char) (blank : ∀ c ∈ gap, isBlank c = true)
      (listed : Enclosed names inner) : Styled names (gap ++ '(' :: (inner ++ ')' :: body))
  | bare (list body : List Char) (opener : Char) (listed : Bare names list)
      (opens : opener = '=' ∨ opener = '\x7b') : Styled names (list ++ opener :: body)

theorem ne_of_isIdentifierPart {c d : Char} (part : isIdentifierPart c = true)
    (other : isIdentifierPart d = false) : c ≠ d := by
  intro same
  rw [same, other] at part
  cases part

theorem count_comma_eq_zero {p : Char → Bool} {run : List Char} (all : ∀ c ∈ run, p c = true)
    (comma : p ',' = false) : run.count ',' = 0 := by
  rw [List.count_eq_zero]
  intro member
  rw [all ',' member] at comma
  cases comma

section Lists

variable {names : List (List Char)} {list inner text : List Char}

theorem Enclosed.mem (listed : Enclosed names inner) :
    ∀ c ∈ inner, isIdentifierPart c = true ∨ c = ',' ∨ isBlank c = true := by
  intro c member
  induction listed with
  | none gap blank => exact .inr (.inr (blank c member))
  | last before name after blank named =>
      have gaps := blank c
      simp only [List.mem_append] at member gaps
      rcases member with here | here | here
      · exact .inr (.inr (gaps (.inl here)))
      · exact .inl (isIdentifierPart_of_mem named c here)
      · exact .inr (.inr (gaps (.inr here)))
  | more before name after names rest blank named nonempty later ih =>
      have gaps := blank c
      simp only [List.mem_append, List.mem_cons] at member gaps
      rcases member with here | here | here | here | here
      · exact .inr (.inr (gaps (.inl here)))
      · exact .inl (isIdentifierPart_of_mem named c here)
      · exact .inr (.inr (gaps (.inr here)))
      · exact .inr (.inl here)
      · exact ih here

theorem trim_name_ne_nil {name : List Char} (named : isIdentifier name = true)
    (before rest : List Char) : trim (before ++ (name ++ rest)) ≠ [] := by
  obtain ⟨c, later, rfl, part⟩ := exists_cons_of_isIdentifier named
  intro empty
  have blank := (trim_eq_nil_iff _).mp empty c (by simp)
  rw [not_isBlank_of_isIdentifierPart part] at blank
  cases blank

theorem Enclosed.length_eq (listed : Enclosed names inner) :
    (if trim inner = [] then 0 else inner.count ',' + 1) = names.length := by
  have uncounted {before after : List Char} (blank : ∀ c ∈ before ++ after, isBlank c = true) :
      before.count ',' + after.count ',' = 0 := by
    rw [← List.count_append]
    exact count_comma_eq_zero blank (by decide)
  have uncommaed {name : List Char} (named : isIdentifier name = true) : name.count ',' = 0 :=
    count_comma_eq_zero (isIdentifierPart_of_mem named) (by decide)
  induction listed with
  | none gap blank =>
      rw [if_pos ((trim_eq_nil_iff gap).mpr blank)]
      rfl
  | last before name after blank named =>
      have gaps := uncounted blank
      rw [if_neg (trim_name_ne_nil named before after), List.count_append, List.count_append,
        uncommaed named]
      simp only [List.length_cons, List.length_nil]
      omega
  | more before name after names rest blank named nonempty later ih =>
      have gaps := uncounted blank
      have positive : 0 < names.length := List.length_pos_iff.mpr nonempty
      rw [if_neg (trim_name_ne_nil named before _), List.count_append, List.count_append,
        List.count_append, List.count_cons_self, uncommaed named, List.length_cons]
      split at ih <;> omega

theorem parenthesized?_enclosed (unclosed : ')' ∉ inner) (body : List Char) :
    parenthesized? ('(' :: (inner ++ ')' :: body)) = some inner := by
  have taken : (inner ++ ')' :: body).takeWhile (fun c => c != ')') = inner := by
    apply takeWhile_append_stop
    · intro c member
      simp only [bne_iff_ne]
      intro closes
      exact unclosed (closes ▸ member)
    · simp
  simp [parenthesized?, taken]

theorem Bare.mem (listed : Bare names list) :
    ∀ c ∈ list, isIdentifierPart c = true ∨ c = ',' ∨ isBlank c = true := by
  intro c member
  induction listed with
  | none gap blank => exact .inr (.inr (blank c member))
  | more separator name names rest nonempty divides named later ih =>
      simp only [List.mem_append] at member
      rcases member with here | here | here
      · exact .inr (divides c here)
      · exact .inl (isIdentifierPart_of_mem named c here)
      · exact ih here

theorem Bare.divided (listed : Bare names list) :
    ∀ c ∈ list.head?, c = ',' ∨ isBlank c = true := by
  intro c first
  cases listed with
  | none gap blank => exact .inr (blank c (List.mem_of_mem_head? first))
  | more separator name names rest nonempty divides named later =>
      obtain ⟨_, _, rfl⟩ := List.exists_cons_of_ne_nil nonempty
      cases first
      exact divides c List.mem_cons_self

theorem bareCount_cons_of_divides {c : Char} (divides : c = ',' ∨ isBlank c = true)
    (rest : List Char) : bareCount (c :: rest) = bareCount rest := by
  have cuts : (c == ',' || isBlank c) = true := by simpa using divides
  rw [bareCount, pieces, if_pos cuts, List.filter_cons_of_neg (by simp [isIdentifier])]
  rfl

theorem bareCount_append_of_divides {separator : List Char}
    (divides : ∀ c ∈ separator, c = ',' ∨ isBlank c = true) (rest : List Char) :
    bareCount (separator ++ rest) = bareCount rest := by
  induction separator with
  | nil => rfl
  | cons c others ih =>
      obtain ⟨first, later⟩ := List.forall_mem_cons.mp divides
      rw [List.cons_append, bareCount_cons_of_divides first, ih later]

theorem bareCount_name_append {name : List Char} (named : isIdentifier name = true)
    (rest : List Char) (divided : ∀ c ∈ rest.head?, c = ',' ∨ isBlank c = true) :
    bareCount (name ++ rest) = bareCount rest + 1 := by
  have whole : ∀ c ∈ name, (c == ',' || isBlank c) = false := by
    intro c member
    have part := isIdentifierPart_of_mem named c member
    have notComma : c ≠ ',' := ne_of_isIdentifierPart part (by decide)
    simp [notComma, not_isBlank_of_isIdentifierPart part]
  cases rest with
  | nil =>
      rw [List.append_nil, bareCount, pieces_whole name whole, List.filter_cons_of_pos named]
      rfl
  | cons c later =>
      have cuts : (c == ',' || isBlank c) = true := by simpa using divided c rfl
      rw [bareCount_cons_of_divides (divided c rfl), bareCount,
        pieces_append_cons name later cuts, pieces_whole name whole, List.singleton_append,
        List.filter_cons_of_pos named]
      rfl

theorem Bare.bareCount_eq (listed : Bare names list) : bareCount list = names.length := by
  induction listed with
  | none gap blank =>
      have counted := bareCount_append_of_divides (fun c member => .inr (blank c member)) []
      rw [List.append_nil] at counted
      exact counted
  | more separator name names rest nonempty divides named later ih =>
      rw [bareCount_append_of_divides divides, bareCount_name_append named rest later.divided, ih]
      rfl

theorem bareCount_trimStart (list : List Char) : bareCount (trimStart list) = bareCount list := by
  obtain ⟨run, split, blank, -⟩ := (dropWhile_eq_iff isBlank list (trimStart list)).mp rfl
  have counted :=
    bareCount_append_of_divides (fun c member => .inr (blank c member)) (trimStart list)
  rw [← split] at counted
  exact counted.symm

theorem parenthesized?_eq_none (unopened : ∀ c ∈ text.head?, c ≠ '(') :
    parenthesized? text = none := by
  unfold parenthesized?
  split
  · next rest => exact absurd rfl (unopened '(' rfl)
  · rfl

theorem arityOf_enclosed (listed : Enclosed names inner) (body : List Char) :
    arityOf ('(' :: (inner ++ ')' :: body)) = names.length := by
  have unclosed : ')' ∉ inner := by
    intro member
    rcases listed.mem ')' member with part | comma | blank
    · exact absurd part (by decide)
    · exact absurd comma (by decide)
    · exact absurd blank (by decide)
  rw [arityOf, parenthesized?_enclosed unclosed]
  exact listed.length_eq

theorem arityOf_bare (listed : Bare names list) {opener : Char}
    (opens : opener = '=' ∨ opener = '\x7b') (body : List Char) :
    arityOf (trimStart list ++ opener :: body) = names.length := by
  have inList : ∀ c ∈ trimStart list, c ≠ '(' ∧ startsBody c = false := by
    intro c member
    have classes := listed.mem c ((List.dropWhile_sublist isBlank).mem member)
    have excluded {d : Char} (part : isIdentifierPart d = false) (comma : d ≠ ',')
        (blank : isBlank d = false) : c ≠ d := by
      intro same
      rw [same] at classes
      simp [part, comma, blank] at classes
    have equals : c ≠ '=' := excluded (by decide) (by decide) (by decide)
    have brace : c ≠ '\x7b' := excluded (by decide) (by decide) (by decide)
    refine ⟨excluded (by decide) (by decide) (by decide), ?_⟩
    simp [startsBody, equals, brace]
  have unopened : ∀ c ∈ (trimStart list ++ opener :: body).head?, c ≠ '(' := by
    intro c first
    cases started : trimStart list with
    | nil =>
        rw [started] at first
        cases first
        rcases opens with rfl | rfl <;> decide
    | cons _ later =>
        rw [started] at first inList
        cases first
        exact (inList c List.mem_cons_self).1
  have stops : startsBody opener = true := by
    rcases opens with rfl | rfl <;> decide
  have taken : (trimStart list ++ opener :: body).takeWhile (fun c => !startsBody c) =
      trimStart list := by
    apply takeWhile_append_stop
    · intro c member
      simp [(inList c member).2]
    · simp [stops]
  rw [arityOf, parenthesized?_eq_none unopened]
  simp only [taken]
  rw [bareCount_trimStart, listed.bareCount_eq]

theorem isBlank_opener {opener : Char} (opens : opener = '=' ∨ opener = '\x7b') :
    isBlank opener = false := by
  rcases opens with rfl | rfl <;> decide

theorem trimStart_blank {gap : List Char} (blank : ∀ c ∈ gap, isBlank c = true) :
    trimStart gap = [] :=
  List.dropWhile_eq_nil_iff.mpr blank

theorem Styled.arityOf_trim (styled : Styled names text) : arityOf (trim text) = names.length := by
  cases styled with
  | enclosed gap inner body blank listed =>
      rw [trim, trimStart_append_cons gap _ (by decide), trimStart_blank blank, List.nil_append,
        ← List.cons_append, trimEnd_append_cons _ _ (by decide)]
      exact arityOf_enclosed listed (trimEnd body)
  | bare list body opener listed opens =>
      rw [trim, trimStart_append_cons list _ (isBlank_opener opens),
        trimEnd_append_cons _ _ (isBlank_opener opens)]
      exact arityOf_bare listed opens (trimEnd body)

theorem Styled.trimEnd (styled : Styled names text) : Styled names (trimEnd text) := by
  cases styled with
  | enclosed gap inner body blank listed =>
      have kept : Text.trimEnd (gap ++ '(' :: (inner ++ ')' :: body)) =
          gap ++ '(' :: (inner ++ ')' :: Text.trimEnd body) := by
        rw [trimEnd_append_cons gap _ (by decide), trimEnd_append_cons inner _ (by decide)]
      rw [kept]
      exact .enclosed gap inner (Text.trimEnd body) blank listed
  | bare list body opener listed opens =>
      rw [trimEnd_append_cons list _ (isBlank_opener opens)]
      exact .bare list (Text.trimEnd body) opener listed opens

/-- The name before the parameters ends there. -/
theorem Styled.stops (styled : Styled names text) :
    ∀ c ∈ text.head?, isIdentifierPart c = false := by
  have blank_stops {c : Char} (blank : isBlank c = true) : isIdentifierPart c = false := by
    cases part : isIdentifierPart c with
    | false => rfl
    | true =>
        rw [not_isBlank_of_isIdentifierPart part] at blank
        cases blank
  intro c first
  cases styled with
  | enclosed gap inner body blank listed =>
      cases gap with
      | nil => cases first; decide
      | cons _ later => cases first; exact blank_stops (blank c List.mem_cons_self)
  | bare list body opener listed opens =>
      have divided := listed.divided
      cases list with
      | nil =>
          cases first
          rcases opens with rfl | rfl <;> decide
      | cons _ later =>
          cases first
          rcases divided c rfl with rfl | blank
          · decide
          · exact blank_stops blank

theorem Enclosed.length_le (listed : Enclosed names inner) : names.length ≤ inner.length + 1 := by
  have counted := listed.length_eq
  have commas : inner.count ',' ≤ inner.length := List.count_le_length
  split at counted <;> omega

theorem Bare.length_le (listed : Bare names list) : names.length ≤ list.length := by
  induction listed with
  | none gap blank => exact Nat.zero_le _
  | more separator name names rest nonempty divides named later ih =>
      have positive := List.length_pos_iff.mpr nonempty
      simp only [List.length_cons, List.length_append]
      omega

theorem Styled.length_le (styled : Styled names text) : names.length ≤ text.length := by
  cases styled with
  | enclosed gap inner body blank listed =>
      have bound := listed.length_le
      simp only [List.length_cons, List.length_append]
      omega
  | bare list body opener listed opens =>
      have bound := listed.length_le
      simp only [List.length_append]
      omega

end Lists

/-! ## Lines -/

theorem Heading.trim_line (heading : Heading) {lead : List Char}
    (blank : ∀ c ∈ lead, isBlank c = true) (rest : List Char) :
    trim (lead ++ (heading.text ++ rest)) = heading.text ++ trimEnd rest := by
  obtain ⟨first, later, starts, solid⟩ :
      ∃ c later, heading.text = c :: later ∧ isBlank c = false := by
    unfold text
    cases kind : heading.modifier with
    | plain =>
        obtain ⟨c, later, spelled, letter⟩ := heading.exists_afterFirst_eq_cons
        rw [heading.modified.mpr kind, spelled]
        exact ⟨c, later, rfl, isBlank_keyword letter⟩
    | async => exact ⟨'a', _, rfl, by decide⟩
    | sync => exact ⟨'s', _, rfl, by decide⟩
  obtain ⟨front, last, ends, closed⟩ :
      ∃ front c, heading.text = front ++ [c] ∧ isBlank c = false := by
    rcases List.eq_nil_or_concat heading.name with empty | ⟨front, c, spelled⟩
    · have named := heading.named
      rw [empty] at named
      cases named
    · refine ⟨heading.modifier.word ++ (heading.afterModifier ++ (heading.keyword.word ++
        (heading.afterKeyword ++ front))), c, by simp [text, afterFirst, spelled], ?_⟩
      apply not_isBlank_of_isIdentifierPart
      exact isIdentifierPart_of_mem heading.named c (by simp [spelled])
  have started : trimStart (lead ++ (heading.text ++ rest)) = heading.text ++ rest := by
    rw [starts, List.cons_append, trimStart_append_cons lead _ solid, trimStart_blank blank]
    rfl
  rw [trim, started, ends, List.append_assoc, List.singleton_append,
    trimEnd_append_cons front rest closed]
  simp

theorem Heading.declares (heading : Heading) {lead text : List Char} {names : List (List Char)}
    (blank : ∀ c ∈ lead, isBlank c = true) (styled : Styled names text) (number : Nat) :
    ofLine? (lead ++ (heading.text ++ text)) number =
      some (heading.function names.length number (lead ++ (heading.text ++ text)).length) := by
  refine (ofLine?_eq_some_iff _ _ _).mpr
    ⟨heading, trimEnd text, heading.trim_line blank text, styled.trimEnd.stops, ?_⟩
  rw [styled.trimEnd.arityOf_trim]

/-- A line with a heading, any names in one of the styles and any body is one function with that
many parameters; its numbers are exact on every line of fewer than `2^32` characters. Conversely the
functions of a text are those of its lines that, trimmed, start with a heading whose name does not
go on. None has both modifiers. -/
theorem scan_recognises_declarations :
    (∀ (lead : List Char) (heading : Heading) (names : List (List Char)) (text line : List Char),
      line = lead ++ (heading.text ++ text) → (∀ c ∈ lead, isBlank c = true) → Styled names text →
      (∀ c ∈ line, c ≠ '\n' ∧ c ≠ '\r') →
      declaredFunctions line = [heading.function names.length 0 line.length] ∧
        (line.length < UInt32.size → (UInt32.ofNat names.length).toNat = names.length ∧
          (UInt32.ofNat line.length).toNat = line.length)) ∧
    (∀ (text : List Char) (f : UserFunction), f ∈ declaredFunctions text ↔
      ∃ (index : Nat) (line : List Char) (heading : Heading) (rest : List Char),
        (sourceLines text)[index]? = some line ∧ trim line = heading.text ++ rest ∧
        (∀ c ∈ rest.head?, isIdentifierPart c = false) ∧
        f = heading.function (arityOf (trim rest)) index line.length) ∧
    (∀ (text : List Char) (f : UserFunction), f ∈ declaredFunctions text →
      ¬ (f.isAsync = true ∧ f.isSync = true)) := by
  have declared_iff (text : List Char) (f : UserFunction) : f ∈ declaredFunctions text ↔
      ∃ (index : Nat) (line : List Char) (heading : Heading) (rest : List Char),
        (sourceLines text)[index]? = some line ∧ trim line = heading.text ++ rest ∧
        (∀ c ∈ rest.head?, isIdentifierPart c = false) ∧
        f = heading.function (arityOf (trim rest)) index line.length := by
    simp only [mem_declaredFunctions_iff, ofLine?_eq_some_iff, exists_and_left]
  refine ⟨?_, declared_iff, ?_⟩
  · intro lead heading names text line spelled blank styled uncut
    constructor
    · rw [declaredFunctions, sourceLines_single line uncut, ofLines, spelled,
        heading.declares blank styled]
      rfl
    · intro short
      have fewer := styled.length_le
      have longer : text.length ≤ line.length := by
        simp only [spelled, List.length_append]
        omega
      exact ⟨UInt32.toNat_ofNat_of_lt' (by omega), UInt32.toNat_ofNat_of_lt' short⟩
  · intro text f member both
    obtain ⟨async, sync⟩ := both
    obtain ⟨index, line, heading, rest, -, -, -, rfl⟩ := (declared_iff text f).mp member
    simp only [Heading.function, decide_eq_true_eq] at async sync
    rw [async] at sync
    cases sync

/-- The heading `async fun wait_1`, with a tab before the keyword. -/
def waitHeading : Heading where
  modifier := .async
  afterModifier := [' ', '\t']
  keyword := .function
  afterKeyword := [' ']
  name := "wait_1".toList
  modified := by decide
  separated := by decide
  blank := List.all_eq_true.mp (by decide)
  named := by decide

theorem waitLine_declared :
    Styled ["x".toList, "y".toList] " x ,y= sleep(x, y)".toList ∧
      (∀ c ∈ "  async \tfun wait_1 x ,y= sleep(x, y)".toList, c ≠ '\n' ∧ c ≠ '\r') ∧
      declaredFunctions "  async \tfun wait_1 x ,y= sleep(x, y)".toList =
        [⟨"wait_1", 2, true, false, ⟨0, 0, 37⟩⟩] := by
  have styled : Styled ["x".toList, "y".toList] " x ,y= sleep(x, y)".toList := by
    refine .bare " x ,y".toList " sleep(x, y)".toList '=' ?_ (.inl rfl)
    refine .more [' '] ['x'] [['y']] [' ', ',', 'y'] (by decide) ?_ (by decide) ?_
    · simp [isBlank]
    refine .more [' ', ','] ['y'] [] [] (by decide) ?_ (by decide) (.none [] (by simp))
    simp [isBlank]
  have uncut : ∀ c ∈ "  async \tfun wait_1 x ,y= sleep(x, y)".toList, c ≠ '\n' ∧ c ≠ '\r' := by
    have whole : ("  async \tfun wait_1 x ,y= sleep(x, y)".toList.all
        fun c => c != '\n' && c != '\r') = true := by decide
    intro c member
    simpa using List.all_eq_true.mp whole c member
  exact ⟨styled, uncut, (scan_recognises_declarations.1 [' ', ' '] waitHeading _ _ _ rfl
    (List.all_eq_true.mp (by decide)) styled uncut).1⟩

end Declaration
end FluxonAssist
