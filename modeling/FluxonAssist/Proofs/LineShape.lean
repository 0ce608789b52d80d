import FluxonAssist.Context.Line
import Mathlib.Data.List.TakeWhile

/-!
# Shapes of a line

The questions about a line are answered by dropping a run of characters and looking at what is left.
Here each answer is tied to the ways in which the line can be written as a concatenation. The two
agree because a dropped run is the longest one: the character that stops it is not of its class, and
the classes that meet at the end of an import (word characters, quotes, white space) share no
character.
-/
set_option autoImplicit false
namespace FluxonAssist.Line

open FluxonAssist.Text

/-! ## Character classes -/

/-- The code points of white space above ASCII. -/
def highBlanks : List Nat :=
  [0x85, 0xA0, 0x1680] ++ List.range' 0x2000 11 ++ [0x2028, 0x2029, 0x202F, 0x205F, 0x3000]

theorem isBlank_cases {c : Char} (blank : isBlank c = true) :
    c.toNat < 33 ∨ c.toNat ∈ highBlanks := by
  simp only [isBlank, Bool.or_eq_true, Bool.and_eq_true, decide_eq_true_eq, beq_iff_eq] at blank
  simp only [highBlanks, List.mem_append, List.mem_cons, List.not_mem_nil, or_false,
    List.mem_range'_1]
  omega

theorem not_isWord_of_isBlank {c : Char} (blank : isBlank c = true) : isWord c = false := by
  have outside : ∀ n ∈ highBlanks, 128 ≤ n ∧ inRanges n wordRanges = false := by decide +kernel
  unfold isWord
  rcases isBlank_cases blank with low | high
  · -- below U+0080 word characters are three intervals and the underscore
    have notUnderscore : c ≠ '_' := by
      rintro rfl
      simp at low
    rw [if_pos (by omega)]
    simp only [isAsciiLetter, isAsciiDigit, Bool.or_eq_false_iff, Bool.and_eq_false_iff,
      decide_eq_false_iff_not, beq_eq_false_iff_ne]
    exact ⟨⟨⟨by omega, by omega⟩, by omega⟩, notUnderscore⟩
  · obtain ⟨above, notListed⟩ := outside c.toNat high
    rw [if_neg (by omega)]
    exact notListed

theorem not_isBlank_of_isWord {c : Char} (word : isWord c = true) : isBlank c = false := by
  cases blank : isBlank c with
  | false => rfl
  | true => rw [not_isWord_of_isBlank blank] at word; cases word

theorem ne_of_isWord {c d : Char} (word : isWord c = true) (other : isWord d = false) : c ≠ d := by
  rintro rfl
  rw [other] at word
  cases word

theorem isQuote_iff (c : Char) : isQuote c = true ↔ c = singleQuote ∨ c = doubleQuote := by
  simp [isQuote]

theorem isNamespacePart_iff (c : Char) :
    isNamespacePart c = true ↔ isWord c = true ∨ c = ':' ∨ c = '.' ∨ c = '_' ∨ c = '-' := by
  have underscore : isWord '_' = true := by decide
  simp only [isNamespacePart, Bool.or_eq_true, beq_iff_eq]
  constructor
  · rintro (((word | rfl) | rfl) | rfl) <;> simp_all
  · rintro (word | rfl | rfl | rfl | rfl) <;> simp_all

theorem not_isNamespacePart_of_isQuote {c : Char} (quote : isQuote c = true) :
    isNamespacePart c = false := by
  rcases (isQuote_iff c).mp quote with rfl | rfl <;> decide

theorem not_isBlank_of_isQuote {c : Char} (quote : isQuote c = true) : isBlank c = false := by
  rcases (isQuote_iff c).mp quote with rfl | rfl <;> decide

theorem not_isNamespacePart_of_isBlank {c : Char} (blank : isBlank c = true) :
    isNamespacePart c = false := by
  cases named : isNamespacePart c with
  | false => rfl
  | true =>
      rcases (isNamespacePart_iff c).mp named with word | rfl | rfl | rfl | rfl
      · rw [not_isWord_of_isBlank blank] at word
        cases word
      all_goals simp [isBlank] at blank

/-! ## Longest runs -/

theorem dropWhile_eq_iff (p : Char → Bool) (text rest : List Char) :
    text.dropWhile p = rest ↔
      ∃ run, text = run ++ rest ∧ (∀ d ∈ run, p d = true) ∧ ∀ c ∈ rest.head?, p c = false := by
  constructor
  · intro dropped
    refine ⟨text.takeWhile p, ?_, fun d member => List.mem_takeWhile_imp member, ?_⟩
    · rw [← dropped, List.takeWhile_append_dropWhile]
    · intro c first
      have stops := List.head?_dropWhile_not p text
      rw [dropped, Option.mem_def.mp first] at stops
      exact stops
  · intro ⟨run, split, all, stops⟩
    rw [split, List.dropWhile_append_of_pos all]
    cases rest with
    | nil => rfl
    | cons c rest => rw [List.dropWhile_cons_of_neg (by simp [stops c rfl])]

theorem takeWhile_append_stop {p : Char → Bool} (run rest : List Char)
    (all : ∀ d ∈ run, p d = true) (stops : ∀ c ∈ rest.head?, p c = false) :
    (run ++ rest).takeWhile p = run := by
  rw [List.takeWhile_append_of_pos all]
  cases rest with
  | nil => rw [List.takeWhile_nil, List.append_nil]
  | cons c rest => rw [List.takeWhile_cons_of_neg (by simp [stops c rfl]), List.append_nil]

theorem dropWhile_eq_cons_iff (p : Char → Bool) (text rest : List Char) (c : Char) :
    text.dropWhile p = c :: rest ↔
      p c = false ∧ ∃ run, text = run ++ c :: rest ∧ ∀ d ∈ run, p d = true := by
  rw [dropWhile_eq_iff]
  simp only [List.head?_cons, Option.mem_some_iff, forall_eq']
  constructor
  · intro ⟨run, split, all, stops⟩
    exact ⟨stops, run, split, all⟩
  · intro ⟨stops, run, split, all⟩
    exact ⟨run, split, all, stops⟩

/-- What stands before the longest tail of a class. -/
theorem dropWhile_reverse_eq_cons_iff (p : Char → Bool) (text rest : List Char) (c : Char) :
    text.reverse.dropWhile p = c :: rest ↔
      p c = false ∧ ∃ tail, text = rest.reverse ++ c :: tail ∧ ∀ d ∈ tail, p d = true := by
  rw [dropWhile_eq_cons_iff]
  constructor
  · rintro ⟨stops, run, reversed, all⟩
    refine ⟨stops, run.reverse, ?_, fun d member => all d (List.mem_reverse.mp member)⟩
    rw [← List.reverse_reverse text, reversed]
    simp
  · rintro ⟨stops, tail, rfl, all⟩
    refine ⟨stops, tail.reverse, by simp, fun d member => all d (List.mem_reverse.mp member)⟩

theorem trimStart_append_cons (front rest : List Char) {c : Char} (solid : isBlank c = false) :
    trimStart (front ++ c :: rest) = trimStart front ++ c :: rest := by
  unfold trimStart
  rw [List.dropWhile_append]
  split
  · next none =>
      rw [List.isEmpty_iff.mp none, List.dropWhile_cons_of_neg (by simp [solid]), List.nil_append]
  · rfl

/-! ## Code markers and comments -/

/-- The line holds a colon, white space or nothing, and a semicolon. -/
def HoldsMarker (line : List Char) : Prop :=
  ∃ before blanks after, line = before ++ ':' :: (blanks ++ ';' :: after) ∧
    ∀ c ∈ blanks, isBlank c = true

theorem head?_trimStart_eq_semicolon_iff (text : List Char) :
    (trimStart text).head? = some ';' ↔
      ∃ blanks after, text = blanks ++ ';' :: after ∧ ∀ c ∈ blanks, isBlank c = true := by
  have solid : isBlank ';' = false := by decide
  rw [List.head?_eq_some_iff]
  constructor
  · rintro ⟨after, trimmed⟩
    obtain ⟨-, blanks, split, all⟩ := (dropWhile_eq_cons_iff _ _ _ _).mp trimmed
    exact ⟨blanks, after, split, all⟩
  · rintro ⟨blanks, after, split, all⟩
    exact ⟨after, (dropWhile_eq_cons_iff _ _ _ _).mpr ⟨solid, blanks, split, all⟩⟩

theorem hasCodeMarker_iff (line : List Char) : hasCodeMarker line = true ↔ HoldsMarker line := by
  induction line with
  | nil => simp [hasCodeMarker, HoldsMarker]
  | cons c rest ih =>
      simp only [hasCodeMarker, Bool.or_eq_true, Bool.and_eq_true, beq_iff_eq, ih,
        head?_trimStart_eq_semicolon_iff]
      constructor
      · rintro (⟨rfl, blanks, after, rfl, all⟩ | ⟨before, blanks, after, rfl, all⟩)
        · exact ⟨[], blanks, after, rfl, all⟩
        · exact ⟨c :: before, blanks, after, rfl, all⟩
      · rintro ⟨before, blanks, after, split, all⟩
        cases before with
        | nil =>
            obtain ⟨rfl, rfl⟩ := List.cons.inj split
            exact Or.inl ⟨rfl, blanks, after, rfl, all⟩
        | cons d before =>
            obtain ⟨rfl, rfl⟩ := List.cons.inj split
            exact Or.inr ⟨before, blanks, after, rfl, all⟩

/-- The first text that is not white space is `#` or `//`. -/
def StartsComment (text : List Char) : Prop :=
  ∃ blanks rest, (∀ c ∈ blanks, isBlank c = true) ∧
    (text = blanks ++ '#' :: rest ∨ text = blanks ++ '/' :: '/' :: rest)

theorem isComment_iff (text : List Char) : isComment text = true ↔ StartsComment text := by
  have hash : isBlank '#' = false := by decide
  have slash : isBlank '/' = false := by decide
  constructor
  · intro comment
    unfold isComment at comment
    split at comment
    · next rest trimmed =>
        obtain ⟨-, blanks, split, all⟩ := (dropWhile_eq_cons_iff _ _ _ _).mp trimmed
        exact ⟨blanks, rest, all, Or.inl split⟩
    · next rest trimmed =>
        obtain ⟨-, blanks, split, all⟩ := (dropWhile_eq_cons_iff _ _ _ _).mp trimmed
        exact ⟨blanks, rest, all, Or.inr split⟩
    · cases comment
  · rintro ⟨blanks, rest, all, split | split⟩
    · have trimmed : trimStart text = '#' :: rest :=
        (dropWhile_eq_cons_iff _ _ _ _).mpr ⟨hash, blanks, split, all⟩
      simp [isComment, trimmed]
    · have trimmed : trimStart text = '/' :: '/' :: rest :=
        (dropWhile_eq_cons_iff _ _ _ _).mpr ⟨slash, blanks, split, all⟩
      simp [isComment, trimmed]

theorem opensString_iff (text : List Char) :
    opensString text = true ↔
      text.count singleQuote % 2 = 1 ∨ text.count doubleQuote % 2 = 1 := by
  simp [opensString]

/-! ## Imports -/

/-- A text that ends in an import in progress, cut into its parts. -/
structure ImportText where
  before : List Char
  blanks : List Char
  quote : Option Char
  name : List Char
  boundary : ∀ c ∈ before.getLast?, isWord c = false
  separated : blanks ≠ []
  blank : ∀ c ∈ blanks, isBlank c = true
  quoted : ∀ c ∈ quote, c = singleQuote ∨ c = doubleQuote
  named : ∀ c ∈ name, isWord c = true ∨ c = ':' ∨ c = '.' ∨ c = '_' ∨ c = '-'

/-- The text up to the quote or, if there is none, up to the name. -/
def ImportText.front (parts : ImportText) : List Char :=
  parts.before ++ "import".toList ++ parts.blanks

def ImportText.text (parts : ImportText) : List Char :=
  parts.front ++ parts.quote.toList ++ parts.name

theorem head_boundary_iff (before : List Char) :
    (match before with
      | [] => true
      | b :: _ => !isWord b) = true ↔ ∀ c ∈ before.head?, isWord c = false := by
  cases before <;> simp

theorem followsImport_iff (reversed : List Char) :
    followsImport reversed = true ↔
      ∃ blanks before, reversed = blanks ++ "tropmi".toList ++ before ∧ blanks ≠ [] ∧
        (∀ c ∈ blanks, isBlank c = true) ∧ ∀ c ∈ before.head?, isWord c = false := by
  have solid : isBlank 't' = false := by decide
  constructor
  · intro follows
    cases reversed with
    | nil => cases follows
    | cons c rest =>
        simp only [followsImport, Bool.and_eq_true] at follows
        obtain ⟨blank, follows⟩ := follows
        split at follows
        · next before dropped =>
            obtain ⟨-, blanks, split, all⟩ := (dropWhile_eq_cons_iff _ _ _ _).mp dropped
            refine ⟨blanks, before, by simpa using split, ?_, all, (head_boundary_iff _).mp follows⟩
            rintro rfl
            obtain ⟨rfl, -⟩ := List.cons.inj split
            rw [solid] at blank
            cases blank
        · cases follows
  · rintro ⟨blanks, before, rfl, separated, all, boundary⟩
    cases blanks with
    | nil => exact absurd rfl separated
    | cons c rest =>
        have dropped : ((c :: rest) ++ "tropmi".toList ++ before).dropWhile isBlank =
            't' :: 'r' :: 'o' :: 'p' :: 'm' :: 'i' :: before :=
          (dropWhile_eq_cons_iff _ _ _ _).mpr ⟨solid, c :: rest, by simp, all⟩
        rw [List.cons_append, List.cons_append] at dropped ⊢
        simp only [followsImport, dropped, Bool.and_eq_true]
        exact ⟨all c (List.mem_cons_self ..), (head_boundary_iff _).mpr boundary⟩

theorem ImportText.followsImport_front (parts : ImportText) :
    followsImport parts.front.reverse = true := by
  refine (followsImport_iff _).mpr
    ⟨parts.blanks.reverse, parts.before.reverse, by simp [front], ?_, ?_, ?_⟩
  · simpa using parts.separated
  · intro c member
    exact parts.blank c (List.mem_reverse.mp member)
  · simpa using parts.boundary

theorem ImportText.front_ends_blank (parts : ImportText) :
    ∃ rest c, parts.front = rest ++ [c] ∧ isBlank c = true := by
  rcases List.eq_nil_or_concat parts.blanks with none | ⟨rest, c, some⟩
  · exact absurd none parts.separated
  · refine ⟨parts.before ++ "import".toList ++ rest, c, by simp [front, some], ?_⟩
    exact parts.blank c (by simp [some])

/-- The name is the longest tail of its class. -/
theorem ImportText.dropWhile_text (parts : ImportText) :
    parts.text.reverse.dropWhile isNamespacePart =
      (parts.front ++ parts.quote.toList).reverse := by
  have named : ∀ c ∈ parts.name.reverse, isNamespacePart c = true := by
    intro c member
    exact (isNamespacePart_iff c).mpr (parts.named c (List.mem_reverse.mp member))
  rw [text, List.reverse_append, List.dropWhile_append_of_pos named]
  cases typed : parts.quote with
  | some q =>
      have quote : isQuote q = true := (isQuote_iff q).mpr (parts.quoted q typed)
      have stops := not_isNamespacePart_of_isQuote quote
      simp [stops]
  | none =>
      obtain ⟨rest, c, ends, blank⟩ := parts.front_ends_blank
      have stops := not_isNamespacePart_of_isBlank blank
      simp [ends, stops]

theorem ImportText.importQuote_text (parts : ImportText) :
    importQuote parts.text = some parts.quote := by
  have follows := parts.followsImport_front
  unfold importQuote
  rw [parts.dropWhile_text]
  cases typed : parts.quote with
  | some q =>
      have quote : isQuote q = true := (isQuote_iff q).mpr (parts.quoted q typed)
      simp [quote, follows]
  | none =>
      obtain ⟨rest, c, ends, blank⟩ := parts.front_ends_blank
      have quote : isQuote c = false := by
        cases quote : isQuote c with
        | false => rfl
        | true => rw [not_isBlank_of_isQuote quote] at blank; cases blank
      rw [ends] at follows ⊢
      simp only [List.reverse_append, List.reverse_cons, List.reverse_nil, List.nil_append,
        List.cons_append] at follows
      simp [quote, follows]

theorem exists_importText_of_followsImport {reversed name : List Char} (quote : Option Char)
    (follows : followsImport reversed = true) (quoted : ∀ c ∈ quote, isQuote c = true)
    (named : ∀ c ∈ name, isNamespacePart c = true) :
    ∃ parts : ImportText,
      reversed.reverse ++ quote.toList ++ name = parts.text ∧ parts.quote = quote := by
  obtain ⟨blanks, before, rfl, separated, blank, boundary⟩ := (followsImport_iff _).mp follows
  refine ⟨⟨before.reverse, blanks.reverse, quote, name, ?_, ?_, ?_, ?_, ?_⟩, ?_, rfl⟩
  · simpa using boundary
  · simpa using separated
  · intro c member
    exact blank c (List.mem_reverse.mp member)
  · intro c member
    exact (isQuote_iff c).mp (quoted c member)
  · intro c member
    exact (isNamespacePart_iff c).mp (named c member)
  · simp [ImportText.text, ImportText.front]

theorem importQuote_eq_some_iff (text : List Char) (quote : Option Char) :
    importQuote text = some quote ↔
      ∃ parts : ImportText, text = parts.text ∧ parts.quote = quote := by
  constructor
  · intro found
    unfold importQuote at found
    split at found
    · cases found
    · next c rest dropped =>
        obtain ⟨-, name, split, named⟩ := (dropWhile_reverse_eq_cons_iff _ _ _ _).mp dropped
        split at found
        · next typed =>
            split at found
            · next follows =>
                cases found
                have quoted : ∀ d ∈ some c, isQuote d = true := by
                  rintro d ⟨⟩
                  exact typed
                obtain ⟨parts, same, kept⟩ :=
                  exists_importText_of_followsImport (some c) follows quoted named
                exact ⟨parts, by rw [split, ← same]; simp, kept⟩
            · cases found
        · split at found
          · next follows =>
              cases found
              obtain ⟨parts, same, kept⟩ :=
                exists_importText_of_followsImport none follows (by simp) named
              exact ⟨parts, by rw [split, ← same]; simp, kept⟩
          · cases found
  · rintro ⟨parts, rfl, rfl⟩
    exact parts.importQuote_text

theorem ImportText.dropWhile_front (parts : ImportText) :
    parts.front.reverse.dropWhile isBlank = (parts.before ++ "import".toList).reverse := by
  have blank : ∀ c ∈ parts.blanks.reverse, isBlank c = true := by
    intro c member
    exact parts.blank c (List.mem_reverse.mp member)
  have solid : isBlank 't' = false := by decide
  rw [front, List.reverse_append, List.dropWhile_append_of_pos blank]
  simp [solid]

/-- A text is an import in progress in at most one way. -/
theorem ImportText.text_injective : Function.Injective ImportText.text := by
  intro first second same
  -- the parts are fixed from the end of the text on, each as a longest run
  have quotes : first.quote = second.quote := by
    have found := first.importQuote_text
    rw [same, second.importQuote_text] at found
    exact (Option.some.inj found).symm
  have fronts : first.front = second.front := by
    have dropped := first.dropWhile_text
    rw [same, second.dropWhile_text, List.reverse_inj, quotes] at dropped
    exact (List.append_cancel_right dropped).symm
  have names : first.name = second.name := by
    rw [text, text, fronts, quotes] at same
    exact List.append_cancel_left same
  have befores : first.before = second.before := by
    have dropped := first.dropWhile_front
    rw [fronts, second.dropWhile_front, List.reverse_inj] at dropped
    exact (List.append_cancel_right dropped).symm
  have blanks : first.blanks = second.blanks := by
    rw [front, front, befores] at fronts
    exact List.append_cancel_left fronts
  cases first
  cases second
  simp_all

/-! ## Colons and annotations -/

/-- The text ends in one colon, right after a character that is not white space. -/
def EndsInOneColon (text : List Char) : Prop :=
  (∃ front, text = front ++ [':']) ∧ (¬ ∃ front, text = front ++ [':', ':']) ∧
    ∃ front c, text = front ++ [c, ':'] ∧ isBlank c = false

/-- The text ends in two colons and word characters, after more than white space. -/
def EndsInCall (text : List Char) : Prop :=
  ∃ receiver name, text = receiver ++ [':', ':'] ++ name ∧ (∀ c ∈ name, isWord c = true) ∧
    ∃ c ∈ receiver, isBlank c = false

/-- The text ends in an at sign and word characters. -/
def EndsInAt (text : List Char) : Prop :=
  ∃ before name, text = before ++ ['@'] ++ name ∧ ∀ c ∈ name, isWord c = true

theorem endsInSingleColon_iff (text : List Char) :
    endsInSingleColon text = true ↔ EndsInOneColon text := by
  constructor
  · intro ends
    unfold endsInSingleColon at ends
    split at ends
    · next c rest reversed =>
        have split : text = rest.reverse ++ [c, ':'] := by
          rw [← List.reverse_reverse text, reversed]
          simp
        obtain ⟨single, solid⟩ : c ≠ ':' ∧ isBlank c = false := by simpa using ends
        refine ⟨⟨rest.reverse ++ [c], by simp [split]⟩, ?_, rest.reverse, c, split, solid⟩
        rintro ⟨front, double⟩
        rw [split] at double
        have same := (List.append_inj_right' double rfl)
        exact single (List.cons.inj same).1
    · cases ends
  · rintro ⟨-, single, front, c, rfl, solid⟩
    have notColon : c ≠ ':' := by
      rintro rfl
      exact single ⟨front, rfl⟩
    simp [endsInSingleColon, notColon, solid]

theorem endsInExtensionCall_iff (text : List Char) :
    endsInExtensionCall text = true ↔ EndsInCall text := by
  have colon : isWord ':' = false := by decide
  constructor
  · intro ends
    unfold endsInExtensionCall at ends
    split at ends
    · next before dropped =>
        obtain ⟨-, name, split, all⟩ := (dropWhile_reverse_eq_cons_iff _ _ _ _).mp dropped
        refine ⟨before.reverse, name, by simp [split], all, ?_⟩
        simpa using ends
    · cases ends
  · rintro ⟨receiver, name, split, all, c, member, solid⟩
    have dropped : text.reverse.dropWhile isWord = ':' :: ':' :: receiver.reverse :=
      (dropWhile_reverse_eq_cons_iff _ _ _ _).mpr ⟨colon, name, by simp [split], all⟩
    simp only [endsInExtensionCall, dropped, List.any_reverse, List.any_eq_true]
    exact ⟨c, member, by simp [solid]⟩

theorem endsInAnnotation_iff (text : List Char) :
    endsInAnnotation text = true ↔ EndsInAt text := by
  have sign : isWord '@' = false := by decide
  unfold endsInAnnotation
  rw [beq_iff_eq, List.head?_eq_some_iff]
  constructor
  · rintro ⟨rest, dropped⟩
    obtain ⟨-, name, split, all⟩ := (dropWhile_reverse_eq_cons_iff _ _ _ _).mp dropped
    exact ⟨rest.reverse, name, by simp [split], all⟩
  · rintro ⟨before, name, split, all⟩
    exact ⟨before.reverse,
      (dropWhile_reverse_eq_cons_iff _ _ _ _).mpr ⟨sign, name, by simp [split], all⟩⟩

end FluxonAssist.Line
