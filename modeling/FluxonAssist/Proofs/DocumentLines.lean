import FluxonAssist.Document

/-!
# The lines of an open document

The lines of a text put together give the text back. Each line but the last is a body without breaks
and one break; the last line is a body alone. Hence a carriage return or a line feed can stand only
at the end of a line, and the content of a line is all of it up to there.
-/
set_option autoImplicit false
namespace FluxonAssist.Text

inductive LineBreak : List Char → Prop
  | pair : LineBreak ['\r', '\n']
  | single (c : Char) (ends : isLineBreak c = true) : LineBreak [c]

/-- The text holds no character that ends a line. -/
def Unbroken (body : List Char) : Prop := ∀ c ∈ body, isLineBreak c = false

/-- A list of lines in which each but the last ends in its one break. -/
inductive BrokenLines : List (List Char) → Prop
  | last (body : List Char) (unbroken : Unbroken body) : BrokenLines [body]
  | line (body ending : List Char) (rest : List (List Char)) (unbroken : Unbroken body)
      (ends : LineBreak ending) (more : BrokenLines rest) : BrokenLines ((body ++ ending) :: rest)

theorem BrokenLines.ne_nil {lines : List (List Char)} (broken : BrokenLines lines) :
    lines ≠ [] := by
  cases broken <;> exact List.cons_ne_nil _ _

theorem BrokenLines.consLine {lines : List (List Char)} (broken : BrokenLines lines) (c : Char)
    (inside : isLineBreak c = false) : BrokenLines (consLine c lines) := by
  have unbroken_cons {body : List Char} (unbroken : Unbroken body) : Unbroken (c :: body) := by
    intro other member
    rcases List.mem_cons.mp member with rfl | member
    · exact inside
    · exact unbroken other member
  cases broken with
  | last body unbroken => exact .last (c :: body) (unbroken_cons unbroken)
  | line body ending rest unbroken ends more =>
      exact .line (c :: body) ending rest (unbroken_cons unbroken) ends more

theorem documentLines_broken (text : List Char) : BrokenLines (documentLines text) := by
  fun_induction documentLines text with
  | case1 => exact .last [] (by simp [Unbroken])
  | case2 rest ih => exact .line [] ['\r', '\n'] _ (by simp [Unbroken]) .pair ih
  | case3 c rest _ ends ih => exact .line [] [c] _ (by simp [Unbroken]) (.single c ends) ih
  | case4 c rest _ inside ih => exact ih.consLine c (by simpa using inside)

theorem flatten_consLine (c : Char) (lines : List (List Char)) :
    (consLine c lines).flatten = c :: lines.flatten := by
  cases lines <;> rfl

theorem flatten_documentLines (text : List Char) : (documentLines text).flatten = text := by
  fun_induction documentLines text with
  | case1 => rfl
  | case2 rest ih => simp [ih]
  | case3 c rest _ ends ih => simp [ih]
  | case4 c rest _ inside ih => rw [flatten_consLine, ih]

/-! ## The content of a line -/

theorem ne_of_unbroken {body : List Char} (unbroken : Unbroken body) {c : Char}
    (member : c ∈ body) : c ≠ '\n' ∧ c ≠ '\r' := by
  have inside : isLineBreak c = false := unbroken c member
  constructor <;> rintro rfl <;> simp [isLineBreak] at inside

theorem contentLength_unbroken (body : List Char) (unbroken : Unbroken body) :
    contentLength body = body.length := by
  rcases List.eq_nil_or_concat body with rfl | ⟨front, c, rfl⟩
  · rfl
  · obtain ⟨notFeed, notReturn⟩ := ne_of_unbroken unbroken (c := c) (by simp)
    simp [contentLength, notFeed, notReturn]

theorem contentLength_pair (body : List Char) :
    contentLength (body ++ ['\r', '\n']) = body.length := by
  simp [contentLength]

theorem contentLength_single (body : List Char) (unbroken : Unbroken body) (c : Char) :
    contentLength (body ++ [c]) =
      if c = '\n' ∨ c = '\r' then body.length else body.length + 1 := by
  by_cases cut : c = '\n' ∨ c = '\r'
  · rw [if_pos cut]
    rcases cut with rfl | rfl
    · -- a return before the feed would be a break inside the body
      rcases List.eq_nil_or_concat body with rfl | ⟨front, previous, rfl⟩
      · rfl
      · obtain ⟨-, notReturn⟩ := ne_of_unbroken unbroken (c := previous) (by simp)
        simp [contentLength, notReturn]
    · simp [contentLength]
  · obtain ⟨notFeed, notReturn⟩ := not_or.mp cut
    rw [if_neg cut]
    simp [contentLength, notFeed, notReturn]

/-- An index inside a line lies within its content, unless it stands between a return and a
feed. -/
theorem le_contentLength (body ending : List Char) (unbroken : Unbroken body)
    (ends : LineBreak ending) (index : Nat) (inside : index < (body ++ ending).length)
    (whole : ending = ['\r', '\n'] → index ≠ body.length + 1) :
    index ≤ contentLength (body ++ ending) := by
  rw [List.length_append] at inside
  cases ends with
  | pair =>
      have notBetween := whole rfl
      simp only [List.length_cons, List.length_nil] at inside
      rw [contentLength_pair]
      omega
  | single c ends =>
      simp only [List.length_cons, List.length_nil] at inside
      rw [contentLength_single body unbroken]
      split <;> omega

end FluxonAssist.Text
