/-!
# Lines

Two divisions of a text into lines. A declaration scan cuts at `\r\n`, `\n` and a lone `\r` and
drops the breaks. An open document also ends a line at the vertical tab, the form feed, U+0085,
U+2028 and U+2029, and its lines keep their breaks; the content of such a line is what stands before
a final `\n`, `\r\n` or `\r`, so the other breaks stay in it.
-/
set_option autoImplicit false
namespace FluxonAssist.Text

def consLine (c : Char) : List (List Char) → List (List Char)
  | [] => [[c]]
  | line :: rest => (c :: line) :: rest

/-- The lines between `\r\n`, `\n` and `\r`, without these breaks. -/
def sourceLines : List Char → List (List Char)
  | [] => [[]]
  | '\r' :: '\n' :: rest => [] :: sourceLines rest
  | c :: rest =>
    if c = '\n' ∨ c = '\r' then [] :: sourceLines rest else consLine c (sourceLines rest)

def isLineBreak (c : Char) : Bool :=
  (decide (10 ≤ c.toNat) && decide (c.toNat ≤ 13)) || c.toNat == 0x85 || c.toNat == 0x2028 ||
    c.toNat == 0x2029

/-- The lines of an open document, each with its break; the last line has none. -/
def documentLines : List Char → List (List Char)
  | [] => [[]]
  | '\r' :: '\n' :: rest => ['\r', '\n'] :: documentLines rest
  | c :: rest =>
    if isLineBreak c then [c] :: documentLines rest else consLine c (documentLines rest)

/-- The number of characters of a line before its final `\n`, `\r\n` or `\r`. -/
def contentLength (line : List Char) : Nat :=
  match line.reverse with
  | '\n' :: '\r' :: _ => line.length - 2
  | '\n' :: _ => line.length - 1
  | '\r' :: _ => line.length - 1
  | _ => line.length

/-- The line without any line feeds and carriage returns at its end. -/
def chomp (line : List Char) : List Char :=
  (line.reverse.dropWhile fun c => c == '\n' || c == '\r').reverse

end FluxonAssist.Text
