import FluxonAssist.Text.Blank
import FluxonAssist.Text.Lines
import FluxonAssist.Text.Pieces
import FluxonAssist.Text.Word

/-!
# Functions declared in a document

A declaration is one line: an optional `async` or `sync`, then `def` or `fun`, then a name, then its
parameters in parentheses or bare before `=` or the opening brace. Each line of a text is looked at
on its own, so the functions of a text are the declarations of its lines in order.
-/
set_option autoImplicit false
namespace FluxonAssist

open FluxonAssist.Text

structure Span where
  line : UInt32
  startColumn : UInt32
  endColumn : UInt32
  deriving DecidableEq, Repr

structure UserFunction where
  name : String
  arity : UInt32
  isAsync : Bool
  isSync : Bool
  span : Span
  deriving DecidableEq, Repr

namespace Declaration

inductive Modifier where
  | plain
  | async
  | sync
  deriving DecidableEq, Repr

/-- What stands after the word and at least one white space character. -/
def afterWord? (word : List Char) (text : List Char) : Option (List Char) :=
  match word, text with
  | [], [] => none
  | [], c :: rest => if isBlank c then some (trimStart rest) else none
  | _ :: _, [] => none
  | w :: word, c :: rest => if w = c then afterWord? word rest else none

def splitModifier (text : List Char) : Modifier × List Char :=
  match afterWord? ['a', 's', 'y', 'n', 'c'] text with
  | some rest => (.async, rest)
  | none =>
    match afterWord? ['s', 'y', 'n', 'c'] text with
    | some rest => (.sync, rest)
    | none => (.plain, text)

def afterKeyword? (text : List Char) : Option (List Char) :=
  match afterWord? ['d', 'e', 'f'] text with
  | some rest => some rest
  | none => afterWord? ['f', 'u', 'n'] text

def splitIdentifier? (text : List Char) : Option (List Char × List Char) :=
  match text with
  | [] => none
  | c :: rest =>
    if isIdentifierStart c then
      some (c :: rest.takeWhile isIdentifierPart, rest.dropWhile isIdentifierPart)
    else none

/-- What stands between the opening parenthesis that starts the text and the first closing one. -/
def parenthesized? (text : List Char) : Option (List Char) :=
  match text with
  | '(' :: rest => if rest.contains ')' then some (rest.takeWhile fun c => c != ')') else none
  | _ => none

def startsBody (c : Char) : Bool := c == '=' || c == '\x7b'

/-- The number of identifiers in a bare parameter list, which commas and white space divide. -/
def bareCount (text : List Char) : Nat :=
  ((pieces (fun c => c == ',' || isBlank c) text).filter isIdentifier).length

/-- The number of parameters in the text after a function's name. A list in parentheses has one more
parameter than commas, unless it is blank; a bare list ends where the body starts. -/
def arityOf (text : List Char) : Nat :=
  match parenthesized? text with
  | some inner => if trim inner = [] then 0 else inner.count ',' + 1
  | none => bareCount (text.takeWhile fun c => !startsBody c)

def ofLine? (line : List Char) (number : Nat) : Option UserFunction :=
  let (modifier, text) := splitModifier (trim line)
  match (afterKeyword? text).bind splitIdentifier? with
  | none => none
  | some (name, rest) =>
    some {
      name := String.ofList name
      arity := UInt32.ofNat (arityOf (trim rest))
      isAsync := modifier = .async
      isSync := modifier = .sync
      span := ⟨UInt32.ofNat number, 0, UInt32.ofNat line.length⟩ }

def ofLines (first : Nat) : List (List Char) → List UserFunction
  | [] => []
  | line :: rest =>
    match ofLine? line first with
    | some function => function :: ofLines (first + 1) rest
    | none => ofLines (first + 1) rest

end Declaration

def declaredFunctions (text : List Char) : List UserFunction :=
  Declaration.ofLines 0 (sourceLines text)

end FluxonAssist
