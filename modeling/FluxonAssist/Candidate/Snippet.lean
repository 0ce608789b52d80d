/-!
# Snippets and argument counts

The text that a chosen function inserts, with one numbered placeholder per argument, and the words
for a set of argument counts.
-/
set_option autoImplicit false
namespace FluxonAssist

def joined (separator : String) : List String → String
  | [] => ""
  | [text] => text
  | text :: rest => text ++ separator ++ joined separator rest

namespace Snippet

/-- A character of literal text: a backslash, a dollar and a closing brace take a backslash. -/
def literalChar (c : Char) : List Char :=
  if c = '\\' ∨ c = '$' ∨ c = '\x7d' then ['\\', c] else [c]

def literal (text : String) : String := String.ofList (text.toList.flatMap literalChar)

def placeholder (number : Nat) (text : String) : String :=
  "$\x7b" ++ toString number ++ ":" ++ text ++ "\x7d"

/-- The placeholders of the arguments `first` to `first + count - 1`. -/
def argumentsFrom (first : Nat) : Nat → List String
  | 0 => []
  | count + 1 =>
    placeholder first ("arg" ++ toString first) :: argumentsFrom (first + 1) count

/-- A call with a placeholder per argument; without arguments the cursor goes between the
parentheses. -/
def call (name : String) (arity : Nat) : String :=
  if arity = 0 then literal name ++ "($0)"
  else literal name ++ "(" ++ joined ", " (argumentsFrom 1 arity) ++ ")"

def parametersFrom (first : Nat) : List String → List String
  | [] => []
  | name :: rest => placeholder first name :: parametersFrom (first + 1) rest

end Snippet

def listCounts (params : List Nat) : String := joined ", " (params.map toString)

def describeArity (params : List Nat) : String :=
  match params with
  | [] => "no arguments"
  | [0] => "no arguments"
  | [1] => "1 argument"
  | [n] => toString n ++ " arguments"
  | params =>
    listCounts params.dropLast ++ " or " ++ toString (params.getLastD 0) ++ " arguments"

end FluxonAssist
