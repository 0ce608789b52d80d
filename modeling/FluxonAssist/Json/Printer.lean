import FluxonAssist.Json.Basic

/-!
# Writing JSON

Compact text: no white space, members in their own order, and in strings only the quote, the
backslash and the control characters escaped.
-/
set_option autoImplicit false
namespace FluxonAssist.Json

def hexDigit (n : Nat) : Char := if n < 10 then Char.ofNat (48 + n) else Char.ofNat (87 + n)

def escaped (c : Char) : List Char :=
  if c = '\x22' then ['\\', '\x22']
  else if c = '\\' then ['\\', '\\']
  else if c = '\n' then ['\\', 'n']
  else if c = '\r' then ['\\', 'r']
  else if c = '\t' then ['\\', 't']
  else if c.toNat < 0x20 then
    ['\\', 'u', '0', '0', hexDigit (c.toNat / 16), hexDigit (c.toNat % 16)]
  else [c]

def quoted (s : String) : String :=
  String.ofList ('\x22' :: s.toList.flatMap escaped ++ ['\x22'])

def numberText : Number → String
  | .natural n => toString n
  | .negative n => "-" ++ toString n
  | .double isNegative significand exponent =>
    (if isNegative then "-" else "") ++ toString significand ++ "e" ++ toString exponent

mutual

/-- A text with the text of a value put behind it. -/
def renderAfter (done : String) : Json → String
  | .null => done ++ "null"
  | .bool b => done ++ if b then "true" else "false"
  | .number n => done ++ numberText n
  | .string s => done ++ quoted s
  | .array items => renderItems (done ++ "[") items ++ "]"
  | .object members => renderMembers (done ++ "\x7b") members ++ "\x7d"

def renderItems (done : String) : List Json → String
  | [] => done
  | [item] => renderAfter done item
  | item :: rest => renderItems (renderAfter done item ++ ",") rest

def renderMembers (done : String) : List (String × Json) → String
  | [] => done
  | [(key, value)] => renderAfter (done ++ quoted key ++ ":") value
  | (key, value) :: rest =>
    renderMembers (renderAfter (done ++ quoted key ++ ":") value ++ ",") rest

end

def render (value : Json) : String := renderAfter "" value

end FluxonAssist.Json
