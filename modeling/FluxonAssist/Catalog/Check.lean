import FluxonAssist.Json.Basic

/-!
# The shape of a catalog document

The check reads a document with the last of repeated keys counting and the hosts in ascending order,
and names the first thing that is wrong with it.
-/
set_option autoImplicit false
namespace FluxonAssist.Catalog

inductive EntryFlaw where
  | notAnObject
  | name
  | namespaceName
  | params
  | paramValues
  | async
  | primarySync
  deriving DecidableEq, Repr

inductive Flaw where
  | notAnObject
  | generatedAt
  | system
  | systemEntry (index : Nat) (flaw : EntryFlaw)
  | extensions
  | hostList (host : String)
  | hostEntry (host : String) (index : Nat) (flaw : EntryFlaw)
  deriving DecidableEq, Repr

def EntryFlaw.message : EntryFlaw → String
  | .notAnObject => "entry is not an object"
  | .name => "`name` must be a string"
  | .namespaceName => "`namespace` must be a string or null"
  | .params => "`params` must be an array"
  | .paramValues => "`params` must contain non-negative integers"
  | .async => "`async` must be a boolean"
  | .primarySync => "`primarySync` must be a boolean"

def Flaw.message : Flaw → String
  | .notAnObject => "top level is not an object"
  | .generatedAt => "`generatedAt` must be a string"
  | .system => "`system` must be an array"
  | .systemEntry index flaw => "system[" ++ toString index ++ "]: " ++ flaw.message
  | .extensions => "`extensions` must be an object"
  | .hostList host => "extensions[" ++ host ++ "] must be an array"
  | .hostEntry host index flaw =>
    "extensions[" ++ host ++ "][" ++ toString index ++ "]: " ++ flaw.message

/-- An argument count: an unsigned integer literal below `2^32`. -/
def isCount (value : Json) : Bool :=
  match value.asNat? with
  | some n => decide (n < UInt32.size)
  | none => false

def isNamespace : Json → Bool
  | .null => true
  | .string _ => true
  | _ => false

def entryFlaw? (entry : Json) : Option EntryFlaw :=
  match entry.asObject? with
  | none => some .notAnObject
  | some members =>
    if !(Json.member? "name" members).any (fun v => v.asString?.isSome) then some .name
    else if !(Json.member? "namespace" members).any isNamespace then some .namespaceName
    else match (Json.member? "params" members).bind Json.asArray? with
      | none => some .params
      | some params =>
        if !params.all isCount then some .paramValues
        else if !(Json.member? "async" members).any (fun v => v.asBool?.isSome) then some .async
        else if !(Json.member? "primarySync" members).any (fun v => v.asBool?.isSome) then
          some .primarySync
        else none

/-- The first flawed entry of a list and its flaw; `first` is the index of the list's head. -/
def firstFlaw? (first : Nat) : List Json → Option (Nat × EntryFlaw)
  | [] => none
  | entry :: rest =>
    match entryFlaw? entry with
    | some flaw => some (first, flaw)
    | none => firstFlaw? (first + 1) rest

def hostsFlaw? (members : List (String × Json)) : List String → Option Flaw
  | [] => none
  | host :: rest =>
    match (Json.member? host members).bind Json.asArray? with
    | none => some (.hostList host)
    | some entries =>
      match firstFlaw? 0 entries with
      | some (index, flaw) => some (.hostEntry host index flaw)
      | none => hostsFlaw? members rest

def flaw? (document : Json) : Option Flaw :=
  match document.asObject? with
  | none => some .notAnObject
  | some members =>
    if !(Json.member? "generatedAt" members).any (fun v => v.asString?.isSome) then
      some .generatedAt
    else match (Json.member? "system" members).bind Json.asArray? with
      | none => some .system
      | some entries =>
        match firstFlaw? 0 entries with
        | some (index, flaw) => some (.systemEntry index flaw)
        | none =>
          match (Json.member? "extensions" members).bind Json.asObject? with
          | none => some .extensions
          | some hosts => hostsFlaw? hosts (Json.keys hosts)

end FluxonAssist.Catalog
