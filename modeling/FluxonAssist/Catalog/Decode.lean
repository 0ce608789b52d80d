import FluxonAssist.Catalog.Basic
import FluxonAssist.Json.Basic
import FluxonAssist.Text.Quoted

/-!
# Decoding a catalog document

The decoder reads every member in document order. A known field may stand once, unknown fields are
passed over, and a function may also be given as the array of its five fields. A host that is
repeated keeps its first place and takes its last list.
-/
set_option autoImplicit false
namespace FluxonAssist.Catalog

inductive DecodeError where
  | duplicateField (name : String)
  | missingField (name : String)
  | invalidType (found : Json) (expected : String)
  | invalidValue (found : Int) (expected : String)
  /-- An array with too few elements. -/
  | invalidLength (length : Nat) (expected : String)
  /-- An array with too many elements. -/
  | trailingElements

/-- The type of a value, with the value itself if it is a scalar. -/
def describe : Json → String
  | .null => "null"
  | .bool b => "boolean `" ++ (if b then "true" else "false") ++ "`"
  | .number (.natural n) => "integer `" ++ toString n ++ "`"
  | .number (.negative n) => "integer `-" ++ toString n ++ "`"
  | .number (.double isNegative significand exponent) =>
    "floating point `" ++ (if isNegative then "-" else "") ++
      (match Decimal.toDouble? significand exponent with
        | some f => Decimal.doubleText f
        | none => "inf") ++ "`"
  | .string s => "string " ++ Text.quoted s
  | .array _ => "sequence"
  | .object _ => "map"

def DecodeError.message : DecodeError → String
  | .duplicateField name => "duplicate field `" ++ name ++ "`"
  | .missingField name => "missing field `" ++ name ++ "`"
  | .invalidType found expected => "invalid type: " ++ describe found ++ ", expected " ++ expected
  | .invalidValue found expected =>
    "invalid value: integer `" ++ toString found ++ "`, expected " ++ expected
  | .invalidLength length expected =>
    "invalid length " ++ toString length ++ ", expected " ++ expected
  | .trailingElements => "trailing characters"

abbrev Decoded (α : Type) := Except DecodeError α

def decodeString : Json → Decoded String
  | .string s => .ok s
  | value => .error (.invalidType value "a string")

def decodeOptionalString : Json → Decoded (Option String)
  | .null => .ok none
  | value => (decodeString value).map some

def decodeBool : Json → Decoded Bool
  | .bool b => .ok b
  | value => .error (.invalidType value "a boolean")

def decodeCount : Json → Decoded Nat
  | .number (.natural n) => if n < UInt32.size then .ok n else .error (.invalidValue n "u32")
  | .number (.negative n) => .error (.invalidValue (-n) "u32")
  | value => .error (.invalidType value "u32")

def decodeAll {α : Type} (item : Json → Decoded α) : List Json → Decoded (List α)
  | [] => .ok []
  | value :: rest =>
    match item value with
    | .error e => .error e
    | .ok a =>
      match decodeAll item rest with
      | .error e => .error e
      | .ok as => .ok (a :: as)

def decodeList {α : Type} (item : Json → Decoded α) : Json → Decoded (List α)
  | .array items => decodeAll item items
  | value => .error (.invalidType value "a sequence")

/-- The fields of a function that have been read so far. -/
structure EntryFields where
  name : Option String := none
  namespaceName : Option (Option String) := none
  params : Option (List Nat) := none
  isAsync : Option Bool := none
  primarySync : Option Bool := none

/-- A field's value if it is the first one of its name. -/
def once {α β : Type} (name : String) (previous : Option α) (decode : Json → Decoded α)
    (value : Json) (store : α → β) : Decoded β :=
  match previous with
  | some _ => .error (.duplicateField name)
  | none => (decode value).map store

def EntryFields.read (fields : EntryFields) (key : String) (value : Json) : Decoded EntryFields :=
  if key = "name" then
    once key fields.name decodeString value fun s => { fields with name := some s }
  else if key = "namespace" then
    once key fields.namespaceName decodeOptionalString value fun s =>
      { fields with namespaceName := some s }
  else if key = "params" then
    once key fields.params (decodeList decodeCount) value fun ns =>
      { fields with params := some ns }
  else if key = "async" then
    once key fields.isAsync decodeBool value fun b => { fields with isAsync := some b }
  else if key = "primarySync" then
    once key fields.primarySync decodeBool value fun b => { fields with primarySync := some b }
  else .ok fields

def EntryFields.readAll (fields : EntryFields) : List (String × Json) → Decoded EntryFields
  | [] => .ok fields
  | (key, value) :: rest =>
    match fields.read key value with
    | .error e => .error e
    | .ok fields => fields.readAll rest

def required {α : Type} (name : String) : Option α → Decoded α
  | some a => .ok a
  | none => .error (.missingField name)

/-- The function of its fields; without a namespace field it has no namespace. -/
def EntryFields.finish (fields : EntryFields) : Decoded FunctionEntry := do
  let name ← required "name" fields.name
  let params ← required "params" fields.params
  let isAsync ← required "async" fields.isAsync
  let primarySync ← required "primarySync" fields.primarySync
  return { name, namespaceName := fields.namespaceName.getD none, params, isAsync, primarySync }

/-- The head of a list of positional fields, of which `index` have been read. -/
def positional {α : Type} (index : Nat) (decode : Json → Decoded α) :
    List Json → Decoded (α × List Json)
  | [] => .error (.invalidLength index "struct CatalogFunction with 5 elements")
  | value :: rest => (decode value).map fun a => (a, rest)

def decodePositional (items : List Json) : Decoded FunctionEntry := do
  let (name, items) ← positional 0 decodeString items
  let (namespaceName, items) ← positional 1 decodeOptionalString items
  let (params, items) ← positional 2 (decodeList decodeCount) items
  let (isAsync, items) ← positional 3 decodeBool items
  let (primarySync, items) ← positional 4 decodeBool items
  if items.isEmpty then return { name, namespaceName, params, isAsync, primarySync }
  else .error .trailingElements

def decodeEntry : Json → Decoded FunctionEntry
  | .object members =>
    match EntryFields.readAll {} members with
    | .error e => .error e
    | .ok fields => fields.finish
  | .array items => decodePositional items
  | value => .error (.invalidType value "struct CatalogFunction")

/-- Sets the list of a host: in its place if it has one, else at the end. -/
def setHost (host : String) (functions : List FunctionEntry) :
    List (String × List FunctionEntry) → List (String × List FunctionEntry)
  | [] => [(host, functions)]
  | (h, previous) :: rest =>
    if h = host then (host, functions) :: rest else (h, previous) :: setHost host functions rest

def decodeHosts (read : List (String × List FunctionEntry)) :
    List (String × Json) → Decoded (List (String × List FunctionEntry))
  | [] => .ok read
  | (host, value) :: rest =>
    match decodeList decodeEntry value with
    | .error e => .error e
    | .ok functions => decodeHosts (setHost host functions read) rest

def decodeExtensions : Json → Decoded (List (String × List FunctionEntry))
  | .object members => decodeHosts [] members
  | value => .error (.invalidType value "a map")

structure CatalogFields where
  generatedAt : Option String := none
  system : Option (List FunctionEntry) := none
  extensions : Option (List (String × List FunctionEntry)) := none

def CatalogFields.read (fields : CatalogFields) (key : String) (value : Json) :
    Decoded CatalogFields :=
  if key = "generatedAt" then
    once key fields.generatedAt decodeString value fun s => { fields with generatedAt := some s }
  else if key = "system" then
    once key fields.system (decodeList decodeEntry) value fun fs =>
      { fields with system := some fs }
  else if key = "extensions" then
    once key fields.extensions decodeExtensions value fun es =>
      { fields with extensions := some es }
  else .ok fields

def CatalogFields.readAll (fields : CatalogFields) : List (String × Json) → Decoded CatalogFields
  | [] => .ok fields
  | (key, value) :: rest =>
    match fields.read key value with
    | .error e => .error e
    | .ok fields => fields.readAll rest

def CatalogFields.finish (fields : CatalogFields) : Decoded Catalog := do
  let generatedAt ← required "generatedAt" fields.generatedAt
  let system ← required "system" fields.system
  let extensions ← required "extensions" fields.extensions
  return { generatedAt, system, extensions }

def decode : Json → Decoded Catalog
  | .object members =>
    match CatalogFields.readAll {} members with
    | .error e => .error e
    | .ok fields => fields.finish
  | value => .error (.invalidType value "struct Catalog")

end FluxonAssist.Catalog
