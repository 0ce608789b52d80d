import FluxonAssist.Proofs.CatalogShape
import FluxonAssist.Proofs.Table
import FluxonAssist.Settings

/-!
# Settings are read as a whole

The settings of a payload stand under the section's key or are the payload itself. Either every
known field that is there has a value of its type, and each field of the result is the one that is
given or its default; or all fields of the result have their defaults, also those whose values could
be read. An array counts as the object that gives its values to the first fields. Members of other
names are never looked at.
-/
set_option autoImplicit false
namespace FluxonAssist

def TraceLevel.name : TraceLevel → String
  | .off => "off"
  | .basic => "basic"
  | .verbose => "verbose"

namespace Settings

/-! ## What the values of fields stand for -/

/-- A trace level is given by its name, or as an object that has the name as its only key and null
under it. -/
inductive StandsForLevel : Json → TraceLevel → Prop
  | named (level : TraceLevel) : StandsForLevel (.string level.name) level
  | keyed (level : TraceLevel) (members : List (String × Json))
      (alone : ∀ key ∈ members.map Prod.fst, key = level.name)
      (null : Json.member? level.name members = some .null) :
      StandsForLevel (.object members) level

inductive FieldType where
  | text
  | flag
  | level
  deriving DecidableEq, Repr

/-- The values that a field of the type takes. -/
def FieldType.Takes : FieldType → Json → Prop
  | .text, value => ∃ text, value = .string text
  | .flag, value => ∃ flag, value = .bool flag
  | .level, value => ∃ level, StandsForLevel value level

/-- The known fields in the order of an array. -/
def knownFields : List (String × FieldType) :=
  [("catalogPath", .text), ("includeUserFunctions", .flag), ("showNamespaces", .flag),
    ("enableExtensions", .flag), ("trace", .level)]

/-- Every known field that is there has a value of its type. -/
def WellTyped (members : List (String × Json)) : Prop :=
  ∀ name type, (name, type) ∈ knownFields →
    ∀ value, Json.member? name members = some value → type.Takes value

/-- What a field holds: what its value stands for, or the default if it is absent. -/
def FieldHolds {α : Type} (standsFor : Json → α → Prop) (default : α) : Option Json → α → Prop
  | none, a => a = default
  | some value, a => standsFor value a

/-- Each field of the settings is the one among the members, or its default. -/
structure GivenBy (members : List (String × Json)) (settings : Settings) : Prop where
  catalogPath : FieldHolds (fun value text => value = .string text) ""
    (Json.member? "catalogPath" members) settings.catalogPath
  includeUserFunctions : FieldHolds (fun value flag => value = .bool flag) true
    (Json.member? "includeUserFunctions" members) settings.includeUserFunctions
  showNamespaces : FieldHolds (fun value flag => value = .bool flag) true
    (Json.member? "showNamespaces" members) settings.showNamespaces
  enableExtensions : FieldHolds (fun value flag => value = .bool flag) true
    (Json.member? "enableExtensions" members) settings.enableExtensions
  trace : FieldHolds StandsForLevel .off (Json.member? "trace" members) settings.trace

/-- The value that holds the settings of a payload: the one under the section's key if the payload
is an object that has it, else the payload itself. -/
def IsSection (payload value : Json) : Prop :=
  (∃ members, payload = .object members ∧
    Json.member? "fluxonCompletion" members = some value) ∨
  value = payload ∧ ∀ members, payload = .object members →
    "fluxonCompletion" ∉ members.map Prod.fst

/-! ## Readers of fields -/

theorem asString?_eq_some_iff (value : Json) (text : String) :
    value.asString? = some text ↔ value = .string text := by
  cases value <;> simp [Json.asString?]

theorem asBool?_eq_some_iff (value : Json) (flag : Bool) :
    value.asBool? = some flag ↔ value = .bool flag := by
  cases value <;> simp [Json.asBool?]

theorem traceOfName?_eq_some_iff (name : String) (level : TraceLevel) :
    traceOfName? name = some level ↔ name = level.name := by
  constructor
  · intro read
    unfold traceOfName? at read
    split at read
    · cases read
      assumption
    · split at read
      · cases read
        assumption
      · split at read
        · cases read
          assumption
        · cases read
  · rintro rfl
    cases level <;> rfl

/-- The keys of an object are one key alone. -/
theorem keys_eq_singleton_iff (members : List (String × Json)) (name : String) :
    Json.keys members = [name] ↔
      name ∈ members.map Prod.fst ∧ ∀ key ∈ members.map Prod.fst, key = name := by
  simp only [← Catalog.mem_keys_iff]
  constructor
  · intro alone
    simp [alone]
  · rintro ⟨here, alone⟩
    have ascends : (Json.keys members).Pairwise (· < ·) := ascending_sorted _
    cases listed : Json.keys members with
    | nil =>
        rw [listed] at here
        cases here
    | cons first rest =>
        rw [listed] at alone ascends
        obtain ⟨same, others⟩ := List.forall_mem_cons.mp alone
        cases rest with
        | nil => rw [same]
        | cons second rest =>
            have less := (List.pairwise_cons.mp ascends).1 second List.mem_cons_self
            rw [same, others second List.mem_cons_self] at less
            exact absurd less (String.lt_irrefl name)

theorem traceOf?_eq_some_iff (value : Json) (level : TraceLevel) :
    traceOf? value = some level ↔ StandsForLevel value level := by
  constructor
  · intro read
    cases value with
    | string name =>
        rw [(traceOfName?_eq_some_iff name level).mp read]
        exact .named level
    | object members =>
        rw [traceOf?] at read
        split at read
        · rename_i name listed
          split at read
          · rename_i null
            cases (traceOfName?_eq_some_iff name level).mp read
            exact .keyed level members ((keys_eq_singleton_iff _ _).mp listed).2 null
          · cases read
        · cases read
    | _ => cases read
  · intro stands
    cases stands with
    | named => exact (traceOfName?_eq_some_iff _ level).mpr rfl
    | keyed _ members alone null =>
        have here : level.name ∈ members.map Prod.fst :=
          List.mem_map_of_mem (Catalog.mem_of_member? null)
        have listed := (keys_eq_singleton_iff members level.name).mpr ⟨here, alone⟩
        simp only [traceOf?, listed, null]
        exact (traceOfName?_eq_some_iff _ level).mpr rfl

section
variable {α : Type} {standsFor : Json → α → Prop}

theorem fieldOf?_eq_some_iff {read : Json → Option α}
    (reads : ∀ value a, read value = some a ↔ standsFor value a) (default : α)
    (given : Option Json) (a : α) :
    fieldOf? default read given = some a ↔ FieldHolds standsFor default given a := by
  cases given with
  | none => exact Option.some_inj.trans eq_comm
  | some value => exact reads value a

theorem exists_fieldHolds (default : α) {given : Option Json}
    (taken : ∀ value, given = some value → ∃ a, standsFor value a) :
    ∃ a, FieldHolds standsFor default given a := by
  cases given with
  | none => exact ⟨default, rfl⟩
  | some value => exact taken value rfl

theorem FieldHolds.taken {default a : α} {given : Option Json}
    (holds : FieldHolds standsFor default given a) {value : Json} (here : given = some value) :
    ∃ a, standsFor value a := by
  rw [here] at holds
  exact ⟨a, holds⟩

end

/-! ## All fields together -/

/-- The fields of an object are read exactly as they are given. -/
theorem ofFields?_eq_some_iff (members : List (String × Json)) (settings : Settings) :
    ofFields? (fun key => Json.member? key members) = some settings ↔
      GivenBy members settings := by
  have text := fieldOf?_eq_some_iff asString?_eq_some_iff ""
  have flag := fieldOf?_eq_some_iff asBool?_eq_some_iff true
  have level := fieldOf?_eq_some_iff traceOf?_eq_some_iff .off
  simp only [ofFields?, Option.bind_eq_bind, Option.bind_eq_some_iff, text, flag, level,
    Option.pure_def, Option.some.injEq]
  constructor
  · rintro ⟨path, hasPath, users, hasUsers, spaces, hasSpaces, extensions, hasExtensions, trace,
      hasTrace, rfl⟩
    exact ⟨hasPath, hasUsers, hasSpaces, hasExtensions, hasTrace⟩
  · intro given
    exact ⟨_, given.catalogPath, _, given.includeUserFunctions, _, given.showNamespaces, _,
      given.enableExtensions, _, given.trace, rfl⟩

theorem forall_knownFields {holds : String → FieldType → Prop} :
    (∀ name type, (name, type) ∈ knownFields → holds name type) ↔
      holds "catalogPath" .text ∧ holds "includeUserFunctions" .flag ∧
        holds "showNamespaces" .flag ∧ holds "enableExtensions" .flag ∧ holds "trace" .level := by
  rw [← Prod.forall (p := fun row => row ∈ knownFields → holds row.1 row.2)]
  simp only [knownFields, List.forall_mem_cons, List.not_mem_nil, false_imp_iff, implies_true,
    and_true]

theorem wellTyped_iff (members : List (String × Json)) :
    WellTyped members ↔ ∃ settings, GivenBy members settings := by
  rw [WellTyped, forall_knownFields]
  constructor
  · intro typed
    obtain ⟨path, users, spaces, extensions, trace⟩ := typed
    obtain ⟨_, hasPath⟩ := exists_fieldHolds "" path
    obtain ⟨_, hasUsers⟩ := exists_fieldHolds true users
    obtain ⟨_, hasSpaces⟩ := exists_fieldHolds true spaces
    obtain ⟨_, hasExtensions⟩ := exists_fieldHolds true extensions
    obtain ⟨_, hasTrace⟩ := exists_fieldHolds .off trace
    exact ⟨⟨_, _, _, _, _⟩, hasPath, hasUsers, hasSpaces, hasExtensions, hasTrace⟩
  · intro read
    obtain ⟨settings, given⟩ := read
    exact ⟨fun _ => given.catalogPath.taken, fun _ => given.includeUserFunctions.taken,
      fun _ => given.showNamespaces.taken, fun _ => given.enableExtensions.taken,
      fun _ => given.trace.taken⟩

/-- Only the known fields are looked at. -/
theorem ofFields?_congr {members others : List (String × Json)}
    (same : ∀ name type, (name, type) ∈ knownFields →
      Json.member? name others = Json.member? name members) :
    ofFields? (fun key => Json.member? key others) =
      ofFields? fun key => Json.member? key members := by
  obtain ⟨path, users, spaces, extensions, trace⟩ := forall_knownFields.mp same
  simp only [ofFields?, path, users, spaces, extensions, trace]

/-! ## Sections -/

theorem get?_eq_some_iff (payload value : Json) (key : String) :
    payload.get? key = some value ↔
      ∃ members, payload = .object members ∧ Json.member? key members = some value := by
  cases payload <;> simp [Json.get?]

theorem get?_eq_none_iff (payload : Json) (key : String) :
    payload.get? key = none ↔
      ∀ members, payload = .object members → key ∉ members.map Prod.fst := by
  simp only [← Catalog.member?_eq_none_iff]
  cases payload <;> simp [Json.get?]

theorem isSection_iff (payload value : Json) :
    IsSection payload value ↔ sectionOf payload = value := by
  rw [IsSection, ← get?_eq_some_iff, ← get?_eq_none_iff, sectionOf, sectionKey]
  cases payload.get? "fluxonCompletion" with
  | none => simp [eq_comm]
  | some inner => simp

theorem lookup_eq_member? {members : List (String × Json)}
    (distinct : (members.map Prod.fst).Nodup) (key : String) :
    members.lookup key = Json.member? key members := by
  cases found : Json.member? key members with
  | none =>
      exact Table.get?_eq_none_of_notMem members key
        ((Catalog.member?_eq_none_iff key members).mp found)
  | some value => exact Table.Distinct.get?_of_mem distinct (Catalog.mem_of_member? found)

theorem nodup_map_fst_zip {names : List String} (distinct : names.Nodup) (items : List Json) :
    ((names.zip items).map Prod.fst).Nodup := by
  rw [List.zip_eq_zip_take_min, List.map_fst_zip (by simp)]
  exact distinct.sublist (List.take_sublist _ _)

/-- The object that gives the values of an array to the first fields. -/
def membersOf (items : List Json) : List (String × Json) := (knownFields.map Prod.fst).zip items

theorem ofSection?_array {items : List Json} (short : items.length ≤ 5) :
    ofSection? (.array items) = ofSection? (.object (membersOf items)) := by
  have distinct : ((membersOf items).map Prod.fst).Nodup := nodup_map_fst_zip (by decide) items
  have read : (fun key => (membersOf items).lookup key) =
      fun key => Json.member? key (membersOf items) := funext (lookup_eq_member? distinct)
  show (if items.length ≤ 5 then ofFields? fun key => (membersOf items).lookup key else none) = _
  rw [if_pos short, read]
  rfl

/-! ## Payloads -/

/-- The settings in which no field is given. -/
def defaults : Settings := ⟨"", true, true, true, .off⟩

theorem IsSection.ofPayload_eq {payload value : Json} (part : IsSection payload value) :
    ofPayload (some payload) = (ofSection? value).getD defaults := by
  rw [← (isSection_iff payload value).mp part]
  rfl

theorem isSection_membersOf (items : List Json) :
    IsSection (.object (membersOf items)) (.object (membersOf items)) := by
  refine .inr ⟨rfl, ?_⟩
  intro members same found
  cases same
  obtain ⟨row, here, wrapped⟩ := List.mem_map.mp found
  have known : row.1 ∈ knownFields.map Prod.fst := (List.of_mem_zip here).1
  -- no known field has the name of the section
  rw [wrapped] at known
  revert known
  decide

theorem IsSection.givenBy {payload : Json} {members : List (String × Json)}
    (part : IsSection payload (.object members)) (typed : WellTyped members) :
    GivenBy members (ofPayload (some payload)) := by
  obtain ⟨settings, given⟩ := (wellTyped_iff members).mp typed
  have read : ofSection? (.object members) = some settings :=
    (ofFields?_eq_some_iff members settings).mpr given
  rw [part.ofPayload_eq, read]
  exact given

/-- One field of the wrong type is enough for the defaults. -/
theorem IsSection.eq_defaults {payload : Json} {members : List (String × Json)}
    (part : IsSection payload (.object members)) (mistyped : ¬ WellTyped members) :
    ofPayload (some payload) = defaults := by
  have unread : ofSection? (.object members) = none := by
    rw [Option.eq_none_iff_forall_ne_some]
    intro settings read
    exact mistyped ((wellTyped_iff members).mpr
      ⟨settings, (ofFields?_eq_some_iff members settings).mp read⟩)
  rw [part.ofPayload_eq, unread]
  rfl

/-- An object whose known fields all have their types is read field by field, and what else it holds
makes no difference; a short array is read as such an object; and everything else, be it for one
field only, gives the defaults in all fields. -/
theorem ofPayload_whole_or_default (payload : Json) :
    ∃ value, IsSection payload value ∧
      (∀ members, value = .object members → WellTyped members →
        GivenBy members (ofPayload (some payload))) ∧
      (∀ members other others, value = .object members → IsSection other (.object others) →
        (∀ name type, (name, type) ∈ knownFields →
          Json.member? name others = Json.member? name members) →
        ofPayload (some other) = ofPayload (some payload)) ∧
      (∀ members name type given, value = .object members → (name, type) ∈ knownFields →
        Json.member? name members = some given → ¬ type.Takes given →
        ofPayload (some payload) = defaults) ∧
      (∀ items, value = .array items → items.length ≤ 5 →
        ofPayload (some payload) = ofPayload (some (.object (membersOf items)))) ∧
      (∀ items, value = .array items → 5 < items.length →
        ofPayload (some payload) = defaults) ∧
      ((∀ members, value ≠ .object members) → (∀ items, value ≠ .array items) →
        ofPayload (some payload) = defaults) := by
  have part := (isSection_iff payload (sectionOf payload)).mpr rfl
  generalize sectionOf payload = value at part
  refine ⟨value, part, ?_, ?_, ?_, ?_, ?_, ?_⟩
  · intro members same typed
    subst same
    exact part.givenBy typed
  · intro members other others same otherPart agree
    subst same
    rw [part.ofPayload_eq, otherPart.ofPayload_eq]
    exact congrArg (Option.getD · defaults) (ofFields?_congr agree)
  · intro members name type given same known here mistyped
    subst same
    apply part.eq_defaults
    intro typed
    exact mistyped (typed name type known given here)
  · intro items same short
    subst same
    rw [part.ofPayload_eq, (isSection_membersOf items).ofPayload_eq, ofSection?_array short]
  · intro items same long
    subst same
    have unread : ofSection? (.array items) = none := if_neg (Nat.not_le_of_lt long)
    rw [part.ofPayload_eq, unread]
    rfl
  · intro notObject notArray
    rw [part.ofPayload_eq]
    cases value with
    | object members => exact absurd rfl (notObject members)
    | array items => exact absurd rfl (notArray items)
    | _ => rfl

example : ofPayload (some (.object [("showNamespaces", .bool false), ("catalogpath", .null),
    ("trace", .object [("basic", .null)])])) = { showNamespaces := false, trace := .basic } := by
  decide +kernel

/-- The third value is no Boolean, so the first two do not count either. -/
def mistypedArray : Json :=
  .object [("fluxonCompletion", .array [.string "c.json", .bool false, .string "yes"])]

theorem mistypedArray_reads_defaults : ofPayload (some mistypedArray) = defaults := by
  let items : List Json := [.string "c.json", .bool false, .string "yes"]
  obtain ⟨value, part, -, -, -, short, -⟩ := ofPayload_whole_or_default mistypedArray
  have array : value = .array items := ((isSection_iff _ _).mp part).symm
  obtain ⟨object, part, -, -, mistyped, -⟩ :=
    ofPayload_whole_or_default (.object (membersOf items))
  have members : object = .object (membersOf items) := ((isSection_iff _ _).mp part).symm
  have untaken : ¬ FieldType.flag.Takes (.string "yes") := by simp [FieldType.Takes]
  rw [short items array (by decide)]
  exact mistyped _ "showNamespaces" .flag _ members (by decide) rfl untaken

end Settings
end FluxonAssist
