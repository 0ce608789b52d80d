import FluxonAssist.Catalog.Parse
import FluxonAssist.Proofs.CatalogShape
import Mathlib.Data.List.Forall2
import Mathlib.Data.List.Nodup

/-!
# The decoder agrees with the check

The check takes an object as a map, the decoder reads its members one after the other. A field of
the decoder is filled from the only member of its key, and such a member is the one that counts in
the map. So a document that passes the check decodes, if it decodes, to the functions that its
entries declare. The hosts are the one place where a repeated key is accepted: the decoder keeps
the first place and the last list, and the last list is the one that was checked.
-/
set_option autoImplicit false
namespace FluxonAssist

namespace Json

mutual

/-- No object of the value repeats a key. -/
def noRepeats : Json → Bool
  | .array items => noneRepeats items
  | .object members => decide (members.map Prod.fst).Nodup && noMemberRepeats members
  | _ => true

def noneRepeats : List Json → Bool
  | [] => true
  | item :: rest => item.noRepeats && noneRepeats rest

def noMemberRepeats : List (String × Json) → Bool
  | [] => true
  | (_, value) :: rest => value.noRepeats && noMemberRepeats rest

end

theorem noRepeats_array_iff (items : List Json) :
    (Json.array items).noRepeats = true ↔ ∀ item ∈ items, item.noRepeats = true := by
  rw [noRepeats]
  induction items with
  | nil => simp [noneRepeats]
  | cons item rest ih => simp [noneRepeats, ih]

theorem noRepeats_object_iff (members : List (String × Json)) :
    (Json.object members).noRepeats = true ↔
      (members.map Prod.fst).Nodup ∧ ∀ member ∈ members, member.2.noRepeats = true := by
  have values : noMemberRepeats members = true ↔
      ∀ member ∈ members, member.2.noRepeats = true := by
    induction members with
    | nil => simp [noMemberRepeats]
    | cons member rest ih => simp [noMemberRepeats, ih]
  rw [noRepeats, Bool.and_eq_true, decide_eq_true_iff, values]

end Json

namespace Catalog

/-! ## Values -/

theorem decodeOptionalString_namespaceValue (name : Option String) :
    decodeOptionalString (namespaceValue name) = .ok name := by
  cases name <;> rfl

theorem decodeCount_countValue {n : Nat} (small : n < UInt32.size) :
    decodeCount (countValue n) = .ok n :=
  if_pos small

theorem decodeAll_ok_iff {α : Type} (item : Json → Decoded α) (values : List Json) (as : List α) :
    decodeAll item values = .ok as ↔
      List.Forall₂ (fun value a => item value = .ok a) values as := by
  induction values generalizing as with
  | nil => simp [decodeAll, eq_comm]
  | cons value rest ih =>
      rw [List.forall₂_cons_left_iff]
      cases first : item value with
      | error e => simp [decodeAll, first]
      | ok a =>
          cases others : decodeAll item rest with
          | error e => simp [decodeAll, first, others, ← ih]
          | ok as => simp [decodeAll, first, others, ← ih, eq_comm]

theorem exists_decodeAll {α : Type} (item : Json → Decoded α) (values : List Json)
    (each : ∀ value ∈ values, ∃ a, item value = .ok a) :
    ∃ as, decodeAll item values = .ok as := by
  induction values with
  | nil => exact ⟨[], rfl⟩
  | cons value rest ih =>
      obtain ⟨⟨a, first⟩, each⟩ := List.forall_mem_cons.mp each
      obtain ⟨as, others⟩ := ih each
      exact ⟨a :: as, by simp [decodeAll, first, others]⟩

theorem decodeList_countValues (counts : List Nat) (bounded : ∀ n ∈ counts, n < UInt32.size) :
    decodeList decodeCount (.array (counts.map countValue)) = .ok counts := by
  rw [decodeList, decodeAll_ok_iff, List.forall₂_map_left_iff, List.forall₂_same]
  intro n mem
  exact decodeCount_countValue (bounded n mem)

/-! ## One field -/

/-- The values of a key in document order. -/
def valuesOf (key : String) (members : List (String × Json)) : List Json :=
  members.filterMap fun member => if member.1 = key then some member.2 else none

theorem valuesOf_cons (key k : String) (value : Json) (rest : List (String × Json)) :
    valuesOf key ((k, value) :: rest) =
      if k = key then value :: valuesOf key rest else valuesOf key rest := by
  by_cases same : k = key <;> simp [valuesOf, same]

theorem member?_eq_getLast? (key : String) (members : List (String × Json)) :
    Json.member? key members = (valuesOf key members).getLast? := by
  induction members with
  | nil => rfl
  | cons member rest ih =>
      obtain ⟨k, value⟩ := member
      rw [Json.member?, ih, valuesOf_cons]
      by_cases same : k = key
      · rw [if_pos same, if_pos same, List.getLast?_cons]
        cases (valuesOf key rest).getLast? <;> rfl
      · rw [if_neg same, if_neg same]
        cases (valuesOf key rest).getLast? <;> rfl

theorem valuesOf_eq_nil_iff (key : String) (members : List (String × Json)) :
    valuesOf key members = [] ↔ Json.member? key members = none := by
  rw [member?_eq_getLast?, List.getLast?_eq_none_iff]

/-- Where no key is repeated, the value that counts is the only one. -/
theorem valuesOf_eq_singleton {key : String} {value : Json} {members : List (String × Json)}
    (distinct : (members.map Prod.fst).Nodup) (found : Json.member? key members = some value) :
    valuesOf key members = [value] := by
  induction members with
  | nil => cases found
  | cons member rest ih =>
      obtain ⟨k, v⟩ := member
      obtain ⟨fresh, distinct⟩ := List.nodup_cons.mp distinct
      by_cases same : k = key
      · subst same
        have nowhere := (valuesOf_eq_nil_iff _ _).mpr ((member?_eq_none_iff _ _).mpr fresh)
        rw [member?_eq_getLast?, valuesOf_cons, if_pos rfl, nowhere] at found
        cases Option.some.inj found
        rw [valuesOf_cons, if_pos rfl, nowhere]
        rfl
      · rw [member?_eq_getLast?, valuesOf_cons, if_neg same, ← member?_eq_getLast?] at found
        rw [valuesOf_cons, if_neg same, ih distinct found]

section Slots

variable {α : Type} (key : String) (decode : Json → Decoded α)

/-- One member turns a field that held `previous` into one that holds `next`. -/
def SlotStep (k : String) (value : Json) (previous next : Option α) : Prop :=
  if k = key then previous = none ∧ ∃ a, decode value = .ok a ∧ next = some a else next = previous

/-- All members turn a field that held `previous` into one that holds `next`: its key does not
stand among them, or it stands there once and the field was empty. -/
inductive SlotRead (members : List (String × Json)) : Option α → Option α → Prop
  | absent (held : Option α) (nowhere : valuesOf key members = []) : SlotRead members held held
  | found (value : Json) (a : α) (only : valuesOf key members = [value])
      (decoded : decode value = .ok a) : SlotRead members none (some a)

variable {key decode}

theorem slotRead_nil_iff (previous next : Option α) :
    SlotRead key decode [] previous next ↔ next = previous := by
  constructor
  · rintro (_ | ⟨value, a, only, _⟩)
    · rfl
    · cases only
  · rintro rfl
    exact .absent next rfl

theorem slotRead_cons_iff (k : String) (value : Json) (rest : List (String × Json))
    (previous next : Option α) :
    SlotRead key decode ((k, value) :: rest) previous next ↔
      ∃ middle, SlotStep key decode k value previous middle ∧
        SlotRead key decode rest middle next := by
  by_cases same : k = key
  · simp only [SlotStep, if_pos same]
    constructor
    · rintro (⟨_, nowhere⟩ | ⟨v, a, only, decoded⟩)
      · simp [valuesOf_cons, same] at nowhere
      · rw [valuesOf_cons, if_pos same] at only
        obtain ⟨rfl, nowhere⟩ := List.cons.inj only
        exact ⟨some a, ⟨rfl, a, decoded, rfl⟩, .absent _ nowhere⟩
    · rintro ⟨_, ⟨rfl, a, decoded, rfl⟩, read⟩
      cases read with
      | absent _ nowhere =>
          exact .found value a (by rw [valuesOf_cons, if_pos same, nowhere]) decoded
  · have values : valuesOf key ((k, value) :: rest) = valuesOf key rest := by
      rw [valuesOf_cons, if_neg same]
    simp only [SlotStep, if_neg same, exists_eq_left]
    constructor
    · rintro (⟨_, nowhere⟩ | ⟨v, a, only, decoded⟩)
      · exact .absent _ (values ▸ nowhere)
      · exact .found v a (values ▸ only) decoded
    · rintro (⟨_, nowhere⟩ | ⟨v, a, only, decoded⟩)
      · exact .absent _ (values.trans nowhere)
      · exact .found v a (values.trans only) decoded

/-- A field of an object that has its key holds the decoded value that counts. -/
theorem SlotRead.held {members : List (String × Json)} {value : Json} {next : Option α}
    (read : SlotRead key decode members none next)
    (counts : Json.member? key members = some value) :
    ∃ a, decode value = .ok a ∧ next = some a := by
  rw [member?_eq_getLast?] at counts
  cases read with
  | absent _ nowhere =>
      rw [nowhere] at counts
      cases counts
  | found v a only decoded =>
      rw [only] at counts
      cases Option.some.inj counts
      exact ⟨a, decoded, rfl⟩

theorem SlotRead.held_eq {members : List (String × Json)} {value : Json} {next : Option α} {a : α}
    (read : SlotRead key decode members none next)
    (counts : Json.member? key members = some value) (decoded : decode value = .ok a) :
    next = some a := by
  obtain ⟨b, same, holds⟩ := read.held counts
  cases decoded.symm.trans same
  exact holds

theorem SlotRead.of_distinct {members : List (String × Json)} {value : Json} {a : α}
    (distinct : (members.map Prod.fst).Nodup)
    (counts : Json.member? key members = some value) (decoded : decode value = .ok a) :
    SlotRead key decode members none (some a) :=
  .found value a (valuesOf_eq_singleton distinct counts) decoded

theorem once_ok_iff {β : Type} (previous : Option α) (value : Json) (store : α → β) (next : β) :
    once key previous decode value store = .ok next ↔
      previous = none ∧ ∃ a, decode value = .ok a ∧ next = store a := by
  cases previous with
  | some a => simp [once]
  | none => cases decoded : decode value <;> simp [once, decoded, Except.map, eq_comm]

end Slots

/-! ## The fields of a function -/

/-- Every field of a function is related to the same field after reading. -/
def EntryFields.Related
    (slot : {α : Type} → String → (Json → Decoded α) → Option α → Option α → Prop)
    (fields next : EntryFields) : Prop :=
  slot "name" decodeString fields.name next.name ∧
    slot "namespace" decodeOptionalString fields.namespaceName next.namespaceName ∧
    slot "params" (decodeList decodeCount) fields.params next.params ∧
    slot "async" decodeBool fields.isAsync next.isAsync ∧
    slot "primarySync" decodeBool fields.primarySync next.primarySync

theorem EntryFields.read_ok_iff (fields next : EntryFields) (k : String) (value : Json) :
    fields.read k value = .ok next ↔
      fields.Related (fun key decode => SlotStep key decode k value) next := by
  -- One case for each known key and one for all others; in each, the fields of other keys stay.
  cases fields
  cases next
  unfold EntryFields.read
  split_ifs <;>
    simp only [Related, SlotStep, once_ok_iff, EntryFields.mk.injEq, Except.ok.injEq] <;> grind

theorem EntryFields.readAll_ok_iff (fields next : EntryFields) (members : List (String × Json)) :
    fields.readAll members = .ok next ↔
      fields.Related (fun key decode => SlotRead key decode members) next := by
  induction members generalizing fields with
  | nil =>
      cases fields
      cases next
      simp [readAll, Related, slotRead_nil_iff, eq_comm]
  | cons member rest ih =>
      obtain ⟨k, value⟩ := member
      have first : fields.readAll ((k, value) :: rest) = .ok next ↔
          ∃ middle, fields.read k value = .ok middle ∧ middle.readAll rest = .ok next := by
        cases read : fields.read k value <;> simp [readAll, read]
      simp only [first, read_ok_iff, ih, Related, slotRead_cons_iff]
      constructor
      · rintro ⟨middle, ⟨name, namespaceName, params, isAsync, primarySync⟩,
          laterName, laterNamespace, laterParams, laterAsync, laterPrimary⟩
        exact ⟨⟨_, name, laterName⟩, ⟨_, namespaceName, laterNamespace⟩,
          ⟨_, params, laterParams⟩, ⟨_, isAsync, laterAsync⟩, ⟨_, primarySync, laterPrimary⟩⟩
      · rintro ⟨⟨_, name, laterName⟩, ⟨_, namespaceName, laterNamespace⟩,
          ⟨_, params, laterParams⟩, ⟨_, isAsync, laterAsync⟩, ⟨_, primarySync, laterPrimary⟩⟩
        exact ⟨⟨_, _, _, _, _⟩, ⟨name, namespaceName, params, isAsync, primarySync⟩,
          laterName, laterNamespace, laterParams, laterAsync, laterPrimary⟩

/-- The fields of a function whose namespace field was read as this. -/
def EntryFields.filled (f : FunctionEntry) (namespaceName : Option (Option String)) : EntryFields :=
  ⟨some f.name, namespaceName, some f.params, some f.isAsync, some f.primarySync⟩

theorem EntryFields.finish_ok_iff (fields : EntryFields) (f : FunctionEntry) :
    fields.finish = .ok f ↔
      ∃ namespaceName, fields = filled f namespaceName ∧
        namespaceName.getD none = f.namespaceName := by
  obtain ⟨name, namespaceName, params, isAsync, primarySync⟩ := fields
  cases f
  cases name <;> cases params <;> cases isAsync <;> cases primarySync <;>
    simp [finish, filled, required, bind, Except.bind, pure, Except.pure]
  tauto

theorem decodeEntry_object_ok_iff (members : List (String × Json)) (f : FunctionEntry) :
    decodeEntry (.object members) = .ok f ↔
      ∃ namespaceName, EntryFields.Related (fun key decode => SlotRead key decode members) {}
        (.filled f namespaceName) ∧ namespaceName.getD none = f.namespaceName := by
  simp only [← EntryFields.readAll_ok_iff]
  cases read : EntryFields.readAll {} members with
  | error e => simp [decodeEntry, read]
  | ok fields => simp [decodeEntry, read, EntryFields.finish_ok_iff]

/-- An entry that declares a function decodes to nothing else. -/
theorem Declares.eq_of_decodeEntry {entry : Json} {f g : FunctionEntry}
    (declared : Declares entry g) (decoded : decodeEntry entry = .ok f) : f = g := by
  obtain ⟨members, rfl, declared⟩ := declared
  obtain ⟨namespaceName, ⟨name, spaced, params, isAsync, primarySync⟩, given⟩ :=
    (decodeEntry_object_ok_iff members f).mp decoded
  have sameName : f.name = g.name := Option.some.inj (name.held_eq declared.name rfl)
  have sameNamespace : namespaceName = some g.namespaceName :=
    spaced.held_eq declared.namespaceName (decodeOptionalString_namespaceValue _)
  have sameParams : f.params = g.params :=
    Option.some.inj (params.held_eq declared.params (decodeList_countValues _ declared.bounded))
  have sameAsync : f.isAsync = g.isAsync :=
    Option.some.inj (isAsync.held_eq declared.isAsync rfl)
  have samePrimary : f.primarySync = g.primarySync :=
    Option.some.inj (primarySync.held_eq declared.primarySync rfl)
  rw [sameNamespace] at given
  cases f
  cases g
  simp_all

theorem Declares.decodeEntry_eq {entry : Json} {f : FunctionEntry} (declared : Declares entry f)
    (clean : entry.noRepeats = true) : decodeEntry entry = .ok f := by
  obtain ⟨members, rfl, declared⟩ := declared
  have distinct := ((Json.noRepeats_object_iff members).mp clean).1
  refine (decodeEntry_object_ok_iff members f).mpr ⟨some f.namespaceName, ⟨?_, ?_, ?_, ?_, ?_⟩, rfl⟩
  · exact .of_distinct distinct declared.name rfl
  · exact .of_distinct distinct declared.namespaceName (decodeOptionalString_namespaceValue _)
  · exact .of_distinct distinct declared.params (decodeList_countValues _ declared.bounded)
  · exact .of_distinct distinct declared.isAsync rfl
  · exact .of_distinct distinct declared.primarySync rfl

/-- A list whose entries all declare functions decodes to exactly these. -/
theorem declares_of_decodeList {items : List Json} {functions : List FunctionEntry}
    (declared : ∀ entry ∈ items, ∃ f, Declares entry f)
    (decoded : decodeList decodeEntry (.array items) = .ok functions) :
    List.Forall₂ Declares items functions := by
  have both := (List.forall₂_and_left _ _).mpr ⟨declared, (decodeAll_ok_iff _ _ _).mp decoded⟩
  refine both.imp ?_
  rintro entry f ⟨⟨g, declares⟩, decodes⟩
  rw [declares.eq_of_decodeEntry decodes]
  exact declares

theorem exists_decodeList {items : List Json} (declared : ∀ entry ∈ items, ∃ f, Declares entry f)
    (clean : (Json.array items).noRepeats = true) :
    ∃ functions, decodeList decodeEntry (.array items) = .ok functions := by
  refine exists_decodeAll decodeEntry items ?_
  intro entry mem
  obtain ⟨f, declares⟩ := declared entry mem
  exact ⟨f, declares.decodeEntry_eq ((Json.noRepeats_array_iff items).mp clean entry mem)⟩

/-! ## The lists of the hosts -/

theorem map_fst_setHost (host : String) (functions : List FunctionEntry)
    (read : List (String × List FunctionEntry)) :
    (setHost host functions read).map Prod.fst =
      if host ∈ read.map Prod.fst then read.map Prod.fst else read.map Prod.fst ++ [host] := by
  induction read with
  | nil => rfl
  | cons row rest ih =>
      by_cases same : row.1 = host
      · simp [setHost, same]
      · rw [setHost, if_neg same, List.map_cons, ih]
        by_cases later : host ∈ rest.map Prod.fst
        · simp [later]
        · simp [later, Ne.symm same]

theorem mem_setHost {host : String} {functions : List FunctionEntry}
    {read : List (String × List FunctionEntry)} {row : String × List FunctionEntry}
    (distinct : (read.map Prod.fst).Nodup) (mem : row ∈ setHost host functions read) :
    row = (host, functions) ∨ row ∈ read ∧ row.1 ≠ host := by
  induction read with
  | nil => exact Or.inl (List.mem_singleton.mp mem)
  | cons head rest ih =>
      obtain ⟨fresh, distinct⟩ := List.nodup_cons.mp distinct
      by_cases same : head.1 = host
      · rw [setHost, if_pos same] at mem
        rcases List.mem_cons.mp mem with rfl | mem
        · exact Or.inl rfl
        · refine Or.inr ⟨List.mem_cons_of_mem _ mem, ?_⟩
          intro again
          exact fresh (same.trans again.symm ▸ List.mem_map_of_mem mem)
      · rw [setHost, if_neg same] at mem
        rcases List.mem_cons.mp mem with rfl | mem
        · exact Or.inr ⟨List.mem_cons_self, same⟩
        · rcases ih distinct mem with here | ⟨mem, other⟩
          · exact Or.inl here
          · exact Or.inr ⟨List.mem_cons_of_mem _ mem, other⟩

/-- The lists read from the members: each host once, in the order of first occurrence, with the
list that counts for it. -/
structure HostsRead (members : List (String × Json)) (read : List (String × List FunctionEntry)) :
    Prop where
  order : read.map Prod.fst = (members.map Prod.fst).eraseDups
  distinct : (read.map Prod.fst).Nodup
  lists : ∀ row ∈ read, ∃ value,
    Json.member? row.1 members = some value ∧ decodeList decodeEntry value = .ok row.2

theorem HostsRead.setHost {members : List (String × Json)}
    {read : List (String × List FunctionEntry)} (before : HostsRead members read) (host : String)
    (value : Json) (functions : List FunctionEntry)
    (decoded : decodeList decodeEntry value = .ok functions) :
    HostsRead (members ++ [(host, value)]) (setHost host functions read) := by
  have known : host ∈ read.map Prod.fst ↔ host ∈ members.map Prod.fst := by
    rw [before.order, List.mem_eraseDups]
  constructor
  · rw [map_fst_setHost, List.map_append, List.map_singleton, eraseDups_snoc, ← before.order]
    by_cases present : host ∈ read.map Prod.fst
    · rw [if_pos present, if_pos (known.mp present)]
    · rw [if_neg present, if_neg (mt known.mpr present)]
  · rw [map_fst_setHost]
    by_cases present : host ∈ read.map Prod.fst
    · rw [if_pos present]
      exact before.distinct
    · rw [if_neg present, ← List.concat_eq_append]
      exact List.Nodup.concat present before.distinct
  · intro row mem
    rcases mem_setHost before.distinct mem with rfl | ⟨mem, other⟩
    · exact ⟨value, by simp [member?_append, Json.member?], decoded⟩
    · obtain ⟨v, counts, list⟩ := before.lists row mem
      exact ⟨v, by simp [member?_append, Json.member?, other.symm, counts], list⟩

theorem decodeHosts_hostsRead (members rest : List (String × Json))
    (read result : List (String × List FunctionEntry)) (before : HostsRead members read)
    (decoded : decodeHosts read rest = .ok result) : HostsRead (members ++ rest) result := by
  induction rest generalizing members read with
  | nil =>
      cases decoded
      rw [List.append_nil]
      exact before
  | cons member rest ih =>
      obtain ⟨host, value⟩ := member
      rw [decodeHosts] at decoded
      cases list : decodeList decodeEntry value with
      | error e => simp [list] at decoded
      | ok functions =>
          rw [list] at decoded
          have step := ih _ _ (before.setHost host value functions list) decoded
          rwa [List.append_assoc] at step

theorem exists_decodeHosts (members : List (String × Json))
    (read : List (String × List FunctionEntry))
    (each : ∀ member ∈ members, ∃ functions, decodeList decodeEntry member.2 = .ok functions) :
    ∃ result, decodeHosts read members = .ok result := by
  induction members generalizing read with
  | nil => exact ⟨read, rfl⟩
  | cons member rest ih =>
      obtain ⟨⟨functions, first⟩, each⟩ := List.forall_mem_cons.mp each
      obtain ⟨result, others⟩ := ih (setHost member.1 functions read) each
      exact ⟨result, by simp [decodeHosts, first, others]⟩

/-! ## The fields of a catalog -/

/-- Every field of a catalog is related to the same field after reading. -/
def CatalogFields.Related
    (slot : {α : Type} → String → (Json → Decoded α) → Option α → Option α → Prop)
    (fields next : CatalogFields) : Prop :=
  slot "generatedAt" decodeString fields.generatedAt next.generatedAt ∧
    slot "system" (decodeList decodeEntry) fields.system next.system ∧
    slot "extensions" decodeExtensions fields.extensions next.extensions

theorem CatalogFields.read_ok_iff (fields next : CatalogFields) (k : String) (value : Json) :
    fields.read k value = .ok next ↔
      fields.Related (fun key decode => SlotStep key decode k value) next := by
  cases fields
  cases next
  unfold CatalogFields.read
  split_ifs <;>
    simp only [Related, SlotStep, once_ok_iff, CatalogFields.mk.injEq, Except.ok.injEq] <;> grind

theorem CatalogFields.readAll_ok_iff (fields next : CatalogFields)
    (members : List (String × Json)) :
    fields.readAll members = .ok next ↔
      fields.Related (fun key decode => SlotRead key decode members) next := by
  induction members generalizing fields with
  | nil =>
      cases fields
      cases next
      simp [readAll, Related, slotRead_nil_iff, eq_comm]
  | cons member rest ih =>
      obtain ⟨k, value⟩ := member
      have first : fields.readAll ((k, value) :: rest) = .ok next ↔
          ∃ middle, fields.read k value = .ok middle ∧ middle.readAll rest = .ok next := by
        cases read : fields.read k value <;> simp [readAll, read]
      simp only [first, read_ok_iff, ih, Related, slotRead_cons_iff]
      constructor
      · rintro ⟨middle, ⟨stamp, system, extensions⟩, laterStamp, laterSystem, laterExtensions⟩
        exact ⟨⟨_, stamp, laterStamp⟩, ⟨_, system, laterSystem⟩, ⟨_, extensions, laterExtensions⟩⟩
      · rintro ⟨⟨_, stamp, laterStamp⟩, ⟨_, system, laterSystem⟩, ⟨_, extensions, laterExtensions⟩⟩
        exact ⟨⟨_, _, _⟩, ⟨stamp, system, extensions⟩, laterStamp, laterSystem, laterExtensions⟩

theorem CatalogFields.finish_ok_iff (fields : CatalogFields) (c : Catalog) :
    fields.finish = .ok c ↔ fields = ⟨some c.generatedAt, some c.system, some c.extensions⟩ := by
  obtain ⟨generatedAt, system, extensions⟩ := fields
  cases c
  cases generatedAt <;> cases system <;> cases extensions <;>
    simp [finish, required, bind, Except.bind, pure, Except.pure]

theorem decode_object_ok_iff (members : List (String × Json)) (c : Catalog) :
    decode (.object members) = .ok c ↔
      CatalogFields.Related (fun key decode => SlotRead key decode members) {}
        ⟨some c.generatedAt, some c.system, some c.extensions⟩ := by
  rw [← CatalogFields.readAll_ok_iff, decode]
  cases CatalogFields.readAll {} members with
  | error e => simp
  | ok fields => simp [CatalogFields.finish_ok_iff]

/-! ## Documents that pass the check -/

section
variable {members hosts : List (String × Json)} {generatedAt : String} {entries : List Json}

theorem Shape.decoded (shape : Shape members generatedAt entries hosts) {c : Catalog}
    (decoded : decode (.object members) = .ok c) :
    c.generatedAt = generatedAt ∧ List.Forall₂ Declares entries c.system ∧
      HostsRead hosts c.extensions := by
  obtain ⟨stamp, system, extensions⟩ := (decode_object_ok_iff members c).mp decoded
  have sameStamp := Option.some.inj (stamp.held_eq shape.generatedAt rfl)
  obtain ⟨functions, readSystem, holdsSystem⟩ := system.held shape.system
  obtain ⟨lists, readHosts, holdsHosts⟩ := extensions.held shape.extensions
  cases Option.some.inj holdsSystem
  cases Option.some.inj holdsHosts
  have nothingRead : HostsRead [] [] := ⟨rfl, List.nodup_nil, fun _ mem => nomatch mem⟩
  exact ⟨sameStamp, declares_of_decodeList shape.systemEntries readSystem,
    decodeHosts_hostsRead [] hosts [] _ nothingRead readHosts⟩

/-- The list of a host holds the functions declared in the list that counts for it. -/
theorem Shape.host_declares (shape : Shape members generatedAt entries hosts)
    {read : List (String × List FunctionEntry)} (hostsRead : HostsRead hosts read)
    {row : String × List FunctionEntry} (mem : row ∈ read) :
    ∃ items, Json.member? row.1 hosts = some (.array items) ∧
      List.Forall₂ Declares items row.2 := by
  obtain ⟨value, counts, decoded⟩ := hostsRead.lists row mem
  have known : row.1 ∈ Json.keys hosts :=
    (mem_keys_iff _ _).mpr (List.mem_map_of_mem (mem_of_member? counts))
  obtain ⟨items, list, declared⟩ := shape.hostEntries row.1 known
  cases Option.some.inj (counts.symm.trans list)
  exact ⟨items, list, declares_of_decodeList declared decoded⟩

/-- A document that passes the check and repeats no key decodes. -/
theorem Shape.exists_decode (shape : Shape members generatedAt entries hosts)
    (clean : (Json.object members).noRepeats = true) :
    ∃ c, decode (.object members) = .ok c := by
  obtain ⟨distinct, cleanValues⟩ := (Json.noRepeats_object_iff members).mp clean
  obtain ⟨functions, system⟩ := exists_decodeList shape.systemEntries
    (cleanValues _ (mem_of_member? shape.system))
  obtain ⟨distinctHosts, cleanHosts⟩ := (Json.noRepeats_object_iff hosts).mp
    (cleanValues _ (mem_of_member? shape.extensions))
  have hostLists : ∀ member ∈ hosts, ∃ functions,
      decodeList decodeEntry member.2 = .ok functions := by
    intro member mem
    have known : member.1 ∈ Json.keys hosts :=
      (mem_keys_iff _ _).mpr (List.mem_map_of_mem mem)
    obtain ⟨items, list, declared⟩ := shape.hostEntries member.1 known
    have value := Option.some.inj ((member?_of_mem distinctHosts mem).symm.trans list)
    rw [value]
    exact exists_decodeList declared (value ▸ cleanHosts member mem)
  obtain ⟨lists, extensions⟩ := exists_decodeHosts hosts [] hostLists
  refine ⟨⟨generatedAt, functions, lists⟩, (decode_object_ok_iff members _).mpr ⟨?_, ?_, ?_⟩⟩
  · exact .of_distinct distinct shape.generatedAt rfl
  · exact .of_distinct distinct shape.system system
  · exact .of_distinct distinct shape.extensions extensions

end

end Catalog
end FluxonAssist
