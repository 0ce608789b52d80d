import FluxonAssist.Proofs.ByteOrder
import FluxonAssist.Proofs.CatalogShape
import FluxonAssist.Proofs.FlawTexts

/-!
# The flaw that is named

The check stops at the first thing that is wrong. `FirstFlaw` says for each flaw which documents
have it first: the members are looked at in the order of time stamp, system functions and
extensions, the entries of a list from its start and the host types in ascending order. Since every
flaw has a text of its own, the text tells which entry is meant.
-/
set_option autoImplicit false
namespace FluxonAssist.Catalog

open FluxonAssist.Text

/-! ## Lists of entries -/

/-- The entry at the index has the flaw, and every entry before it passes. -/
structure FirstFlawed (entries : List Json) (index : Nat) (flaw : EntryFlaw) : Prop where
  flawed : ∃ entry, entries[index]? = some entry ∧ entryFlaw? entry = some flaw
  earlier : ∀ entry ∈ entries.take index, entryFlaw? entry = none

theorem firstFlawed_cons_zero (entry : Json) (rest : List Json) (flaw : EntryFlaw) :
    FirstFlawed (entry :: rest) 0 flaw ↔ entryFlaw? entry = some flaw := by
  constructor
  · intro first
    obtain ⟨other, found, flawed⟩ := first.flawed
    cases found
    exact flawed
  · intro flawed
    exact ⟨⟨entry, rfl, flawed⟩, List.forall_mem_nil _⟩

theorem firstFlawed_cons_succ (entry : Json) (rest : List Json) (index : Nat) (flaw : EntryFlaw) :
    FirstFlawed (entry :: rest) (index + 1) flaw ↔
      entryFlaw? entry = none ∧ FirstFlawed rest index flaw := by
  constructor
  · intro first
    obtain ⟨passes, earlier⟩ := List.forall_mem_cons.mp first.earlier
    exact ⟨passes, first.flawed, earlier⟩
  · intro both
    exact ⟨both.2.flawed, List.forall_mem_cons.mpr ⟨both.1, both.2.earlier⟩⟩

theorem firstFlaw?_eq_some_iff (first : Nat) (entries : List Json) (position : Nat)
    (flaw : EntryFlaw) :
    firstFlaw? first entries = some (position, flaw) ↔
      ∃ index, position = first + index ∧ FirstFlawed entries index flaw := by
  induction entries generalizing first with
  | nil =>
      refine iff_of_false (by simp [firstFlaw?]) ?_
      intro found
      obtain ⟨index, -, ⟨entry, listed, -⟩, -⟩ := found
      simp at listed
  | cons entry rest ih =>
      rw [firstFlaw?]
      cases checked : entryFlaw? entry with
      | some found =>
          constructor
          · intro same
            cases same
            exact ⟨0, rfl, (firstFlawed_cons_zero _ _ _).mpr checked⟩
          · intro named
            obtain ⟨index, rfl, flawed⟩ := named
            cases index with
            | zero =>
                have same := (firstFlawed_cons_zero _ _ _).mp flawed
                rw [checked] at same
                cases same
                rfl
            | succ index =>
                have passes := ((firstFlawed_cons_succ _ _ _ _).mp flawed).1
                rw [checked] at passes
                cases passes
      | none =>
          refine (ih (first + 1)).trans ?_
          constructor
          · intro named
            obtain ⟨index, rfl, flawed⟩ := named
            exact ⟨index + 1, by omega, (firstFlawed_cons_succ _ _ _ _).mpr ⟨checked, flawed⟩⟩
          · intro named
            obtain ⟨index, rfl, flawed⟩ := named
            cases index with
            | zero =>
                have found := (firstFlawed_cons_zero _ _ _).mp flawed
                rw [checked] at found
                cases found
            | succ index =>
                exact ⟨index, by omega, ((firstFlawed_cons_succ _ _ _ _).mp flawed).2⟩

theorem firstFlaw?_zero_iff (entries : List Json) (index : Nat) (flaw : EntryFlaw) :
    firstFlaw? 0 entries = some (index, flaw) ↔ FirstFlawed entries index flaw := by
  rw [firstFlaw?_eq_some_iff]
  simp

theorem firstFlaw?_eq_none_iff_pass (entries : List Json) :
    firstFlaw? 0 entries = none ↔ ∀ entry ∈ entries, entryFlaw? entry = none := by
  simp only [firstFlaw?_eq_none_iff, entryFlaw?_eq_none_iff]

/-! ## Host types -/

/-- The host type has a list, and every entry of it passes. -/
def HostPasses (hosts : List (String × Json)) (host : String) : Prop :=
  ∃ items, Json.member? host hosts = some (.array items) ∧ ∀ entry ∈ items, entryFlaw? entry = none

/-- What the check names of a host type that does not pass. -/
inductive HostFlaw (hosts : List (String × Json)) (host : String) : Flaw → Prop
  | list (unlisted : ∀ items, Json.member? host hosts ≠ some (.array items)) :
      HostFlaw hosts host (.hostList host)
  | entry {items : List Json} {index : Nat} {flaw : EntryFlaw}
      (listed : Json.member? host hosts = some (.array items))
      (first : FirstFlawed items index flaw) : HostFlaw hosts host (.hostEntry host index flaw)

theorem hostsFlaw?_cons (hosts : List (String × Json)) (host : String) (rest : List String) :
    (HostPasses hosts host ∧ hostsFlaw? hosts (host :: rest) = hostsFlaw? hosts rest) ∨
      ∃ flaw, HostFlaw hosts host flaw ∧ hostsFlaw? hosts (host :: rest) = some flaw := by
  rw [hostsFlaw?]
  cases read : (Json.member? host hosts).bind Json.asArray? with
  | none =>
      refine .inr ⟨_, .list ?_, rfl⟩
      intro items listed
      rw [(bind_asArray _ _).mpr listed] at read
      cases read
  | some items =>
      have listed := (bind_asArray _ _).mp read
      cases checked : firstFlaw? 0 items with
      | none =>
          refine .inl ⟨⟨items, listed, (firstFlaw?_eq_none_iff_pass items).mp checked⟩, ?_⟩
          simp [checked]
      | some found =>
          obtain ⟨index, flaw⟩ := found
          refine .inr ⟨_, .entry listed ((firstFlaw?_zero_iff _ _ _).mp checked), ?_⟩
          simp [checked]

theorem HostFlaw.not_passes {hosts : List (String × Json)} {host : String} {flaw : Flaw}
    (flawed : HostFlaw hosts host flaw) : ¬ HostPasses hosts host := by
  intro passes
  obtain ⟨items, listed, pass⟩ := passes
  cases flawed with
  | list unlisted => exact unlisted items listed
  | @entry others index flaw known first =>
      rw [listed] at known
      cases known
      obtain ⟨entry, found, bad⟩ := first.flawed
      rw [pass entry (List.mem_of_getElem? found)] at bad
      cases bad

theorem HostFlaw.unique {hosts : List (String × Json)} {host : String} {flaw other : Flaw}
    (first : HostFlaw hosts host flaw) (second : HostFlaw hosts host other) : flaw = other := by
  cases first with
  | list unlisted =>
      cases second with
      | list _ => rfl
      | entry listed _ => exact absurd listed (unlisted _)
  | @entry items index flaw listed found =>
      cases second with
      | list unlisted => exact absurd listed (unlisted _)
      | @entry others position other known again =>
          rw [listed] at known
          cases known
          have same := (firstFlaw?_zero_iff _ _ _).mpr found
          rw [(firstFlaw?_zero_iff _ _ _).mpr again] at same
          cases same
          rfl

/-- Of host types in ascending order, the first one that does not pass is named. -/
theorem hostsFlaw?_eq_some_iff (hosts : List (String × Json)) (names : List String)
    (ascends : names.Pairwise (· < ·)) (flaw : Flaw) :
    hostsFlaw? hosts names = some flaw ↔
      ∃ host ∈ names, HostFlaw hosts host flaw ∧
        ∀ other ∈ names, other < host → HostPasses hosts other := by
  induction names with
  | nil => simp [hostsFlaw?]
  | cons host rest ih =>
      obtain ⟨below, ascends⟩ := List.pairwise_cons.mp ascends
      rcases hostsFlaw?_cons hosts host rest with ⟨passes, same⟩ | ⟨found, flawed, same⟩
      · rw [same, ih ascends]
        constructor
        · intro named
          obtain ⟨later, member, flawedLater, before⟩ := named
          refine ⟨later, List.mem_cons_of_mem _ member, flawedLater, ?_⟩
          intro other known less
          rcases List.mem_cons.mp known with rfl | known
          · exact passes
          · exact before other known less
        · intro named
          obtain ⟨later, member, flawedLater, before⟩ := named
          rcases List.mem_cons.mp member with rfl | member
          · exact absurd passes flawedLater.not_passes
          · exact ⟨later, member, flawedLater,
              fun other known => before other (List.mem_cons_of_mem _ known)⟩
      · rw [same, Option.some.injEq]
        constructor
        · intro equal
          subst equal
          refine ⟨host, List.mem_cons_self, flawed, ?_⟩
          intro other known less
          rcases List.mem_cons.mp known with rfl | known
          · exact absurd less (String.lt_irrefl _)
          · exact absurd (String.lt_trans less (below other known)) (String.lt_irrefl _)
        · intro named
          obtain ⟨later, member, flawedLater, before⟩ := named
          rcases List.mem_cons.mp member with rfl | member
          · exact flawed.unique flawedLater
          · exact absurd (before host List.mem_cons_self (below later member)) flawed.not_passes

/-! ## Documents -/

/-- The members that are looked at before the entries of the system functions. -/
structure Opens (members : List (String × Json)) (entries : List Json) : Prop where
  stamped : ∃ stamp, Json.member? "generatedAt" members = some (.string stamp)
  system : Json.member? "system" members = some (.array entries)

/-- The members that are looked at before the entries of the host types. -/
structure OpensHosts (members hosts : List (String × Json)) : Prop where
  systemPasses : ∃ entries, Opens members entries ∧ ∀ entry ∈ entries, entryFlaw? entry = none
  extensions : Json.member? "extensions" members = some (.object hosts)

/-- The flaw that a document has first. -/
inductive FirstFlaw : Json → Flaw → Prop
  | notAnObject {document : Json} (other : ∀ members, document ≠ .object members) :
      FirstFlaw document .notAnObject
  | generatedAt {members : List (String × Json)}
      (unstamped : ∀ stamp, Json.member? "generatedAt" members ≠ some (.string stamp)) :
      FirstFlaw (.object members) .generatedAt
  | system {members : List (String × Json)} {stamp : String}
      (stamped : Json.member? "generatedAt" members = some (.string stamp))
      (unlisted : ∀ entries, Json.member? "system" members ≠ some (.array entries)) :
      FirstFlaw (.object members) .system
  | systemEntry {members : List (String × Json)} {entries : List Json} {index : Nat}
      {flaw : EntryFlaw} (opens : Opens members entries)
      (first : FirstFlawed entries index flaw) :
      FirstFlaw (.object members) (.systemEntry index flaw)
  | extensions {members : List (String × Json)} {entries : List Json}
      (opens : Opens members entries) (pass : ∀ entry ∈ entries, entryFlaw? entry = none)
      (other : ∀ hosts, Json.member? "extensions" members ≠ some (.object hosts)) :
      FirstFlaw (.object members) .extensions
  | host {members hosts : List (String × Json)} {host : String} {flaw : Flaw}
      (opens : OpensHosts members hosts) (known : host ∈ Json.keys hosts)
      (flawed : HostFlaw hosts host flaw)
      (before : ∀ other ∈ Json.keys hosts, other < host → HostPasses hosts other) :
      FirstFlaw (.object members) flaw

theorem any_asString_eq_false {value : Option Json} :
    value.any (fun v => v.asString?.isSome) = false ↔ ∀ s, value ≠ some (.string s) := by
  rw [← Bool.not_eq_true, any_asString, not_exists]

theorem bind_asArray_eq_none {value : Option Json} :
    value.bind Json.asArray? = none ↔ ∀ items, value ≠ some (.array items) := by
  simp only [Option.eq_none_iff_forall_ne_some, ne_eq, bind_asArray]

theorem bind_asObject_eq_none {value : Option Json} :
    value.bind Json.asObject? = none ↔ ∀ members, value ≠ some (.object members) := by
  simp only [Option.eq_none_iff_forall_ne_some, ne_eq, bind_asObject]

theorem keys_ascend (members : List (String × Json)) : (Json.keys members).Pairwise (· < ·) :=
  ascending_sorted _

/-- The check of a document from its system functions on. -/
theorem flaw?_of_opens {members : List (String × Json)} {entries : List Json}
    (opens : Opens members entries) :
    flaw? (.object members) =
      match firstFlaw? 0 entries with
      | some (index, flaw) => some (.systemEntry index flaw)
      | none =>
        match (Json.member? "extensions" members).bind Json.asObject? with
        | none => some .extensions
        | some hosts => hostsFlaw? hosts (Json.keys hosts) := by
  obtain ⟨stamp, stamped⟩ := opens.stamped
  simp only [flaw?, Json.asObject?, (any_asString _).mpr ⟨stamp, stamped⟩,
    (bind_asArray _ _).mpr opens.system]
  rfl

/-- The check of a document from its host types on. -/
theorem flaw?_of_opensHosts {members hosts : List (String × Json)}
    (opens : OpensHosts members hosts) :
    flaw? (.object members) = hostsFlaw? hosts (Json.keys hosts) := by
  obtain ⟨entries, opensSystem, pass⟩ := opens.systemPasses
  rw [flaw?_of_opens opensSystem, (firstFlaw?_eq_none_iff_pass entries).mpr pass,
    (bind_asObject _ _).mpr opens.extensions]

theorem FirstFlaw.flaw?_eq {document : Json} {flaw : Flaw} (first : FirstFlaw document flaw) :
    flaw? document = some flaw := by
  cases first with
  | notAnObject other =>
      cases document with
      | object members => exact absurd rfl (other members)
      | _ => rfl
  | generatedAt unstamped =>
      simp only [flaw?, Json.asObject?, any_asString_eq_false.mpr unstamped]
      rfl
  | system stamped unlisted =>
      simp only [flaw?, Json.asObject?, (any_asString _).mpr ⟨_, stamped⟩,
        bind_asArray_eq_none.mpr unlisted]
      rfl
  | systemEntry opens first =>
      rw [flaw?_of_opens opens, (firstFlaw?_zero_iff _ _ _).mpr first]
  | extensions opens pass other =>
      rw [flaw?_of_opens opens, (firstFlaw?_eq_none_iff_pass _).mpr pass,
        bind_asObject_eq_none.mpr other]
  | host opens known flawed before =>
      rw [flaw?_of_opensHosts opens]
      exact (hostsFlaw?_eq_some_iff _ _ (keys_ascend _) _).mpr ⟨_, known, flawed, before⟩

theorem flaw?_eq_none_or_firstFlaw (document : Json) :
    flaw? document = none ∨ ∃ flaw, FirstFlaw document flaw := by
  cases document with
  | object members =>
      by_cases stamped : ∃ stamp, Json.member? "generatedAt" members = some (.string stamp)
      · cases listed : (Json.member? "system" members).bind Json.asArray? with
        | none =>
            obtain ⟨stamp, stamped⟩ := stamped
            exact .inr ⟨_, .system stamped (bind_asArray_eq_none.mp listed)⟩
        | some entries =>
            have opens : Opens members entries := ⟨stamped, (bind_asArray _ _).mp listed⟩
            cases checked : firstFlaw? 0 entries with
            | some named =>
                exact .inr ⟨_, .systemEntry opens ((firstFlaw?_zero_iff _ _ _).mp checked)⟩
            | none =>
                have pass := (firstFlaw?_eq_none_iff_pass entries).mp checked
                cases grouped : (Json.member? "extensions" members).bind Json.asObject? with
                | none =>
                    exact .inr ⟨_, .extensions opens pass (bind_asObject_eq_none.mp grouped)⟩
                | some hosts =>
                    have opensHosts : OpensHosts members hosts :=
                      ⟨⟨entries, opens, pass⟩, (bind_asObject _ _).mp grouped⟩
                    rw [flaw?_of_opensHosts opensHosts]
                    cases found : hostsFlaw? hosts (Json.keys hosts) with
                    | none => exact .inl rfl
                    | some flaw =>
                        obtain ⟨host, known, flawed, before⟩ :=
                          (hostsFlaw?_eq_some_iff _ _ (keys_ascend _) _).mp found
                        exact .inr ⟨flaw, .host opensHosts known flawed before⟩
      · exact .inr ⟨_, .generatedAt fun stamp same => stamped ⟨stamp, same⟩⟩
  | _ => exact .inr ⟨_, .notAnObject (by simp)⟩

theorem flaw?_eq_some_iff (document : Json) (flaw : Flaw) :
    flaw? document = some flaw ↔ FirstFlaw document flaw := by
  constructor
  · intro found
    rcases flaw?_eq_none_or_firstFlaw document with passes | ⟨other, first⟩
    · rw [passes] at found
      cases found
    · rw [first.flaw?_eq] at found
      cases found
      exact first
  · exact FirstFlaw.flaw?_eq

/-! ## The named entry -/

/-- The document has its three members, and every host type has a list. -/
def HasLists (document : Json) : Prop :=
  ∃ members stamp entries hosts, document = .object members ∧
    Json.member? "generatedAt" members = some (.string stamp) ∧
    Json.member? "system" members = some (.array entries) ∧
    Json.member? "extensions" members = some (.object hosts) ∧
    ∀ host ∈ Json.keys hosts, ∃ items, Json.member? host hosts = some (.array items)

theorem map_message_eq_some_iff (document : Json) (flaw : Flaw) :
    (flaw? document).map Flaw.message = some flaw.message ↔ FirstFlaw document flaw := by
  rw [← flaw?_eq_some_iff, Option.map_eq_some_iff]
  constructor
  · intro named
    obtain ⟨other, found, same⟩ := named
    rw [found, Flaw.message_injective same]
  · intro found
    exact ⟨flaw, found, rfl⟩

theorem firstFlaw_systemEntry_iff (document : Json) (index : Nat) (flaw : EntryFlaw) :
    FirstFlaw document (.systemEntry index flaw) ↔
      ∃ members entries, document = .object members ∧ Opens members entries ∧
        FirstFlawed entries index flaw := by
  constructor
  · intro first
    cases first with
    | systemEntry opens first => exact ⟨_, _, rfl, opens, first⟩
    | host _ _ flawed _ => cases flawed
  · intro named
    obtain ⟨members, entries, rfl, opens, first⟩ := named
    exact .systemEntry opens first

theorem firstFlaw_hostEntry_iff (document : Json) (host : String) (index : Nat)
    (flaw : EntryFlaw) :
    FirstFlaw document (.hostEntry host index flaw) ↔
      ∃ members hosts items, document = .object members ∧ OpensHosts members hosts ∧
        (∀ other ∈ Json.keys hosts, octets other < octets host → HostPasses hosts other) ∧
        Json.member? host hosts = some (.array items) ∧ FirstFlawed items index flaw := by
  simp only [octets_lt_iff]
  constructor
  · intro first
    cases first with
    | host opens known flawed before =>
        cases flawed with
        | entry listed first => exact ⟨_, _, _, rfl, opens, before, listed, first⟩
  · intro named
    obtain ⟨members, hosts, items, rfl, opens, before, listed, first⟩ := named
    have known : host ∈ Json.keys hosts := by
      rw [mem_keys_iff]
      exact List.mem_map_of_mem (mem_of_member? listed)
    exact .host opens known (.entry listed first) before

/-- In a document that has its lists, only an entry can be flawed. -/
theorem FirstFlaw.names_entry {document : Json} {flaw : Flaw} (first : FirstFlaw document flaw)
    (lists : HasLists document) :
    (∃ index reason, flaw = .systemEntry index reason) ∨
      ∃ host index reason, flaw = .hostEntry host index reason := by
  obtain ⟨members, stamp, entries, hosts, rfl, stamped, system, extensions, listed⟩ := lists
  cases first with
  | notAnObject other => exact absurd rfl (other members)
  | generatedAt unstamped => exact absurd stamped (unstamped stamp)
  | system _ unlisted => exact absurd system (unlisted entries)
  | systemEntry _ _ => exact .inl ⟨_, _, rfl⟩
  | extensions _ _ other => exact absurd extensions (other hosts)
  | @host _ others host _ opens known flawed _ =>
      have same := opens.extensions
      rw [extensions] at same
      cases same
      cases flawed with
      | list unlisted =>
          obtain ⟨items, found⟩ := listed host known
          exact absurd found (unlisted items)
      | entry _ _ => exact .inr ⟨_, _, _, rfl⟩

/-- A document passes exactly if it has the shape of a catalog. The text `system[i]: r` is given
exactly if the system entry `i` has the flaw `r` and the ones before it pass; `extensions[h][i]: r`
exactly if the entry `i` of the host type `h` has the flaw `r` while all system entries, all host
types before `h` octet by octet and the earlier entries of `h` pass. A document with its lists in
place is rejected with such a text or not at all. -/
theorem check_names_first_flawed_entry (document : Json) :
    (flaw? document = none ↔ ∃ members generatedAt entries hosts,
      document = .object members ∧ Shape members generatedAt entries hosts) ∧
    (∀ (index : Nat) (flaw : EntryFlaw),
      (flaw? document).map Flaw.message =
          some ("system[" ++ toString index ++ "]: " ++ flaw.message) ↔
        ∃ members entries, document = .object members ∧ Opens members entries ∧
          FirstFlawed entries index flaw) ∧
    (∀ (host : String) (index : Nat) (flaw : EntryFlaw),
      (flaw? document).map Flaw.message =
          some ("extensions[" ++ host ++ "][" ++ toString index ++ "]: " ++ flaw.message) ↔
        ∃ members hosts items, document = .object members ∧ OpensHosts members hosts ∧
          (∀ other ∈ Json.keys hosts, octets other < octets host → HostPasses hosts other) ∧
          Json.member? host hosts = some (.array items) ∧ FirstFlawed items index flaw) ∧
    (HasLists document → flaw? document = none ∨
      (∃ (index : Nat) (flaw : EntryFlaw), (flaw? document).map Flaw.message =
        some ("system[" ++ toString index ++ "]: " ++ flaw.message)) ∨
      ∃ (host : String) (index : Nat) (flaw : EntryFlaw), (flaw? document).map Flaw.message =
        some ("extensions[" ++ host ++ "][" ++ toString index ++ "]: " ++ flaw.message)) := by
  refine ⟨flaw?_eq_none_iff document, ?_, ?_, ?_⟩
  · intro index flaw
    rw [← firstFlaw_systemEntry_iff, ← map_message_eq_some_iff]
    rfl
  · intro host index flaw
    rw [← firstFlaw_hostEntry_iff, ← map_message_eq_some_iff]
    rfl
  · intro lists
    cases found : flaw? document with
    | none => exact .inl rfl
    | some flaw =>
        have first := (flaw?_eq_some_iff document flaw).mp found
        rcases first.names_entry lists with ⟨index, reason, rfl⟩ | ⟨host, index, reason, rfl⟩
        · exact .inr (.inl ⟨index, reason, rfl⟩)
        · exact .inr (.inr ⟨host, index, reason, rfl⟩)

def soundEntry : Json :=
  .object [("name", .string "f"), ("namespace", .null), ("params", .array [countValue 1]),
    ("async", .bool true), ("primarySync", .bool false)]

/-- Two host types with flawed entries, of which the second comes first in ascending order. -/
def crossedHosts : List (String × Json) :=
  [("b", .array [.null]), ("a", .array [soundEntry, .null, .null])]

def crossedDocument : Json :=
  .object [("generatedAt", .string ""), ("system", .array [soundEntry]),
    ("extensions", .object crossedHosts)]

theorem crossedDocument_named :
    HasLists crossedDocument ∧
      (flaw? crossedDocument).map Flaw.message =
        some ("extensions[" ++ "a" ++ "][" ++ toString 1 ++ "]: " ++
          EntryFlaw.message .notAnObject) := by
  have keys : Json.keys crossedHosts = ["a", "b"] := by decide
  have sound : entryFlaw? soundEntry = none := by decide
  refine ⟨⟨_, _, _, crossedHosts, rfl, rfl, rfl, rfl, ?_⟩,
    ((check_names_first_flawed_entry crossedDocument).2.2.1 "a" 1 .notAnObject).mpr
      ⟨_, crossedHosts, _, rfl, ⟨⟨_, ⟨⟨"", rfl⟩, rfl⟩, ?_⟩, rfl⟩, ?_, rfl, ⟨.null, rfl, rfl⟩, ?_⟩⟩
  · rw [keys]
    simp [crossedHosts, Json.member?]
  · simpa using sound
  · intro other known less
    have none_below : ∀ name ∈ ["a", "b"], ¬ octets name < octets "a" := by decide
    rw [keys] at known
    exact absurd less (none_below other known)
  · simpa using sound

end FluxonAssist.Catalog
