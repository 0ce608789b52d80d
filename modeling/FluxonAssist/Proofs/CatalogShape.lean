import FluxonAssist.Catalog.Basic
import FluxonAssist.Catalog.Check
import FluxonAssist.Proofs.Ascending

/-!
# What the check of a catalog document accepts

The check takes an object as a map in which the last of repeated keys counts. `Declares` says in
those terms which function an entry stands for. An entry passes exactly if it declares a function
with counts below `2^32`, and a document passes exactly if it has its three members and all the
entries of all its lists pass.
-/
set_option autoImplicit false
namespace FluxonAssist.Catalog

def namespaceValue : Option String → Json
  | none => .null
  | some name => .string name

def countValue (n : Nat) : Json := .number (.natural n)

/-- The members, taken as a map, are those of the function. -/
structure EntryMembers (members : List (String × Json)) (f : FunctionEntry) : Prop where
  name : Json.member? "name" members = some (.string f.name)
  namespaceName : Json.member? "namespace" members = some (namespaceValue f.namespaceName)
  params : Json.member? "params" members = some (.array (f.params.map countValue))
  isAsync : Json.member? "async" members = some (.bool f.isAsync)
  primarySync : Json.member? "primarySync" members = some (.bool f.primarySync)
  bounded : ∀ n ∈ f.params, n < UInt32.size

/-- The value is an object that stands for the function, its counts as they are written. -/
def Declares (entry : Json) (f : FunctionEntry) : Prop :=
  ∃ members, entry = .object members ∧ EntryMembers members f

/-! ## The tests of the check -/

theorem any_asString (value : Option Json) :
    value.any (fun v => v.asString?.isSome) = true ↔ ∃ s, value = some (.string s) := by
  rcases value with _ | v
  · simp
  · cases v <;> simp [Json.asString?]

theorem any_asBool (value : Option Json) :
    value.any (fun v => v.asBool?.isSome) = true ↔ ∃ b, value = some (.bool b) := by
  rcases value with _ | v
  · simp
  · cases v <;> simp [Json.asBool?]

theorem any_isNamespace (value : Option Json) :
    value.any isNamespace = true ↔ ∃ name, value = some (namespaceValue name) := by
  rcases value with _ | v
  · simp
  · constructor
    · intro accepted
      cases v with
      | null => exact ⟨none, rfl⟩
      | string s => exact ⟨some s, rfl⟩
      | _ => simp [isNamespace] at accepted
    · rintro ⟨name, same⟩
      cases Option.some.inj same
      cases name <;> rfl

theorem bind_asArray (value : Option Json) (items : List Json) :
    value.bind Json.asArray? = some items ↔ value = some (.array items) := by
  rcases value with _ | v
  · simp
  · cases v <;> simp [Json.asArray?]

theorem bind_asObject (value : Option Json) (members : List (String × Json)) :
    value.bind Json.asObject? = some members ↔ value = some (.object members) := by
  rcases value with _ | v
  · simp
  · cases v <;> simp [Json.asObject?]

theorem isCount_iff (value : Json) :
    isCount value = true ↔ ∃ n < UInt32.size, value = countValue n := by
  constructor
  · intro accepted
    unfold isCount at accepted
    split at accepted
    · rename_i n read
      cases value with
      | number literal =>
          cases literal <;> simp [Json.asNat?] at read
          subst read
          exact ⟨_, by simpa using accepted, rfl⟩
      | _ => simp [Json.asNat?] at read
    · cases accepted
  · rintro ⟨n, small, rfl⟩
    simpa [isCount, countValue, Json.asNat?] using small

theorem all_isCount_iff (values : List Json) :
    values.all isCount = true ↔
      ∃ counts : List Nat, values = counts.map countValue ∧ ∀ n ∈ counts, n < UInt32.size := by
  induction values with
  | nil => simp
  | cons value rest ih =>
      rw [List.all_cons, Bool.and_eq_true, ih, isCount_iff]
      constructor
      · rintro ⟨⟨n, small, rfl⟩, counts, rfl, bounded⟩
        exact ⟨n :: counts, rfl, List.forall_mem_cons.mpr ⟨small, bounded⟩⟩
      · rintro ⟨counts, same, bounded⟩
        cases counts with
        | nil => simp at same
        | cons n counts =>
            obtain ⟨rfl, rfl⟩ := List.cons.inj same
            obtain ⟨small, bounded⟩ := List.forall_mem_cons.mp bounded
            exact ⟨⟨n, small, rfl⟩, counts, rfl, bounded⟩

theorem unless_eq_none {ε : Type} (test : Bool) (flaw : ε) (rest : Option ε) :
    (if !test then some flaw else rest) = none ↔ test = true ∧ rest = none := by
  cases test <;> simp

/-! ## What passes -/

/-- An entry passes the check exactly if it declares a function. -/
theorem entryFlaw?_eq_none_iff (entry : Json) :
    entryFlaw? entry = none ↔ ∃ f, Declares entry f := by
  constructor
  · intro passes
    cases entry with
    | object members =>
        simp only [entryFlaw?, Json.asObject?, unless_eq_none, any_asString, any_isNamespace]
          at passes
        obtain ⟨⟨name, named⟩, ⟨namespaceName, spaced⟩, passes⟩ := passes
        cases listed : (Json.member? "params" members).bind Json.asArray? with
        | none =>
            rw [listed] at passes
            cases passes
        | some params =>
            rw [listed] at passes
            simp only [unless_eq_none, all_isCount_iff, any_asBool] at passes
            obtain ⟨⟨counts, rfl, bounded⟩, ⟨isAsync, async⟩, ⟨primarySync, primary⟩, -⟩ := passes
            have listed := (bind_asArray _ _).mp listed
            exact ⟨{ name, namespaceName, params := counts, isAsync, primarySync }, members, rfl,
              named, spaced, listed, async, primary, bounded⟩
    | _ => simp [entryFlaw?, Json.asObject?] at passes
  · rintro ⟨f, members, rfl, declared⟩
    simp only [entryFlaw?, Json.asObject?, unless_eq_none, any_asString, any_isNamespace]
    refine ⟨⟨_, declared.name⟩, ⟨_, declared.namespaceName⟩, ?_⟩
    rw [(bind_asArray _ _).mpr declared.params]
    simp only [unless_eq_none, all_isCount_iff, any_asBool]
    exact ⟨⟨f.params, rfl, declared.bounded⟩, ⟨_, declared.isAsync⟩, ⟨_, declared.primarySync⟩,
      trivial⟩

theorem firstFlaw?_eq_none_iff (first : Nat) (entries : List Json) :
    firstFlaw? first entries = none ↔ ∀ entry ∈ entries, ∃ f, Declares entry f := by
  induction entries generalizing first with
  | nil => simp [firstFlaw?]
  | cons entry rest ih =>
      rw [List.forall_mem_cons, ← entryFlaw?_eq_none_iff, ← ih (first + 1), firstFlaw?]
      cases entryFlaw? entry <;> simp

/-- Every one of the hosts has a list, and every entry of it declares a function. -/
theorem hostsFlaw?_eq_none_iff (members : List (String × Json)) (hosts : List String) :
    hostsFlaw? members hosts = none ↔
      ∀ host ∈ hosts, ∃ items, Json.member? host members = some (.array items) ∧
        ∀ entry ∈ items, ∃ f, Declares entry f := by
  induction hosts with
  | nil => simp [hostsFlaw?]
  | cons host rest ih =>
      rw [List.forall_mem_cons, ← ih, hostsFlaw?]
      simp only [← bind_asArray, ← firstFlaw?_eq_none_iff 0]
      cases (Json.member? host members).bind Json.asArray? with
      | none => simp
      | some items => cases sound : firstFlaw? 0 items <;> simp [sound]

/-! ## Members of an object -/

theorem member?_append (key : String) (members others : List (String × Json)) :
    Json.member? key (members ++ others) =
      (Json.member? key others).or (Json.member? key members) := by
  induction members with
  | nil => simp [Json.member?]
  | cons member rest ih =>
      rw [List.cons_append, Json.member?, ih, Json.member?]
      cases Json.member? key others <;> simp

theorem member?_eq_none_iff (key : String) (members : List (String × Json)) :
    Json.member? key members = none ↔ key ∉ members.map Prod.fst := by
  induction members with
  | nil => simp [Json.member?]
  | cons member rest ih =>
      rw [List.map_cons, List.mem_cons, not_or, ← ih, Json.member?]
      cases Json.member? key rest with
      | none => simp [eq_comm]
      | some later => simp

theorem mem_of_member? {key : String} {value : Json} {members : List (String × Json)}
    (found : Json.member? key members = some value) : (key, value) ∈ members := by
  induction members with
  | nil => cases found
  | cons member rest ih =>
      rw [Json.member?] at found
      cases later : Json.member? key rest with
      | some v =>
          rw [later] at found
          exact List.mem_cons_of_mem _ (ih (later.trans found))
      | none =>
          rw [later] at found
          by_cases same : member.1 = key
          · simp only [same, if_true, Option.some.injEq] at found
            rw [← same, ← found]
            exact List.mem_cons_self
          · simp [same] at found

/-- Where no key is repeated, every member counts. -/
theorem member?_of_mem {key : String} {value : Json} {members : List (String × Json)}
    (distinct : (members.map Prod.fst).Nodup) (mem : (key, value) ∈ members) :
    Json.member? key members = some value := by
  induction members with
  | nil => cases mem
  | cons member rest ih =>
      obtain ⟨fresh, distinct⟩ := List.nodup_cons.mp distinct
      rw [Json.member?]
      rcases List.mem_cons.mp mem with rfl | mem
      · rw [(member?_eq_none_iff _ _).mpr fresh]
        simp
      · rw [ih distinct mem]

theorem mem_keys_iff (key : String) (members : List (String × Json)) :
    key ∈ Json.keys members ↔ key ∈ members.map Prod.fst := by
  rw [Json.keys, mem_ascending]

/-! ## Documents -/

/-- What the check reads of a document that passes. -/
structure Shape (members : List (String × Json)) (generatedAt : String) (entries : List Json)
    (hosts : List (String × Json)) : Prop where
  generatedAt : Json.member? "generatedAt" members = some (.string generatedAt)
  system : Json.member? "system" members = some (.array entries)
  systemEntries : ∀ entry ∈ entries, ∃ f, Declares entry f
  extensions : Json.member? "extensions" members = some (.object hosts)
  hostEntries : ∀ host ∈ Json.keys hosts, ∃ items,
    Json.member? host hosts = some (.array items) ∧ ∀ entry ∈ items, ∃ f, Declares entry f

theorem flaw?_eq_none_iff (document : Json) :
    flaw? document = none ↔ ∃ members generatedAt entries hosts,
      document = .object members ∧ Shape members generatedAt entries hosts := by
  constructor
  · intro passes
    cases document with
    | object members =>
        simp only [flaw?, Json.asObject?, unless_eq_none, any_asString] at passes
        obtain ⟨⟨generatedAt, stamped⟩, passes⟩ := passes
        cases system : (Json.member? "system" members).bind Json.asArray? with
        | none =>
            rw [system] at passes
            cases passes
        | some entries =>
            simp only [system] at passes
            cases sound : firstFlaw? 0 entries with
            | some flaw => simp [sound] at passes
            | none =>
                simp only [sound] at passes
                cases extensions : (Json.member? "extensions" members).bind Json.asObject? with
                | none =>
                    rw [extensions] at passes
                    cases passes
                | some hosts =>
                    rw [extensions] at passes
                    exact ⟨members, generatedAt, entries, hosts, rfl, stamped,
                      (bind_asArray _ _).mp system, (firstFlaw?_eq_none_iff _ _).mp sound,
                      (bind_asObject _ _).mp extensions, (hostsFlaw?_eq_none_iff _ _).mp passes⟩
    | _ => simp [flaw?, Json.asObject?] at passes
  · rintro ⟨members, generatedAt, entries, hosts, rfl, shape⟩
    simp only [flaw?, Json.asObject?, unless_eq_none, any_asString]
    refine ⟨⟨_, shape.generatedAt⟩, ?_⟩
    simp only [(bind_asArray _ _).mpr shape.system,
      (firstFlaw?_eq_none_iff 0 _).mpr shape.systemEntries,
      (bind_asObject _ _).mpr shape.extensions]
    exact (hostsFlaw?_eq_none_iff _ _).mpr shape.hostEntries

end FluxonAssist.Catalog
