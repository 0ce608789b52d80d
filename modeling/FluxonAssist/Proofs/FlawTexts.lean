import FluxonAssist.Catalog.Check

/-!
# The texts of flaws

Every flaw of a catalog document has a text of its own, whatever characters the names of the host
types have. The text is read from its end: the words for an entry's flaw have no colon, the digits
of an index have no bracket, and what is left is the name.
-/
set_option autoImplicit false
namespace FluxonAssist.Catalog

/-- A text has one last mark. -/
theorem eq_of_append_mark_eq {mark : Char} {front before back behind : List Char}
    (unmarked : mark ∉ back) (alsoUnmarked : mark ∉ behind)
    (same : front ++ mark :: back = before ++ mark :: behind) : front = before ∧ back = behind := by
  rcases List.append_eq_append_iff.mp same with ⟨middle, split, rest⟩ | ⟨middle, split, rest⟩
  · cases middle with
    | nil =>
        rw [List.append_nil] at split
        exact ⟨split.symm, (List.cons.inj rest).2⟩
    | cons c middle =>
        obtain ⟨rfl, rfl⟩ := List.cons.inj rest
        simp at unmarked
  · cases middle with
    | nil =>
        rw [List.append_nil] at split
        exact ⟨split, (List.cons.inj rest).2.symm⟩
    | cons c middle =>
        obtain ⟨rfl, rfl⟩ := List.cons.inj rest
        simp at alsoUnmarked

theorem EntryFlaw.message_plain (flaw : EntryFlaw) :
    ':' ∉ flaw.message.toList ∧ ']' ∉ flaw.message.toList ∧ 18 ≤ flaw.message.toList.length := by
  cases flaw <;> simp [EntryFlaw.message]

theorem EntryFlaw.message_injective {flaw other : EntryFlaw}
    (same : flaw.message = other.message) : flaw = other := by
  cases flaw <;> cases other <;> simp [EntryFlaw.message] at same ⊢

theorem toDigits_inj {m n : Nat} (same : Nat.toDigits 10 m = Nat.toDigits 10 n) : m = n := by
  have values := congrArg (fun digits => Nat.ofDigitChars 10 digits 0) same
  simpa using values

theorem not_mem_toDigits {c : Char} (other : c.isDigit = false) (n : Nat) :
    c ∉ Nat.toDigits 10 n := by
  intro member
  rw [Nat.isDigit_of_mem_toDigits (by omega) (by omega) member] at other
  cases other

namespace Flaw

theorem toList_message_systemEntry (index : Nat) (flaw : EntryFlaw) :
    (systemEntry index flaw).message.toList =
      "system[".toList ++ (Nat.toDigits 10 index ++ [']']) ++
        ':' :: ' ' :: flaw.message.toList := by
  show ("system[" ++ toString index ++ "]: " ++ flaw.message).toList = _
  simp

theorem toList_message_hostList (host : String) :
    (hostList host).message.toList =
      "extensions[".toList ++ (host.toList ++ "] must be an array".toList) := by
  show ("extensions[" ++ host ++ "] must be an array").toList = _
  simp

theorem toList_message_hostEntry (host : String) (index : Nat) (flaw : EntryFlaw) :
    (hostEntry host index flaw).message.toList =
      "extensions[".toList ++ (host.toList ++ [']'] ++ '[' :: Nat.toDigits 10 index ++ [']']) ++
        ':' :: ' ' :: flaw.message.toList := by
  show ("extensions[" ++ host ++ "][" ++ toString index ++ "]: " ++ flaw.message).toList = _
  simp

theorem entryFlaw_eq_of_texts {front before : List Char} {flaw other : EntryFlaw}
    (same : front ++ ':' :: ' ' :: flaw.message.toList =
      before ++ ':' :: ' ' :: other.message.toList) : front = before ∧ flaw = other := by
  have unmarked (flaw : EntryFlaw) : ':' ∉ ' ' :: flaw.message.toList := by
    simp [flaw.message_plain.1]
  obtain ⟨fronts, texts⟩ := eq_of_append_mark_eq (unmarked flaw) (unmarked other) same
  exact ⟨fronts, EntryFlaw.message_injective (String.toList_inj.mp (List.cons.inj texts).2)⟩

theorem systemEntry_eq_of_message {index position : Nat} {flaw other : EntryFlaw}
    (same : (systemEntry index flaw).message = (systemEntry position other).message) :
    systemEntry index flaw = systemEntry position other := by
  have texts := congrArg String.toList same
  rw [toList_message_systemEntry, toList_message_systemEntry] at texts
  obtain ⟨fronts, rfl⟩ := entryFlaw_eq_of_texts texts
  have digits := List.append_cancel_right (List.append_cancel_left fronts)
  rw [toDigits_inj digits]

theorem hostList_eq_of_message {host name : String}
    (same : (hostList host).message = (hostList name).message) : hostList host = hostList name := by
  have texts := congrArg String.toList same
  rw [toList_message_hostList, toList_message_hostList] at texts
  have names := List.append_cancel_right (List.append_cancel_left texts)
  rw [String.toList_inj.mp names]

theorem hostEntry_eq_of_message {host name : String} {index position : Nat}
    {flaw other : EntryFlaw}
    (same : (hostEntry host index flaw).message = (hostEntry name position other).message) :
    hostEntry host index flaw = hostEntry name position other := by
  have texts := congrArg String.toList same
  rw [toList_message_hostEntry, toList_message_hostEntry] at texts
  obtain ⟨fronts, rfl⟩ := entryFlaw_eq_of_texts texts
  -- the index has no bracket, so the last opening one divides it from the host's name
  obtain ⟨names, digits⟩ := eq_of_append_mark_eq (not_mem_toDigits rfl index)
    (not_mem_toDigits rfl position) (List.append_cancel_right (List.append_cancel_left fronts))
  rw [toDigits_inj digits, String.toList_inj.mp (List.append_cancel_right names)]

/-- The text of a host type without a list ends in a bracket and words that are shorter than the
text of any entry's flaw, which has no bracket. -/
theorem hostList_message_ne_hostEntry (host name : String) (index : Nat) (flaw : EntryFlaw) :
    (hostList host).message ≠ (hostEntry name index flaw).message := by
  intro same
  have texts := congrArg String.toList same
  rw [toList_message_hostList, toList_message_hostEntry] at texts
  obtain ⟨-, unbracketed, long⟩ := flaw.message_plain
  have words : "] must be an array".toList <:+
      "extensions[".toList ++ (host.toList ++ "] must be an array".toList) :=
    (List.suffix_append _ _).trans (List.suffix_append _ _)
  have reason : flaw.message.toList <:+
      "extensions[".toList ++ (host.toList ++ "] must be an array".toList) := by
    rw [texts]
    exact (List.suffix_append [':', ' '] _).trans (List.suffix_append _ _)
  have inside := List.suffix_of_suffix_length_le words reason (by simpa using long)
  exact unbracketed (inside.subset (by simp))

/-- The two characters that the text of a flaw starts with. -/
def opening : Flaw → List Char
  | .notAnObject => ['t', 'o']
  | .generatedAt => ['\x60', 'g']
  | .system => ['\x60', 's']
  | .systemEntry _ _ => ['s', 'y']
  | .extensions => ['\x60', 'e']
  | .hostList _ => ['e', 'x']
  | .hostEntry _ _ _ => ['e', 'x']

theorem take_message (flaw : Flaw) : flaw.message.toList.take 2 = flaw.opening := by
  cases flaw with
  | notAnObject => exact congrArg (List.take 2) String.toList_ofList
  | generatedAt => exact congrArg (List.take 2) String.toList_ofList
  | system => exact congrArg (List.take 2) String.toList_ofList
  | systemEntry index flaw =>
      rw [toList_message_systemEntry]
      simp [opening]
  | extensions => exact congrArg (List.take 2) String.toList_ofList
  | hostList host =>
      rw [toList_message_hostList]
      simp [opening]
  | hostEntry host index flaw =>
      rw [toList_message_hostEntry]
      simp [opening]

/-- Every flaw has a text of its own. -/
theorem message_injective {flaw other : Flaw} (same : flaw.message = other.message) :
    flaw = other := by
  have openings : flaw.opening = other.opening := by
    rw [← take_message, ← take_message, same]
  cases flaw with
  | notAnObject =>
      cases other with
      | notAnObject => rfl
      | _ => simp [opening] at openings
  | generatedAt =>
      cases other with
      | generatedAt => rfl
      | _ => simp [opening] at openings
  | system =>
      cases other with
      | system => rfl
      | _ => simp [opening] at openings
  | systemEntry index flaw =>
      cases other with
      | systemEntry position other => exact systemEntry_eq_of_message same
      | _ => simp [opening] at openings
  | extensions =>
      cases other with
      | extensions => rfl
      | _ => simp [opening] at openings
  | hostList host =>
      cases other with
      | hostList name => exact hostList_eq_of_message same
      | hostEntry name index flaw =>
          exact absurd same (hostList_message_ne_hostEntry host name index flaw)
      | _ => simp [opening] at openings
  | hostEntry host index flaw =>
      cases other with
      | hostList name =>
          exact absurd same.symm (hostList_message_ne_hostEntry name host index flaw)
      | hostEntry name position other => exact hostEntry_eq_of_message same
      | _ => simp [opening] at openings

end Flaw

end FluxonAssist.Catalog
