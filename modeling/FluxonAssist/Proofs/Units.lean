import FluxonAssist.Text.Units

/-!
# Characters that fit into units

A number of leading characters fits into some room exactly if their units do. This fixes
`charsWithin`, and what else is known of it follows: it undoes the count of units, grows with the
room and goes on behind a text that fits.
-/
set_option autoImplicit false
namespace FluxonAssist.Text

theorem unitsOf_pos (c : Char) : 0 < unitsOf c := by
  unfold unitsOf
  split <;> omega

theorem units_append (front rest : List Char) :
    units (front ++ rest) = units front + units rest := by
  induction front with
  | nil => exact (Nat.zero_add _).symm
  | cons c front ih =>
      rw [List.cons_append, units, units, ih, Nat.add_assoc]

theorem units_take_le (count : Nat) (cs : List Char) : units (cs.take count) ≤ units cs := by
  have split := units_append (cs.take count) (cs.drop count)
  rw [List.take_append_drop] at split
  omega

theorem charsWithin_le (room : Nat) (cs : List Char) : charsWithin room cs ≤ cs.length := by
  induction cs generalizing room with
  | nil => exact Nat.le_refl 0
  | cons c rest ih =>
      have later := ih (room - unitsOf c)
      rw [charsWithin, List.length_cons]
      split <;> omega

/-- As many characters fit as have no more units than there is room for. -/
theorem le_charsWithin_iff (room : Nat) (cs : List Char) (count : Nat)
    (inside : count ≤ cs.length) :
    count ≤ charsWithin room cs ↔ units (cs.take count) ≤ room := by
  induction cs generalizing room count with
  | nil =>
      have none : count = 0 := Nat.le_zero.mp inside
      simp [none, units]
  | cons c rest ih =>
      cases count with
      | zero => simp [units]
      | succ count =>
          have later := ih (room - unitsOf c) count (by simpa using inside)
          rw [List.take_succ_cons, units, charsWithin]
          split
          · omega
          · omega

theorem units_take_charsWithin_le (room : Nat) (cs : List Char) :
    units (cs.take (charsWithin room cs)) ≤ room :=
  (le_charsWithin_iff room cs _ (charsWithin_le room cs)).mp (Nat.le_refl _)

theorem charsWithin_eq_length_iff (room : Nat) (cs : List Char) :
    charsWithin room cs = cs.length ↔ units cs ≤ room := by
  have all := le_charsWithin_iff room cs cs.length (Nat.le_refl _)
  rw [List.take_length] at all
  rw [← all]
  have within := charsWithin_le room cs
  omega

/-- Less room holds fewer characters exactly if some of them end between the two. -/
theorem charsWithin_lt_iff (less more : Nat) (cs : List Char) :
    charsWithin less cs < charsWithin more cs ↔
      ∃ count ≤ cs.length, less < units (cs.take count) ∧ units (cs.take count) ≤ more := by
  constructor
  · intro fewer
    have inside := charsWithin_le more cs
    refine ⟨charsWithin more cs, inside, ?_, units_take_charsWithin_le more cs⟩
    apply Nat.lt_of_not_le
    intro fits
    have reached := (le_charsWithin_iff less cs _ inside).mpr fits
    omega
  · intro found
    obtain ⟨count, inside, above, below⟩ := found
    have reached := (le_charsWithin_iff more cs count inside).mpr below
    apply Nat.lt_of_not_le
    intro enough
    have fits := (le_charsWithin_iff less cs count inside).mp (by omega)
    omega

theorem charsWithin_mono {less more : Nat} (ordered : less ≤ more) (cs : List Char) :
    charsWithin less cs ≤ charsWithin more cs := by
  apply Nat.le_of_not_lt
  intro fewer
  obtain ⟨count, -, above, below⟩ := (charsWithin_lt_iff more less cs).mp fewer
  omega

theorem charsWithin_append (front rest : List Char) (room : Nat) :
    charsWithin (units front + room) (front ++ rest) = front.length + charsWithin room rest := by
  induction front with
  | nil => rw [units, List.nil_append, List.length_nil, Nat.zero_add, Nat.zero_add]
  | cons c front ih =>
      have fits : unitsOf c ≤ units (c :: front) + room := by
        rw [units]
        omega
      have left : units (c :: front) + room - unitsOf c = units front + room := by
        rw [units]
        omega
      rw [List.cons_append, charsWithin, if_pos fits, left, ih, List.length_cons]
      omega

theorem charsWithin_zero (cs : List Char) : charsWithin 0 cs = 0 := by
  cases cs with
  | nil => rfl
  | cons c rest =>
      have positive := unitsOf_pos c
      rw [charsWithin, if_neg (by omega)]

theorem charsWithin_units_take (cs : List Char) (count : Nat) (inside : count ≤ cs.length) :
    charsWithin (units (cs.take count)) cs = count := by
  have split := charsWithin_append (cs.take count) (cs.drop count) 0
  rw [List.take_append_drop, charsWithin_zero, List.length_take, Nat.min_eq_left inside] at split
  exact split

/-- Room beyond a text does not reach into what follows it. -/
theorem charsWithin_min_units (room : Nat) (front rest : List Char) :
    charsWithin (min room (units front)) (front ++ rest) = charsWithin room front := by
  induction front generalizing room with
  | nil => rw [units, Nat.min_zero, charsWithin_zero, charsWithin]
  | cons c front ih =>
      rw [List.cons_append, charsWithin, charsWithin, units]
      by_cases fits : unitsOf c ≤ room
      · have left : min room (unitsOf c + units front) - unitsOf c =
            min (room - unitsOf c) (units front) := by omega
        rw [if_pos fits, if_pos (by omega), left, ih]
      · rw [if_neg fits, if_neg (by omega)]

end FluxonAssist.Text
