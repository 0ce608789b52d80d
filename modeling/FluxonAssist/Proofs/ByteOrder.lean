import FluxonAssist.Text.Octets

/-!
# Texts compared octet by octet

The UTF-8 octets of texts, compared octet by octet, are ordered as the texts are ordered by their
characters: a character that needs more octets has a greater leading one, and among those of one
width the octets are the digits of the character's number.
-/
set_option autoImplicit false
namespace FluxonAssist.Text

def octets (text : String) : List Nat := text.toList.flatMap octetsOf

theorem octetsOf_cases (c : Char) :
    (c.toNat < 0x80 ∧ octetsOf c = [c.toNat]) ∨
    (0x80 ≤ c.toNat ∧ c.toNat < 0x800 ∧
      octetsOf c = [0xC0 + c.toNat / 0x40, 0x80 + c.toNat % 0x40]) ∨
    (0x800 ≤ c.toNat ∧ c.toNat < 0x10000 ∧
      octetsOf c =
        [0xE0 + c.toNat / 0x1000, 0x80 + c.toNat / 0x40 % 0x40, 0x80 + c.toNat % 0x40]) ∨
    (0x10000 ≤ c.toNat ∧
      octetsOf c =
        [0xF0 + c.toNat / 0x40000, 0x80 + c.toNat / 0x1000 % 0x40, 0x80 + c.toNat / 0x40 % 0x40,
          0x80 + c.toNat % 0x40]) := by
  by_cases one : c.toNat < 0x80
  · exact .inl ⟨one, by simp only [octetsOf, if_pos one]⟩
  by_cases two : c.toNat < 0x800
  · exact .inr (.inl ⟨by omega, two, by simp only [octetsOf, if_neg one, if_pos two]⟩)
  by_cases three : c.toNat < 0x10000
  · refine .inr (.inr (.inl ⟨by omega, three, ?_⟩))
    simp only [octetsOf, if_neg one, if_neg two, if_pos three]
  · refine .inr (.inr (.inr ⟨by omega, ?_⟩))
    simp only [octetsOf, if_neg one, if_neg two, if_neg three]

theorem octetsOf_ne_nil (c : Char) : octetsOf c ≠ [] := by
  rcases octetsOf_cases c with ⟨-, same⟩ | ⟨-, -, same⟩ | ⟨-, -, same⟩ | ⟨-, same⟩ <;>
    rw [same] <;> exact List.cons_ne_nil _ _

/-- The octets of two characters decide the order, whatever follows them. -/
theorem octetsOf_lt {c d : Char} (less : c.toNat < d.toNat) (rest others : List Nat) :
    octetsOf c ++ rest < octetsOf d ++ others := by
  rcases octetsOf_cases c with
      ⟨low, first⟩ | ⟨low, high, first⟩ | ⟨low, high, first⟩ | ⟨low, first⟩ <;>
    rcases octetsOf_cases d with
      ⟨base, second⟩ | ⟨base, top, second⟩ | ⟨base, top, second⟩ | ⟨base, second⟩ <;>
    (rw [first, second]
     simp only [List.cons_append, List.nil_append, List.cons_lt_cons_iff]
     omega)

theorem append_lt_append_iff (front rest others : List Nat) :
    front ++ rest < front ++ others ↔ rest < others := by
  induction front with
  | nil => exact Iff.rfl
  | cons octet front ih =>
      rw [List.cons_append, List.cons_append, List.cons_lt_cons_iff, ih]
      simp

theorem flatMap_octetsOf_lt_iff (cs ds : List Char) :
    cs.flatMap octetsOf < ds.flatMap octetsOf ↔ cs < ds := by
  induction cs generalizing ds with
  | nil =>
      cases ds with
      | nil => simp
      | cons d ds =>
          obtain ⟨octet, others, split⟩ := List.exists_cons_of_ne_nil (octetsOf_ne_nil d)
          rw [List.flatMap_nil, List.flatMap_cons, split]
          exact iff_of_true (List.nil_lt_cons _ _) (List.nil_lt_cons _ _)
  | cons c cs ih =>
      cases ds with
      | nil => exact iff_of_false (List.not_lt_nil _) (List.not_lt_nil _)
      | cons d ds =>
          rw [List.flatMap_cons, List.flatMap_cons, List.cons_lt_cons_iff]
          rcases Nat.lt_trichotomy c.toNat d.toNat with less | same | more
          · exact iff_of_true (octetsOf_lt less _ _) (.inl less)
          · obtain rfl : c = d := Char.toNat_inj.mp same
            rw [append_lt_append_iff, ih]
            simp
          · have reversed := octetsOf_lt more (ds.flatMap octetsOf) (cs.flatMap octetsOf)
            refine iff_of_false (List.lt_asymm reversed) ?_
            rintro (less | ⟨rfl, -⟩)
            · exact absurd less (Nat.lt_asymm more)
            · exact absurd more (Nat.lt_irrefl _)

theorem octets_lt_iff (a b : String) : octets a < octets b ↔ a < b :=
  flatMap_octetsOf_lt_iff a.toList b.toList

end FluxonAssist.Text
