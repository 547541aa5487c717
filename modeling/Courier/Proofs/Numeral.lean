import Courier.Numeral

namespace Courier.Numeral

/-- The text is one or more digits with this value, behind nothing or a plus sign. -/
def Spells (text : String) (number : Nat) : Prop :=
  ∃ digits : List Char, (text.toList = digits ∨ text.toList = '+' :: digits) ∧ digits ≠ [] ∧
    (∀ char ∈ digits, char.isDigit) ∧ Nat.ofDigitChars 10 digits 0 = number

variable {bound number : Nat} {digits : List Char} {text : String}

theorem le_ofDigitChars (digits : List Char) (start : Nat) :
    start ≤ Nat.ofDigitChars 10 digits start := by
  rw [Nat.ofDigitChars_eq_ofDigitChars_zero]
  exact Nat.le_trans (Nat.le_mul_of_pos_left _ (Nat.pow_pos (by decide))) (Nat.le_add_right _ _)

/-- Digits behind a number within the bound. What is over the bound stays over it. -/
theorem extend_eq_ok_iff {start : Nat} (within : start ≤ bound) :
    extend bound start digits = .ok number ↔
      (∀ char ∈ digits, char.isDigit) ∧ Nat.ofDigitChars 10 digits start = number ∧
        number ≤ bound := by
  induction digits generalizing start with
  | nil =>
    rw [extend, Nat.ofDigitChars_nil, Except.ok.injEq]
    exact ⟨fun same => ⟨nofun, same, same ▸ within⟩, fun ⟨_, same, _⟩ => same⟩
  | cons char digits ih =>
    rw [extend, digit?, List.forall_mem_cons, Nat.ofDigitChars_cons, Nat.mul_comm 10 start]
    by_cases digit : char.isDigit
    · rw [if_pos digit, and_iff_right digit]
      dsimp only
      split
      · rename_i exceeds
        have above := le_ofDigitChars digits (start * 10 + (char.toNat - '0'.toNat))
        simp only [reduceCtorEq, false_iff, not_and]
        rintro - rfl
        exact Nat.not_le.mpr (Nat.lt_of_lt_of_le exceeds above)
      · rename_i fits
        exact ih (Nat.not_lt.mp fits)
    · simp [digit]

theorem spells_of_unsigned (unsigned : ∀ rest, text.toList ≠ '+' :: rest) :
    Spells text number ↔ text.toList ≠ [] ∧ (∀ char ∈ text.toList, char.isDigit) ∧
      Nat.ofDigitChars 10 text.toList 0 = number := by
  constructor
  · rintro ⟨digits, same | signed, spelled⟩
    · rwa [same]
    · exact absurd signed (unsigned digits)
  · exact fun spelled => ⟨text.toList, .inl rfl, spelled⟩

theorem spells_of_signed (signed : text.toList = '+' :: digits) :
    Spells text number ↔ digits ≠ [] ∧ (∀ char ∈ digits, char.isDigit) ∧
      Nat.ofDigitChars 10 digits 0 = number := by
  constructor
  · rintro ⟨others, same | same, filled, all, value⟩
    · -- the sign is no digit
      rw [← same, signed] at all
      exact absurd (all '+' List.mem_cons_self) (by decide)
    · obtain rfl : digits = others := (List.cons.inj (signed.symm.trans same)).2
      exact ⟨filled, all, value⟩
  · exact fun spelled => ⟨digits, .inr signed, spelled⟩

/-- Reading succeeds exactly on the numerals that are within the bound, with their value. -/
theorem parse_eq_ok_iff : parse bound text = .ok number ↔ Spells text number ∧ number ≤ bound := by
  unfold parse
  split
  · rename_i empty
    simp [Spells, empty]
  · rename_i sign
    simp [spells_of_signed sign]
  · rename_i digits filled signed
    rw [extend_eq_ok_iff (Nat.zero_le _), spells_of_signed signed, and_assoc, and_assoc,
      and_iff_right filled]
  · rename_i filled notSign unsigned
    rw [extend_eq_ok_iff (Nat.zero_le _), spells_of_unsigned unsigned, and_assoc, and_assoc,
      and_iff_right filled]

theorem Spells.unique {other : Nat} (first : Spells text number) (second : Spells text other) :
    number = other := by
  have read := parse_eq_ok_iff.mpr ⟨first, Nat.le_max_left number other⟩
  rw [parse_eq_ok_iff.mpr ⟨second, Nat.le_max_right number other⟩] at read
  exact (Except.ok.inj read).symm

end Courier.Numeral
