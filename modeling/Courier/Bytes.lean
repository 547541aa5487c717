namespace Courier

abbrev Bytes := List UInt8

namespace Bytes

/-- Read the first `count` bytes onto `front`, which holds what came before in reverse. -/
def cutOnto (front : Bytes) : Nat → Bytes → Option (Bytes × Bytes)
  | 0, rest => some (front.reverse, rest)
  | _ + 1, [] => none
  | count + 1, byte :: rest => cutOnto (byte :: front) count rest

/-- The first `count` bytes and the rest, or nothing when there are fewer. -/
def cut? (count : Nat) (bytes : Bytes) : Option (Bytes × Bytes) :=
  cutOnto [] count bytes

theorem cutOnto_eq_some_iff {front bytes taken rest : Bytes} {count : Nat} :
    cutOnto front count bytes = some (taken, rest) ↔
      ∃ body, taken = front.reverse ++ body ∧ bytes = body ++ rest ∧ body.length = count := by
  induction count generalizing front bytes with
  | zero => simp [cutOnto, eq_comm]
  | succ count ih =>
    cases bytes with
    | nil =>
      simp only [cutOnto, reduceCtorEq, false_iff, not_exists, not_and]
      rintro body - split size
      cases body with
      | nil => simp at size
      | cons _ _ => simp at split
    | cons byte bytes =>
      rw [cutOnto, ih]
      constructor
      · rintro ⟨body, rfl, rfl, size⟩
        exact ⟨byte :: body, by simp, by simp, by simp [size]⟩
      · rintro ⟨body, rfl, split, size⟩
        cases body with
        | nil => simp at size
        | cons head tail =>
          obtain ⟨rfl, rfl⟩ := List.cons.inj split
          exact ⟨tail, by simp, rfl, by simpa using size⟩

theorem cut?_eq_some_iff {bytes body rest : Bytes} {count : Nat} :
    cut? count bytes = some (body, rest) ↔ bytes = body ++ rest ∧ body.length = count := by
  simp [cut?, cutOnto_eq_some_iff]

theorem cut?_eq_none_iff {bytes : Bytes} {count : Nat} :
    cut? count bytes = none ↔ bytes.length < count := by
  constructor
  · intro short
    apply Nat.lt_of_not_le
    intro enough
    have := cut?_eq_some_iff.mpr ⟨(List.take_append_drop count bytes).symm, List.length_take_of_le enough⟩
    simp [short] at this
  · intro short
    cases found : cut? count bytes with
    | none => rfl
    | some pair =>
      obtain ⟨split, size⟩ := cut?_eq_some_iff.mp found
      have := congrArg List.length split
      simp at this
      omega

/-- The word whose high byte comes first. -/
def word (high low : UInt8) : UInt16 :=
  UInt16.ofNat (high.toNat * 256 + low.toNat)

def ofWord (value : UInt16) : Bytes :=
  [UInt8.ofNat (value.toNat / 256), value.toUInt8]

theorem word_ofWord (value : UInt16) :
    word (UInt8.ofNat (value.toNat / 256)) value.toUInt8 = value := by
  apply UInt16.toNat_inj.mp
  have bound := value.toNat_lt
  simp only [word, UInt16.toNat_ofNat', UInt8.toNat_ofNat', UInt16.toNat_toUInt8]
  omega

end Bytes
end Courier
