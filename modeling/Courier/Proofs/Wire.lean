import Courier.Frame.Encoding

namespace Courier

theorem Bytes.ofWord_word (high low : UInt8) :
    Bytes.ofWord (Bytes.word high low) = [high, low] := by
  have highBound := high.toNat_lt
  have lowBound := low.toNat_lt
  have value : (Bytes.word high low).toNat = high.toNat * 256 + low.toNat := by
    simp only [Bytes.word, UInt16.toNat_ofNat']
    omega
  have upper : UInt8.ofNat ((Bytes.word high low).toNat / 256) = high := by
    apply UInt8.toNat_inj.mp
    simp only [UInt8.toNat_ofNat', value]
    omega
  have lower : (Bytes.word high low).toUInt8 = low := by
    apply UInt8.toNat_inj.mp
    simp only [UInt16.toNat_toUInt8, value]
    omega
  simp [Bytes.ofWord, upper, lower]

namespace Header

theorem read?_eq_some_iff {bytes rest : Bytes} {header : Header} :
    read? bytes = some (header, rest) ↔ bytes = header.toBytes ++ rest := by
  constructor
  · intro found
    unfold read? at found
    split at found
    · cases found
      simp [toBytes, Bytes.ofWord_word]
    · cases found
  · rintro rfl
    exact read?_toBytes_append header rest

theorem read?_eq_none_iff {bytes : Bytes} : read? bytes = none ↔ bytes.length < size := by
  unfold read?
  split
  · simp [size]
  · rename_i short
    simp only [size, true_iff]
    rcases bytes with _ | ⟨_, _ | ⟨_, _ | ⟨_, _ | ⟨_, _ | ⟨_, _⟩⟩⟩⟩⟩
    all_goals first
      | exact absurd rfl (short _ _ _ _ _ _)
      | simp

end Header

namespace Package

/-- The package keeps the length rules under a body limit. -/
structure Fits (limit : UInt16) (package : Package) : Prop where
  declared : package.bodyLength.toNat = package.body.length
  within : ¬ limit < package.bodyLength

/-- Cut at the declared length, the bytes from a body on are the body and what comes behind it. -/
theorem Fits.cut?_body {limit : UInt16} {package : Package} (fits : package.Fits limit)
    (rest : Bytes) :
    Bytes.cut? package.bodyLength.toNat (package.body ++ rest) = some (package.body, rest) :=
  Bytes.cut?_eq_some_iff.mpr ⟨rfl, fits.declared.symm⟩

theorem check_eq_ok_iff {limit : UInt16} {package : Package} :
    package.check limit = .ok () ↔ package.Fits limit := by
  unfold check
  split
  · rename_i differs
    simp only [reduceCtorEq, false_iff]
    exact fun fits => differs fits.declared
  · rename_i same
    split
    · rename_i exceeds
      simp only [reduceCtorEq, false_iff]
      exact fun fits => fits.within exceeds
    · rename_i within
      simp only [true_iff]
      exact ⟨Decidable.not_not.mp same, within⟩

theorem toBytes_ne_nil (package : Package) : package.toBytes ≠ [] := by
  intro empty
  have size := package.length_toBytes
  rw [empty, List.length_nil, frameLength, Header.size] at size
  omega

theorem encode_eq_ok_iff {limit : UInt16} {package : Package} {bytes : Bytes} :
    package.encode limit = .ok bytes ↔ package.Fits limit ∧ bytes = package.toBytes := by
  rw [← check_eq_ok_iff]
  cases checked : package.check limit with
  | error fault => simp [encode, checked, bind, Except.bind]
  | ok done => simp [encode, checked, bind, Except.bind, pure, Except.pure, eq_comm]

/-- A package is refused for its lengths and for nothing else. -/
theorem unencodable_of_check {limit : UInt16} {package : Package} {fault : Fault}
    (refused : package.check limit = .error fault) : ∃ refusal, fault = .unencodable refusal := by
  unfold check at refused
  split at refused
  · exact ⟨_, (Except.error.inj refused).symm⟩
  · split at refused
    · exact ⟨_, (Except.error.inj refused).symm⟩
    · cases refused

theorem unencodable_of_encode {limit : UInt16} {package : Package} {fault : Fault}
    (refused : package.encode limit = .error fault) : ∃ refusal, fault = .unencodable refusal := by
  cases checked : package.check limit with
  | ok => simp [encode, checked, bind, Except.bind, pure, Except.pure] at refused
  | error reason =>
    have same : reason = fault := by simpa [encode, checked, bind, Except.bind] using refused
    exact unencodable_of_check (by rw [checked, same])

/-- The frames of packages one behind the other. -/
def wire (packages : List Package) : Bytes :=
  packages.flatMap toBytes

@[simp] theorem wire_nil : wire [] = [] := rfl

@[simp] theorem wire_cons (package : Package) (packages : List Package) :
    wire (package :: packages) = package.toBytes ++ wire packages := rfl

@[simp] theorem wire_append (first second : List Package) :
    wire (first ++ second) = wire first ++ wire second := by
  simp [wire]

theorem length_wire (packages : List Package) :
    (wire packages).length = (packages.map frameLength).foldr (· + ·) 0 := by
  induction packages with
  | nil => rfl
  | cons package rest ih => simp [wire_cons, ih]

/-- Every frame has at least a header. -/
theorem size_mul_length_le_length_wire (packages : List Package) :
    Header.size * packages.length ≤ (wire packages).length := by
  induction packages with
  | nil => exact Nat.zero_le _
  | cons package rest ih =>
    simp only [List.length_cons, Nat.mul_succ, wire_cons, List.length_append, length_toBytes,
      frameLength]
    omega

/-- Encode packages one behind the other; one that is refused refuses them all. -/
def encodeAll (limit : UInt16) : List Package → Except Fault Bytes
  | [] => .ok []
  | package :: rest => do
    let frame ← package.encode limit
    let frames ← encodeAll limit rest
    return frame ++ frames

theorem encodeAll_eq_ok_iff {limit : UInt16} {packages : List Package} {bytes : Bytes} :
    encodeAll limit packages = .ok bytes ↔
      (∀ package ∈ packages, package.Fits limit) ∧ bytes = wire packages := by
  induction packages generalizing bytes with
  | nil => simp [encodeAll, eq_comm]
  | cons package rest ih =>
    cases first : package.encode limit with
    | error fault =>
      have misfit : ¬ package.Fits limit := by
        intro fits
        rw [encode_eq_ok_iff.mpr ⟨fits, rfl⟩] at first
        cases first
      simp [encodeAll, first, bind, Except.bind, misfit]
    | ok frame =>
      obtain ⟨fits, rfl⟩ := encode_eq_ok_iff.mp first
      cases others : encodeAll limit rest with
      | error fault =>
        have misfit : ¬ ∀ other ∈ rest, other.Fits limit := by
          intro all
          rw [ih.mpr ⟨all, rfl⟩] at others
          cases others
        simp [encodeAll, first, others, bind, Except.bind, misfit]
      | ok frames =>
        obtain ⟨all, rfl⟩ := ih.mp others
        have whole := List.forall_mem_cons.mpr ⟨fits, all⟩
        have joined : encodeAll limit (package :: rest) = .ok (wire (package :: rest)) := by
          simp [encodeAll, first, others, bind, Except.bind, pure, Except.pure]
        simp only [joined, Except.ok.injEq]
        exact ⟨fun same => ⟨whole, same.symm⟩, fun ⟨_, same⟩ => same.symm⟩

end Package
end Courier
