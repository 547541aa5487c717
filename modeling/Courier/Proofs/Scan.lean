import Courier.Frame.Scan
import Courier.Proofs.Wire

namespace Courier.Frame

open Package (wire)

theorem scan_short {limit : UInt16} {bytes : Bytes} (short : bytes.length < Header.size) :
    scan limit bytes = ([], .incomplete) := by
  rw [scan]
  split
  · rfl
  · rename_i header rest found
    rw [Header.read?_eq_none_iff.mpr short] at found
    cases found

theorem scan_oversized {limit : UInt16} {header : Header} (exceeds : limit < header.bodyLength)
    (rest : Bytes) :
    scan limit (header.toBytes ++ rest) = ([], .oversized header.bodyLength) := by
  rw [scan]
  split
  · rename_i missing
    simp at missing
  · rename_i found
    simp only [Header.read?_toBytes_append, Option.some.injEq, Prod.mk.injEq] at found
    obtain ⟨rfl, rfl⟩ := found
    simp [exceeds]

theorem scan_unfinished {limit : UInt16} {header : Header} {rest : Bytes}
    (within : ¬ limit < header.bodyLength) (short : rest.length < header.bodyLength.toNat) :
    scan limit (header.toBytes ++ rest) = ([], .incomplete) := by
  rw [scan]
  split
  · rfl
  · rename_i found
    simp only [Header.read?_toBytes_append, Option.some.injEq, Prod.mk.injEq] at found
    obtain ⟨rfl, rfl⟩ := found
    rw [if_neg within]
    split
    · rfl
    · rename_i split
      rw [Bytes.cut?_eq_none_iff.mpr short] at split
      cases split

theorem scan_package {limit : UInt16} {package : Package} (fits : package.Fits limit)
    (rest : Bytes) :
    scan limit (package.toBytes ++ rest) =
      (package :: (scan limit rest).1, (scan limit rest).2) := by
  have cut := fits.cut?_body rest
  rw [Package.toBytes, List.append_assoc, scan]
  split
  · rename_i missing
    simp at missing
  · rename_i found
    simp only [Header.read?_toBytes_append, Option.some.injEq, Prod.mk.injEq] at found
    obtain ⟨rfl, rfl⟩ := found
    rw [if_neg fits.within]
    split
    · rename_i split
      rw [cut] at split
      cases split
    · rename_i split
      rw [cut] at split
      cases split
      rfl

theorem scan_wire {limit : UInt16} {packages : List Package}
    (fits : ∀ package ∈ packages, package.Fits limit) (rest : Bytes) :
    scan limit (wire packages ++ rest) =
      (packages ++ (scan limit rest).1, (scan limit rest).2) := by
  induction packages with
  | nil => rfl
  | cons package packages ih =>
    have first := fits package (by simp)
    have others := ih (fun other member => fits other (by simp [member]))
    rw [Package.wire_cons, List.append_assoc, scan_package first, others]
    rfl

/-- Every stream is the frames of the packages read from it, and a tail. -/
theorem scan_split (limit : UInt16) (bytes : Bytes) :
    ∃ tail, bytes = wire (scan limit bytes).1 ++ tail ∧
      (∀ package ∈ (scan limit bytes).1, package.Fits limit) ∧
      scan limit tail = ([], (scan limit bytes).2) := by
  fun_induction scan limit bytes with
  | case1 bytes missing =>
    refine ⟨bytes, rfl, by simp, ?_⟩
    exact scan_short (Header.read?_eq_none_iff.mp missing)
  | case2 bytes header rest found exceeds =>
    refine ⟨bytes, rfl, by simp, ?_⟩
    rw [Header.read?_eq_some_iff.mp found]
    exact scan_oversized exceeds rest
  | case3 bytes header rest found within short =>
    refine ⟨bytes, rfl, by simp, ?_⟩
    rw [Header.read?_eq_some_iff.mp found]
    exact scan_unfinished within (Bytes.cut?_eq_none_iff.mp short)
  | case4 bytes header rest found within body last cut packages stop result ih =>
    obtain ⟨tail, split, fits, ending⟩ := ih
    obtain ⟨whole, size⟩ := Bytes.cut?_eq_some_iff.mp cut
    rw [result] at split fits ending
    refine ⟨tail, ?_, ?_, ending⟩
    · rw [Header.read?_eq_some_iff.mp found, whole, split]
      simp [Package.toBytes]
    · intro package member
      rcases List.mem_cons.mp member with rfl | later
      · exact ⟨size.symm, within⟩
      · exact fits package later

/-- A reading that stops at a header begins with it, once its packages are gone. -/
theorem header_of_scan_oversized {limit declared : UInt16} {bytes : Bytes}
    (stopped : scan limit bytes = ([], .oversized declared)) :
    ∃ (header : Header) (rest : Bytes), bytes = header.toBytes ++ rest ∧
      header.bodyLength = declared ∧ limit < header.bodyLength := by
  rw [scan] at stopped
  split at stopped
  · simp at stopped
  · rename_i header rest found
    split at stopped
    · rename_i exceeds
      simp only [Prod.mk.injEq, true_and, Stop.oversized.injEq] at stopped
      exact ⟨header, rest, Header.read?_eq_some_iff.mp found, stopped, exceeds⟩
    · split at stopped <;> simp at stopped

/-- Nothing is read behind an oversized header. -/
theorem scan_append_oversized {limit declared : UInt16} {bytes : Bytes} (more : Bytes)
    (stopped : (scan limit bytes).2 = .oversized declared) :
    scan limit (bytes ++ more) = scan limit bytes := by
  obtain ⟨tail, split, fits, ending⟩ := scan_split limit bytes
  rw [stopped] at ending
  obtain ⟨header, rest, whole, same, exceeds⟩ := header_of_scan_oversized ending
  have later : scan limit (tail ++ more) = ([], .oversized declared) := by
    rw [whole, List.append_assoc, scan_oversized exceeds, same]
  calc scan limit (bytes ++ more)
      = scan limit (wire (scan limit bytes).1 ++ (tail ++ more)) := by
        rw [congrArg (· ++ more) split, List.append_assoc]
    _ = ((scan limit bytes).1, .oversized declared) := by
        rw [scan_wire fits, later, List.append_nil]
    _ = scan limit bytes := by rw [← stopped]

end Courier.Frame
