import Courier.Proofs.Results

namespace Courier

namespace Package

def isWithin (limit : UInt16) (package : Package) : Bool :=
  package.body.length ≤ limit.toNat

theorem Fits.length_le {limit : UInt16} {package : Package} (fits : package.Fits limit) :
    package.body.length ≤ limit.toNat := by
  have within := fits.within
  rw [UInt16.lt_iff_toNat_lt, fits.declared] at within
  exact Nat.not_lt.mp within

theorem isWithin_iff_fits {limit : UInt16} {package : Package}
    (declared : package.bodyLength.toNat = package.body.length) :
    package.isWithin limit = true ↔ package.Fits limit := by
  rw [isWithin, decide_eq_true_iff]
  refine ⟨fun within => ⟨declared, ?_⟩, Fits.length_le⟩
  rw [UInt16.lt_iff_toNat_lt, declared]
  exact Nat.not_lt.mpr within

theorem Fits.mono {limit larger : UInt16} {package : Package} (fits : package.Fits limit)
    (le : limit ≤ larger) : package.Fits larger := by
  refine (isWithin_iff_fits fits.declared).mp (decide_eq_true ?_)
  exact Nat.le_trans fits.length_le (UInt16.le_iff_toNat_le.mp le)

end Package

namespace Frame

open Package (wire encodeAll)

/-- Frames are read up to the first body over the limit. -/
theorem scan_wire_eq (limit : UInt16) {packages : List Package}
    (declared : ∀ package ∈ packages, package.bodyLength.toNat = package.body.length) :
    scan limit (wire packages) =
      (packages.takeWhile (·.isWithin limit),
        match packages.dropWhile (·.isWithin limit) with
        | [] => .incomplete
        | first :: _ => .oversized first.bodyLength) := by
  induction packages with
  | nil => exact scan_short (by decide)
  | cons package rest ih =>
    obtain ⟨here, later⟩ := List.forall_mem_cons.mp declared
    by_cases within : package.isWithin limit = true
    · have fits := (Package.isWithin_iff_fits here).mp within
      simp [scan_package fits, ih later, within]
    · have exceeds : limit < package.bodyLength := by
        refine Decidable.byContradiction fun fits => within ?_
        exact (Package.isWithin_iff_fits here).mpr ⟨here, fits⟩
      simp [Package.toBytes, List.append_assoc, scan_oversized exceeds, within]

theorem scan_wire_of_fits {limit : UInt16} {packages : List Package}
    (fits : ∀ package ∈ packages, package.Fits limit) :
    scan limit (wire packages) = (packages, .incomplete) := by
  have nothing : scan limit [] = ([], .incomplete) := scan_short (by decide)
  simpa [nothing] using scan_wire fits []

theorem wire_injective {first second : List Package}
    (firstDeclared : ∀ package ∈ first, package.bodyLength.toNat = package.body.length)
    (secondDeclared : ∀ package ∈ second, package.bodyLength.toNat = package.body.length)
    (same : wire first = wire second) : first = second := by
  -- the largest limit lets every declared length through
  have unlimited : ∀ package : Package, package.bodyLength.toNat = package.body.length →
      package.Fits 65535 := by
    intro package declared
    have bound := package.bodyLength.toNat_lt
    refine ⟨declared, ?_⟩
    rw [UInt16.lt_iff_toNat_lt]
    exact Nat.not_lt.mpr (Nat.le_of_lt_succ bound)
  have firstRead := scan_wire_of_fits fun package member =>
    unlimited package (firstDeclared package member)
  have secondRead := scan_wire_of_fits fun package member =>
    unlimited package (secondDeclared package member)
  rw [same, secondRead] at firstRead
  exact (congrArg Prod.fst firstRead).symm

/-- However the stream of a list of packages is cut into chunks, a decoder that is drained has given
the packages up to the first body over its limit. If there is none it is as it was at the start;
else it rejects that header and gives no package ever after. No other list has this stream. -/
theorem stream_round_trip {sendLimit : UInt16} {packages : List Package} {stream : Bytes}
    (encoded : encodeAll sendLimit packages = .ok stream) :
    (∀ (limit : UInt16) (operations : List Operation), fed operations = stream →
      let (decoder, answers) := (Decoder.ofLimit limit).operateAll operations
      drained answers = true →
        packagesIn answers.flatten = packages.takeWhile (·.isWithin limit) ∧
        (match packages.dropWhile (·.isWithin limit) with
        | [] => resultsIn answers.flatten = packages.map .ok ∧ decoder.standing = ⟨0, false, false⟩
        | first :: _ =>
          (∃ repeats, resultsIn answers.flatten =
            (packages.takeWhile (·.isWithin limit)).map .ok ++
              .error (.oversized first.bodyLength limit) ::
                List.replicate repeats (.error .corrupt)) ∧
          ∀ more, packagesIn (decoder.operateAll more).2.flatten = []) ∧
        (sendLimit ≤ limit → packagesIn answers.flatten = packages)) ∧
    ∀ (otherLimit : UInt16) (others : List Package),
      encodeAll otherLimit others = .ok stream → others = packages := by
  obtain ⟨fits, rfl⟩ := Package.encodeAll_eq_ok_iff.mp encoded
  have declared := fun package member => (fits package member).declared
  constructor
  · intro limit operations whole settled
    obtain ⟨accounts, rests, given, repeats, order⟩ := results_of_drained limit operations settled
    rw [whole] at accounts given order
    refine ⟨by rw [given, scan_wire_eq limit declared], ?_, ?_⟩
    · rw [scan_wire_eq limit declared] at accounts order
      have parts := packages.takeWhile_append_dropWhile (p := (·.isWithin limit))
      split
      · rename_i none
        rw [none, List.append_nil] at parts
        simp only [none, parts] at accounts order
        refine ⟨by simpa [Stop.faults] using order, ?_⟩
        obtain ⟨tail, split, faces⟩ := accounts.faces
        obtain rfl : tail = [] := by simpa using split
        exact faces.standing_eq rests
      · rename_i first rest beyond
        simp only [beyond] at accounts order
        refine ⟨⟨repeats, by simpa [Stop.faults] using order⟩, packagesIn_of_corrupt ?_⟩
        refine (accounts.corrupt_iff rests).mpr ⟨first.bodyLength, ?_⟩
        rw [scan_wire_eq limit declared, beyond]
    · intro le
      rw [given, scan_wire_of_fits fun package member => (fits package member).mono le]
  · intro otherLimit others same
    obtain ⟨otherFits, frames⟩ := Package.encodeAll_eq_ok_iff.mp same
    exact wire_injective (fun package member => (otherFits package member).declared) declared
      frames.symm

/-- The third body is over a limit of four bytes and looks like a frame. -/
def mixedPackages : List Package :=
  [⟨⟨1, 7, 2⟩, [65]⟩, ⟨⟨0, 1, 3⟩, []⟩, ⟨⟨5, 8, 1⟩, [0, 0, 0, 9, 1]⟩, ⟨⟨0, 2, 2⟩, []⟩]

/-- Their frames, cut inside headers and bodies and asked for now and then. -/
def mixedSchedule : List Operation :=
  [.feed [0, 1, 0] 1, .feed [7, 2, 65, 0, 0] 0, .pull, .feed [0, 1, 3, 0, 5] 2, .pull,
    .feed [0, 8, 1, 0, 0, 0] 0, .feed [9, 1, 0, 0, 0, 2, 2] 1, .pull]

theorem stream_round_trip_mixed_packages :
    encodeAll 9 mixedPackages = .ok (fed mixedSchedule) ∧
      let (decoder, answers) := (Decoder.ofLimit 4).operateAll mixedSchedule
      drained answers = true ∧
        packagesIn answers.flatten = mixedPackages.take 2 ∧
        (∃ repeats, resultsIn answers.flatten =
          (mixedPackages.take 2).map .ok ++
            .error (.oversized 5 4) :: List.replicate repeats (.error .corrupt)) ∧
        ∀ more, packagesIn (decoder.operateAll more).2.flatten = [] := by
  have encoded : encodeAll 9 mixedPackages = .ok (fed mixedSchedule) := rfl
  have settled : drained ((Decoder.ofLimit 4).operateAll mixedSchedule).2 = true := by decide
  obtain ⟨given, ⟨results, silent⟩, -⟩ := (stream_round_trip encoded).1 4 mixedSchedule rfl settled
  exact ⟨encoded, settled, given, results, silent⟩

/-- The header that has been accepted and whose body is incomplete, as it was fed. -/
def Decoder.headerHeld (decoder : Decoder) : Bytes :=
  match decoder.reader.stage with
  | .body header => header.toBytes
  | _ => []

theorem Decoder.length_headerHeld (decoder : Decoder) :
    decoder.headerHeld.length = if decoder.isMidFrame then Header.size else 0 := by
  unfold headerHeld isMidFrame Reader.isMidFrame
  split <;> simp_all

theorem Faces.split {limit : UInt16} {decoder : Decoder} {bytes : Bytes}
    (faces : Faces limit decoder bytes) (sound : decoder.isCorrupt = false) :
    bytes = decoder.headerHeld ++ decoder.buffer := by
  cases faces with
  | between | midFrame => rfl
  | corrupt => cases sound

theorem Faces.rejected {limit : UInt16} {decoder : Decoder} {bytes : Bytes}
    (faces : Faces limit decoder bytes) (corrupt : decoder.isCorrupt = true) :
    decoder.buffer = [] ∧
      ∃ header : Header, limit < header.bodyLength ∧ header.toBytes <+: bytes := by
  cases faces with
  | between | midFrame => cases corrupt
  | corrupt exceeds rest => exact ⟨rfl, _, exceeds, List.prefix_append _ _⟩

/-- The packages that a decoder has given can be encoded under its limit. Their frames, the header
that it holds and its buffer are all that it was fed; a corrupt decoder has dropped what came from
the header on that it rejects. -/
theorem bytes_conserved (limit : UInt16) (operations : List Operation) :
    let (decoder, answers) := (Decoder.ofLimit limit).operateAll operations
    let packages := packagesIn answers.flatten
    (∀ package ∈ packages, package.bodyLength.toNat = package.body.length ∧
      package.body.length ≤ limit.toNat ∧ package.encode limit = .ok package.toBytes) ∧
    ∃ frames, encodeAll limit packages = .ok frames ∧
      (decoder.isCorrupt = false →
        frames ++ decoder.headerHeld ++ decoder.buffer = fed operations ∧
          decoder.headerHeld.length = if decoder.isMidFrame then Header.size else 0) ∧
      (decoder.isCorrupt = true →
        decoder.pending = 0 ∧
          ∃ header : Header, limit < header.bodyLength ∧
            frames ++ header.toBytes <+: fed operations) := by
  have accounts := (record_operateAll limit operations).toAccounts
  obtain ⟨tail, split, faces⟩ := accounts.faces
  refine ⟨?_, _, Package.encodeAll_eq_ok_iff.mpr ⟨accounts.fits, rfl⟩, ?_, ?_⟩
  · intro package member
    have fits := accounts.fits package member
    exact ⟨fits.declared, fits.length_le, Package.encode_eq_ok_iff.mpr ⟨fits, rfl⟩⟩
  · intro sound
    refine ⟨?_, Decoder.length_headerHeld _⟩
    rw [List.append_assoc, ← faces.split sound, split]
  · intro corrupt
    obtain ⟨empty, header, exceeds, first⟩ := faces.rejected corrupt
    refine ⟨by rw [Decoder.pending, empty]; rfl, header, exceeds, ?_⟩
    rw [split]
    exact (List.prefix_append_right_inj _).mpr first

end Frame
end Courier
