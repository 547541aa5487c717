import Courier.Proofs.RoundTrip

namespace Courier.Frame

open Package (wire)

variable {small large : UInt16}

theorem not_lt_of_le {header : Header} (ordered : small ≤ large)
    (within : ¬ small < header.bodyLength) : ¬ large < header.bodyLength :=
  fun exceeds => within (UInt16.lt_of_le_of_lt ordered exceeds)

theorem scan_dry_of_le {tail : Bytes} (ordered : small ≤ large)
    (dry : scan small tail = ([], .incomplete)) : scan large tail = ([], .incomplete) := by
  cases found : Header.read? tail with
  | none => exact scan_short (Header.read?_eq_none_iff.mp found)
  | some front =>
    obtain ⟨header, rest⟩ := front
    obtain rfl := Header.read?_eq_some_iff.mp found
    have within : ¬ small < header.bodyLength := by
      intro exceeds
      rw [scan_oversized exceeds] at dry
      cases dry
    cases cut : Bytes.cut? header.bodyLength.toNat rest with
    | none => exact scan_unfinished (not_lt_of_le ordered within) (Bytes.cut?_eq_none_iff.mp cut)
    | some parts =>
      obtain ⟨split, size⟩ := Bytes.cut?_eq_some_iff.mp cut
      have fits : Package.Fits small ⟨header, parts.1⟩ := ⟨size.symm, within⟩
      have whole : header.toBytes ++ rest = Package.toBytes ⟨header, parts.1⟩ ++ parts.2 := by
        simp [Package.toBytes, split]
      rw [whole, scan_package fits] at dry
      cases dry

/-- The larger limit reads the packages that the smaller one reads, and the same reading if the
smaller one rejects no header. -/
theorem scan_of_le (ordered : small ≤ large) (bytes : Bytes) :
    (scan small bytes).1 <+: (scan large bytes).1 ∧
      ((scan small bytes).2 = .incomplete → scan large bytes = scan small bytes) := by
  obtain ⟨tail, split, fits, rest⟩ := scan_split small bytes
  have larger : scan large bytes =
      ((scan small bytes).1 ++ (scan large tail).1, (scan large tail).2) := by
    rw [congrArg (scan large) split]
    exact scan_wire (fun package member => (fits package member).mono ordered) tail
  refine ⟨?_, fun complete => ?_⟩
  · rw [larger]
    exact List.prefix_append _ _
  · rw [complete] at rest
    rw [larger, scan_dry_of_le ordered rest, List.append_nil, ← complete]

theorem lt_of_scan_oversized {limit declared : UInt16} {bytes : Bytes}
    (stopped : (scan limit bytes).2 = .oversized declared) : limit < declared := by
  obtain ⟨tail, -, -, rest⟩ := scan_split limit bytes
  rw [stopped] at rest
  obtain ⟨header, -, -, rfl, exceeds⟩ := header_of_scan_oversized rest
  exact exceeds

theorem Standing.ofTail_of_le {tail : Bytes} (ordered : small ≤ large)
    (sound : (Standing.ofTail small tail).corrupt = false) :
    Standing.ofTail large tail = Standing.ofTail small tail := by
  unfold Standing.ofTail at sound ⊢
  split
  · rfl
  · rename_i header rest found
    rw [found] at sound
    dsimp only at sound ⊢
    split at sound
    · cases sound
    · rename_i within
      rw [if_neg within, if_neg (not_lt_of_le ordered within)]

/-- Two decoders read one stream, each in chunks of its own, until they are drained. The packages
under the smaller limit are the first of those under the larger one. If the smaller limit has not
made its decoder corrupt, both have given the same packages and show the same, neither corrupt.
If the larger limit has rejected a header, it declares more than that limit, and the decoder of the
smaller one is corrupt too. -/
theorem packages_monotone_in_limit (ordered : small ≤ large) {first second : List Operation}
    (stream : fed first = fed second) :
    let (smaller, fewer) := (Decoder.ofLimit small).operateAll first
    let (larger, more) := (Decoder.ofLimit large).operateAll second
    drained fewer = true → drained more = true →
      packagesIn fewer.flatten <+: packagesIn more.flatten ∧
        (smaller.isCorrupt = false →
          packagesIn fewer.flatten = packagesIn more.flatten ∧
            smaller.standing = larger.standing ∧ larger.isCorrupt = false) ∧
        ∀ declared limit, some (.error (.oversized declared limit)) ∈ more.flatten →
          smaller.isCorrupt = true ∧ large < declared := by
  intro smallerSettled largerSettled
  obtain ⟨fewer, smallerRests⟩ := (Ledger.start small).operateAll first
  obtain ⟨more, largerRests⟩ := (Ledger.start large).operateAll second
  rw [List.nil_append, List.nil_append] at fewer more
  rw [← stream] at more
  have smallerRests := smallerRests smallerSettled
  have largerRests := largerRests largerSettled
  have fewerRead := fewer.packages_eq smallerRests
  have moreRead := more.packages_eq largerRests
  obtain ⟨isPrefix, same⟩ := scan_of_le ordered (fed first)
  refine ⟨by rwa [fewerRead, moreRead], fun sound => ?_, fun declared limit rejected => ?_⟩
  · have read := same (fewer.incomplete smallerRests sound)
    have packages : packagesIn ((Decoder.ofLimit small).operateAll first).2.flatten =
        packagesIn ((Decoder.ofLimit large).operateAll second).2.flatten := by
      rw [fewerRead, moreRead, read]
    obtain ⟨tail, split, faces⟩ := fewer.faces
    obtain ⟨otherTail, otherSplit, otherFaces⟩ := more.faces
    -- The same packages are gone from the stream, so the same bytes are left of it.
    rw [← packages] at otherSplit
    obtain rfl : tail = otherTail := List.append_cancel_left (split.symm.trans otherSplit)
    have shown := faces.standing_eq smallerRests
    have corrupt : (Standing.ofTail small tail).corrupt = false := by
      rw [← shown]
      exact sound
    have standing : ((Decoder.ofLimit small).operateAll first).1.standing =
        ((Decoder.ofLimit large).operateAll second).1.standing := by
      rw [shown, otherFaces.standing_eq largerRests, Standing.ofTail_of_le ordered corrupt]
    exact ⟨packages, standing, (congrArg Standing.corrupt standing).symm.trans sound⟩
  · obtain ⟨-, stopped, -⟩ := (more.rejected declared limit).mp rejected
    refine ⟨?_, lt_of_scan_oversized stopped⟩
    cases sound : ((Decoder.ofLimit small).operateAll first).1.isCorrupt with
    | true => rfl
    | false =>
      have complete := fewer.incomplete smallerRests sound
      rw [same complete, complete] at stopped
      cases stopped

/-- Bodies of one byte and of four, and a header that declares nine. -/
def growingStream : List Operation :=
  [.feed [0, 1, 0, 7, 2, 65, 0, 4, 0] 1, .feed [8, 2, 66, 66, 66, 66, 0, 9, 0, 9, 1, 1] 3]

def growingStreamCut : List Operation :=
  [.feed [0, 1, 0] 1, .feed [7, 2, 65, 0, 4, 0, 8, 2, 66, 66] 2,
    .feed [66, 66, 0, 9, 0, 9, 1, 1] 0, .pull, .pull, .pull]

theorem packages_monotone_in_limit_growing_stream :
    (let (smaller, fewer) := (Decoder.ofLimit 2).operateAll growingStream
      let (_, more) := (Decoder.ofLimit 6).operateAll growingStreamCut
      packagesIn fewer.flatten = [⟨⟨1, 7, 2⟩, [65]⟩] ∧
        some (.error (.oversized 9 6)) ∈ more.flatten ∧
        packagesIn fewer.flatten <+: packagesIn more.flatten ∧ smaller.isCorrupt = true) ∧
      let (smaller, fewer) := (Decoder.ofLimit 9).operateAll growingStream
      let (larger, more) := (Decoder.ofLimit 12).operateAll growingStreamCut
      packagesIn fewer.flatten = packagesIn more.flatten ∧
        smaller.standing = ⟨1, true, false⟩ ∧ smaller.standing = larger.standing := by
  have stream : fed growingStream = fed growingStreamCut := by decide
  have rejected : some (.error (.oversized 9 6)) ∈
      ((Decoder.ofLimit 6).operateAll growingStreamCut).2.flatten :=
    .tail _ (.tail _ (.tail _ (.tail _ (.head _))))
  obtain ⟨isPrefix, -, corrupt⟩ :=
    packages_monotone_in_limit (by decide : (2 : UInt16) ≤ 6) stream (by decide) (by decide)
  obtain ⟨-, same, -⟩ :=
    packages_monotone_in_limit (by decide : (9 : UInt16) ≤ 12) stream (by decide) (by decide)
  obtain ⟨packages, standing, -⟩ := same rfl
  exact ⟨⟨rfl, rejected, isPrefix, (corrupt 9 6 rejected).1⟩, packages, rfl, standing⟩

end Courier.Frame
