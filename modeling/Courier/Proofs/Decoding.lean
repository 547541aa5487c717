import Courier.Frame.Decoder
import Courier.Proofs.Scan

/-! What an incremental decoder stands for: the bytes that it was given and has not passed on in a
package. A pull takes the first package off these bytes, or leaves them as they are because no
package begins with them. -/
namespace Courier.Frame

open Package (wire)

/-- The decoder has still to deal with these bytes. Of a corrupt decoder they are a rejected header
and whatever came behind it. -/
inductive Faces (limit : UInt16) : Decoder → Bytes → Prop where
  | between (buffer : Bytes) : Faces limit ⟨⟨limit, .header⟩, buffer⟩ buffer
  | midFrame {header : Header} (within : ¬ limit < header.bodyLength) (buffer : Bytes) :
      Faces limit ⟨⟨limit, .body header⟩, buffer⟩ (header.toBytes ++ buffer)
  | corrupt {header : Header} (exceeds : limit < header.bodyLength) (rest : Bytes) :
      Faces limit ⟨⟨limit, .corrupt⟩, []⟩ (header.toBytes ++ rest)

/-- Another pull would change nothing. -/
def Decoder.Rests (decoder : Decoder) : Prop :=
  decoder.pull.1 = decoder

/-- What comes of a pull by a decoder that faces these bytes. -/
inductive Pulled (limit : UInt16) (decoder : Decoder) (bytes : Bytes) : Decoder × Pull → Prop where
  | package {next : Decoder} {package : Package} {rest : Bytes}
      (split : bytes = package.toBytes ++ rest) (fits : package.Fits limit)
      (faces : Faces limit next rest) (before : decoder.isCorrupt = false)
      (after : next.isCorrupt = false) : Pulled limit decoder bytes (next, .ok (some package))
  | waiting {next : Decoder} (dry : scan limit bytes = ([], .incomplete))
      (faces : Faces limit next bytes) (rests : next.Rests) (before : decoder.isCorrupt = false)
      (after : next.isCorrupt = false) : Pulled limit decoder bytes (next, .ok none)
  | oversized {next : Decoder} {declared : UInt16}
      (stopped : scan limit bytes = ([], .oversized declared)) (faces : Faces limit next bytes)
      (rests : next.Rests) (before : decoder.isCorrupt = false) (after : next.isCorrupt = true) :
      Pulled limit decoder bytes (next, .error (.oversized declared limit))
  | corrupt (rests : decoder.Rests) (before : decoder.isCorrupt = true) :
      Pulled limit decoder bytes (decoder, .error .corrupt)

theorem Faces.start (limit : UInt16) : Faces limit (.ofLimit limit) [] :=
  .between []

theorem Faces.stopped {limit : UInt16} {decoder : Decoder} {bytes : Bytes}
    (faces : Faces limit decoder bytes) (corrupt : decoder.isCorrupt = true) :
    ∃ declared, scan limit bytes = ([], .oversized declared) := by
  cases faces with
  | between | midFrame => simp [Decoder.isCorrupt, Reader.isCorrupt] at corrupt
  | corrupt exceeds rest => exact ⟨_, scan_oversized exceeds rest⟩

/-- Bytes that are pushed come behind those already there, also if a corrupt decoder drops them. -/
theorem Faces.push {limit : UInt16} {decoder : Decoder} {bytes : Bytes}
    (faces : Faces limit decoder bytes) (more : Bytes) :
    Faces limit (decoder.push more) (bytes ++ more) := by
  cases faces with
  | between => exact .between (bytes ++ more)
  | midFrame within buffer =>
    rw [List.append_assoc]
    exact .midFrame within (buffer ++ more)
  | corrupt exceeds rest =>
    rw [List.append_assoc]
    exact .corrupt exceeds (rest ++ more)

theorem isCorrupt_push (decoder : Decoder) (more : Bytes) :
    (decoder.push more).isCorrupt = decoder.isCorrupt := by
  unfold Decoder.push
  split <;> rfl

private theorem pulled_body {limit : UInt16} {stage : Stage} {header : Header}
    (decoder : Decoder) (before : decoder.isCorrupt = false)
    (within : ¬ limit < header.bodyLength) (buffer : Bytes) :
    Pulled limit decoder (header.toBytes ++ buffer)
      (let (reader, rest, result) := Reader.pullBody ⟨limit, stage⟩ header buffer
       (⟨reader, rest⟩, result)) := by
  unfold Reader.pullBody
  cases cut : Bytes.cut? header.bodyLength.toNat buffer with
  | none =>
    have short := Bytes.cut?_eq_none_iff.mp cut
    refine .waiting (scan_unfinished within short) (.midFrame within buffer) ?_ before rfl
    simp [Decoder.Rests, Decoder.pull, Reader.pull, Reader.pullBody, cut]
  | some parts =>
    obtain ⟨split, size⟩ := Bytes.cut?_eq_some_iff.mp cut
    refine .package ?_ ⟨size.symm, within⟩ (.between parts.2) before rfl
    simp [split, Package.toBytes]

theorem Faces.pull {limit : UInt16} {decoder : Decoder} {bytes : Bytes}
    (faces : Faces limit decoder bytes) : Pulled limit decoder bytes decoder.pull := by
  cases faces with
  | between =>
    cases found : Header.read? bytes with
    | none =>
      have same : Decoder.pull ⟨⟨limit, .header⟩, bytes⟩ =
          (⟨⟨limit, .header⟩, bytes⟩, .ok none) := by
        simp [Decoder.pull, Reader.pull, found]
      rw [same]
      exact .waiting (scan_short (Header.read?_eq_none_iff.mp found)) (.between bytes)
        (congrArg Prod.fst same) rfl rfl
    | some front =>
      obtain ⟨header, rest⟩ := front
      have split := Header.read?_eq_some_iff.mp found
      by_cases exceeds : limit < header.bodyLength
      · have rejected : Decoder.pull ⟨⟨limit, .header⟩, bytes⟩ =
            (⟨⟨limit, .corrupt⟩, []⟩, .error (.oversized header.bodyLength limit)) := by
          simp [Decoder.pull, Reader.pull, found, exceeds]
        rw [rejected, split]
        exact .oversized (scan_oversized exceeds rest) (.corrupt exceeds rest) rfl rfl rfl
      · have accepted : Decoder.pull ⟨⟨limit, .header⟩, bytes⟩ =
            (let (reader, rest, result) := Reader.pullBody ⟨limit, .header⟩ header rest
             (⟨reader, rest⟩, result)) := by
          simp [Decoder.pull, Reader.pull, found, exceeds]
        rw [accepted, split]
        exact pulled_body _ rfl exceeds rest
  | midFrame within buffer => exact pulled_body _ rfl within buffer
  | corrupt => exact .corrupt rfl rfl

theorem Decoder.weight_pull {decoder next : Decoder} {package : Package}
    (pulled : decoder.pull = (next, .ok (some package))) :
    next.weight + package.frameLength = decoder.weight := by
  simp only [Decoder.pull, Prod.mk.injEq] at pulled
  obtain ⟨rfl, result⟩ := pulled
  exact Reader.weight_pull (Prod.ext rfl (Prod.ext rfl result))

private theorem length_pullBody (reader : Reader) (header : Header) (buffer : Bytes) :
    (reader.pullBody header buffer).2.1.length ≤ buffer.length := by
  unfold Reader.pullBody
  split
  · exact Nat.le_refl _
  · rename_i split
    rw [(Bytes.cut?_eq_some_iff.mp split).1, List.length_append]
    exact Nat.le_add_left _ _

theorem Decoder.pending_pull (decoder : Decoder) : decoder.pull.1.pending ≤ decoder.pending := by
  simp only [Decoder.pull, Decoder.pending, Reader.pull]
  split
  · exact Nat.le_refl _
  · exact length_pullBody _ _ _
  · split
    · exact Nat.le_refl _
    · rename_i found
      have size := Header.length_of_read? found
      split
      · exact Nat.zero_le _
      · exact Nat.le_trans (length_pullBody _ _ _) (by omega)

private theorem not_rests_of_header {limit : UInt16} {bytes rest : Bytes} {header : Header}
    (found : Header.read? bytes = some (header, rest)) :
    ¬ Decoder.Rests ⟨⟨limit, .header⟩, bytes⟩ := by
  intro rests
  by_cases exceeds : limit < header.bodyLength
  · simp [Decoder.Rests, Decoder.pull, Reader.pull, found, exceeds] at rests
  · cases cut : Bytes.cut? header.bodyLength.toNat rest with
    | none =>
      simp [Decoder.Rests, Decoder.pull, Reader.pull, found, exceeds, Reader.pullBody, cut] at rests
    | some parts =>
      have same : parts.2 = bytes := by
        simpa [Decoder.Rests, Decoder.pull, Reader.pull, found, exceeds, Reader.pullBody, cut]
          using rests
      have whole := Header.length_of_read? found
      have sum := congrArg List.length (Bytes.cut?_eq_some_iff.mp cut).1
      simp only [List.length_append, same, Header.size] at whole sum
      omega

/-- What can be seen of a decoder between two operations. -/
structure Standing where
  pending : Nat
  midFrame : Bool
  corrupt : Bool
  deriving DecidableEq, Repr

def Decoder.standing (decoder : Decoder) : Standing :=
  ⟨decoder.pending, decoder.isMidFrame, decoder.isCorrupt⟩

/-- What is seen of a decoder that can take no package off the bytes left to it. -/
def Standing.ofTail (limit : UInt16) (tail : Bytes) : Standing :=
  match Header.read? tail with
  | none => ⟨tail.length, false, false⟩
  | some (header, rest) =>
    if limit < header.bodyLength then ⟨0, false, true⟩ else ⟨rest.length, true, false⟩

theorem corrupt_ofTail_iff {limit : UInt16} {tail : Bytes} :
    (Standing.ofTail limit tail).corrupt = true ↔
      ∃ declared, scan limit tail = ([], .oversized declared) := by
  constructor
  · intro corrupt
    unfold Standing.ofTail at corrupt
    split at corrupt
    · cases corrupt
    · rename_i header rest found
      split at corrupt
      · rename_i exceeds
        rw [Header.read?_eq_some_iff.mp found]
        exact ⟨_, scan_oversized exceeds rest⟩
      · cases corrupt
  · rintro ⟨declared, stopped⟩
    obtain ⟨header, rest, rfl, -, exceeds⟩ := header_of_scan_oversized stopped
    simp [Standing.ofTail, exceeds]

/-- A decoder at rest shows what is left to it, and nothing of how it came there. -/
theorem Faces.standing_eq {limit : UInt16} {decoder : Decoder} {bytes : Bytes}
    (faces : Faces limit decoder bytes) (rests : decoder.Rests) :
    decoder.standing = .ofTail limit bytes := by
  cases faces with
  | between =>
    cases found : Header.read? bytes with
    | none => simp [Decoder.standing, Standing.ofTail, found, Decoder.pending, Decoder.isMidFrame,
        Reader.isMidFrame, Decoder.isCorrupt, Reader.isCorrupt]
    | some front =>
      obtain ⟨header, rest⟩ := front
      exact absurd rests (not_rests_of_header found)
  | midFrame within buffer =>
    simp [Decoder.standing, Standing.ofTail, within, Decoder.pending, Decoder.isMidFrame,
      Reader.isMidFrame, Decoder.isCorrupt, Reader.isCorrupt]
  | corrupt exceeds rest =>
    simp [Decoder.standing, Standing.ofTail, exceeds, Decoder.pending, Decoder.isMidFrame,
      Reader.isMidFrame, Decoder.isCorrupt, Reader.isCorrupt]

theorem Faces.dry {limit : UInt16} {decoder : Decoder} {bytes : Bytes}
    (faces : Faces limit decoder bytes) (rests : decoder.Rests) : (scan limit bytes).1 = [] := by
  have pulled := faces.pull
  generalize outcome : decoder.pull = result at pulled
  cases pulled with
  | @package next package rest split fits faces before after =>
    have lighter := Decoder.weight_pull outcome
    have same : next = decoder := by rw [← rests, outcome]
    simp only [same, Package.frameLength, Header.size] at lighter
    omega
  | waiting stopped | oversized stopped => rw [stopped]
  | corrupt _ corrupt =>
    obtain ⟨declared, stopped⟩ := faces.stopped corrupt
    rw [stopped]

/-- Another pull of a sound decoder at rest finds no package. -/
theorem Faces.pull_of_rests {limit : UInt16} {decoder : Decoder} {bytes : Bytes}
    (faces : Faces limit decoder bytes) (rests : decoder.Rests) (sound : decoder.isCorrupt = false) :
    decoder.pull = (decoder, .ok none) := by
  rcases outcome : decoder.pull with ⟨next, result⟩
  have same : next = decoder := by rw [← rests, outcome]
  subst same
  have pulled := faces.pull
  rw [outcome] at pulled
  cases pulled with
  | package =>
    have lighter := Decoder.weight_pull outcome
    simp only [Package.frameLength, Header.size] at lighter
    omega
  | waiting => rfl
  | oversized _ _ _ _ after =>
    rw [sound] at after
    cases after
  | corrupt _ before =>
    rw [sound] at before
    cases before

/-- What is left in a decoder that can take no package: less than a header, an accepted header and
less than the body that it declares, or nothing behind a rejected header. -/
inductive Remainder (limit : UInt16) : Decoder → Prop where
  | between {buffer : Bytes} (short : buffer.length < Header.size) :
      Remainder limit ⟨⟨limit, .header⟩, buffer⟩
  | midFrame {header : Header} {buffer : Bytes} (within : header.bodyLength ≤ limit)
      (short : buffer.length < header.bodyLength.toNat) :
      Remainder limit ⟨⟨limit, .body header⟩, buffer⟩
  | corrupt : Remainder limit ⟨⟨limit, .corrupt⟩, []⟩

theorem Faces.remainder {limit : UInt16} {decoder : Decoder} {bytes : Bytes}
    (faces : Faces limit decoder bytes) (rests : decoder.Rests) : Remainder limit decoder := by
  cases faces with
  | between =>
    cases found : Header.read? bytes with
    | none => exact .between (Header.read?_eq_none_iff.mp found)
    | some front => exact absurd rests (not_rests_of_header found)
  | @midFrame header within buffer =>
    refine .midFrame (UInt16.not_lt.mp within) (Bytes.cut?_eq_none_iff.mp ?_)
    cases cut : Bytes.cut? header.bodyLength.toNat buffer with
    | none => rfl
    | some parts =>
      -- the body would be taken, and the decoder would wait for the next header
      simp [Decoder.Rests, Decoder.pull, Reader.pull, Reader.pullBody, cut] at rests
  | corrupt => exact .corrupt

theorem Remainder.pending_lt {limit : UInt16} {decoder : Decoder}
    (remainder : Remainder limit decoder) : decoder.pending < max Header.size limit.toNat := by
  cases remainder with
  | between short => exact Nat.lt_of_lt_of_le short (Nat.le_max_left _ _)
  | midFrame within short =>
    have limited := UInt16.le_iff_toNat_le.mp within
    exact Nat.lt_of_lt_of_le short (Nat.le_trans limited (Nat.le_max_right _ _))
  | corrupt => exact Nat.lt_of_lt_of_le (Nat.succ_pos 4) (Nat.le_max_left _ _)

/-- The bytes of a stream so far are the frames of these packages and what the decoder faces. -/
structure Accounts (limit : UInt16) (bytes : Bytes) (packages : List Package) (decoder : Decoder) :
    Prop where
  fits : ∀ package ∈ packages, package.Fits limit
  faces : ∃ tail, bytes = wire packages ++ tail ∧ Faces limit decoder tail

namespace Accounts

variable {limit : UInt16} {bytes : Bytes} {packages : List Package} {decoder : Decoder}

theorem start (limit : UInt16) : Accounts limit [] [] (.ofLimit limit) :=
  ⟨by simp, [], rfl, .start limit⟩

theorem push (accounts : Accounts limit bytes packages decoder) (more : Bytes) :
    Accounts limit (bytes ++ more) packages (decoder.push more) := by
  obtain ⟨tail, split, faces⟩ := accounts.faces
  exact ⟨accounts.fits, tail ++ more, by rw [split, List.append_assoc], faces.push more⟩

theorem scan_eq (accounts : Accounts limit bytes packages decoder) {tail : Bytes}
    (split : bytes = wire packages ++ tail) :
    scan limit bytes = (packages ++ (scan limit tail).1, (scan limit tail).2) := by
  rw [split, scan_wire accounts.fits]

theorem packages_prefix (accounts : Accounts limit bytes packages decoder) :
    packages <+: (scan limit bytes).1 := by
  obtain ⟨tail, split, -⟩ := accounts.faces
  rw [accounts.scan_eq split]
  exact List.prefix_append _ _

theorem packages_eq (accounts : Accounts limit bytes packages decoder) (rests : decoder.Rests) :
    packages = (scan limit bytes).1 := by
  obtain ⟨tail, split, faces⟩ := accounts.faces
  rw [accounts.scan_eq split, faces.dry rests, List.append_nil]

theorem stopped (accounts : Accounts limit bytes packages decoder)
    (corrupt : decoder.isCorrupt = true) :
    ∃ declared, (scan limit bytes).2 = .oversized declared := by
  obtain ⟨tail, split, faces⟩ := accounts.faces
  obtain ⟨declared, stopped⟩ := faces.stopped corrupt
  exact ⟨declared, by rw [accounts.scan_eq split, stopped]⟩

/-- A decoder at rest is corrupt exactly if the stream stops at an oversized header. -/
theorem corrupt_iff (accounts : Accounts limit bytes packages decoder) (rests : decoder.Rests) :
    decoder.isCorrupt = true ↔ ∃ declared, (scan limit bytes).2 = .oversized declared := by
  refine ⟨accounts.stopped, ?_⟩
  obtain ⟨tail, split, faces⟩ := accounts.faces
  have shown : decoder.isCorrupt = (Standing.ofTail limit tail).corrupt :=
    congrArg Standing.corrupt (faces.standing_eq rests)
  have stops : scan limit tail = ([], (scan limit bytes).2) := by
    rw [accounts.scan_eq split, ← faces.dry rests]
  rintro ⟨declared, stopped⟩
  rw [shown, corrupt_ofTail_iff, stops, stopped]
  exact ⟨declared, rfl⟩

theorem incomplete (accounts : Accounts limit bytes packages decoder) (rests : decoder.Rests)
    (sound : decoder.isCorrupt = false) : (scan limit bytes).2 = .incomplete := by
  cases stop : (scan limit bytes).2 with
  | incomplete => rfl
  | oversized declared =>
    rw [(accounts.corrupt_iff rests).mpr ⟨declared, stop⟩] at sound
    cases sound

theorem package {next : Decoder} {package : Package}
    (accounts : Accounts limit bytes packages decoder)
    (outcome : decoder.pull = (next, .ok (some package))) :
    Accounts limit bytes (packages ++ [package]) next ∧ decoder.isCorrupt = false ∧
      next.isCorrupt = false := by
  obtain ⟨tail, split, faces⟩ := accounts.faces
  have pulled := faces.pull
  rw [outcome] at pulled
  cases pulled with
  | @package _ _ rest front fits facing before after =>
    refine ⟨⟨?_, rest, ?_, facing⟩, before, after⟩
    · intro other member
      rcases List.mem_append.mp member with earlier | last
      · exact accounts.fits other earlier
      · rw [List.mem_singleton.mp last]
        exact fits
    · simp [split, front]

theorem waiting {next : Decoder} (accounts : Accounts limit bytes packages decoder)
    (outcome : decoder.pull = (next, .ok none)) :
    Accounts limit bytes packages next ∧ next.Rests ∧ decoder.isCorrupt = false ∧
      next.isCorrupt = false := by
  obtain ⟨tail, split, faces⟩ := accounts.faces
  have pulled := faces.pull
  rw [outcome] at pulled
  cases pulled with
  | waiting dry facing rests before after =>
    exact ⟨⟨accounts.fits, tail, split, facing⟩, rests, before, after⟩

/-- The only faults are an oversized header, when it is met, and later that it was met. -/
theorem fault {next : Decoder} {fault : Fault} (accounts : Accounts limit bytes packages decoder)
    (outcome : decoder.pull = (next, .error fault)) :
    Accounts limit bytes packages next ∧ next.Rests ∧ next.isCorrupt = true ∧
      (fault = .corrupt ∧ decoder.isCorrupt = true ∨
        ∃ declared, fault = .oversized declared limit ∧ decoder.isCorrupt = false ∧
          (scan limit bytes).2 = .oversized declared) := by
  obtain ⟨tail, split, faces⟩ := accounts.faces
  have pulled := faces.pull
  rw [outcome] at pulled
  cases pulled with
  | @oversized _ declared stopped facing rests before after =>
    refine ⟨⟨accounts.fits, tail, split, facing⟩, rests, after, .inr ⟨declared, rfl, before, ?_⟩⟩
    rw [accounts.scan_eq split, stopped]
  | corrupt rests before => exact ⟨accounts, rests, before, .inl ⟨rfl, before⟩⟩

end Accounts
end Courier.Frame
