import Courier.Proofs.Corruption

namespace Courier.Frame

open Package (wire)

/-- A decoder weighs the bytes that it faces, and nothing once it has dropped them. -/
theorem Faces.weight_eq {limit : UInt16} {decoder : Decoder} {bytes : Bytes}
    (faces : Faces limit decoder bytes) :
    decoder.weight = if decoder.isCorrupt then 0 else bytes.length := by
  cases faces with
  | between | corrupt => rfl
  | midFrame within buffer =>
    simp [Decoder.weight, Reader.weight, Reader.isMidFrame, Decoder.isCorrupt, Reader.isCorrupt,
      Nat.add_comm]

namespace Packages

theorem next_eq_package_iff {decoder next : Decoder} {package : Package} :
    Packages.next ⟨decoder, false⟩ = (⟨next, false⟩, some (.ok package)) ↔
      decoder.pull = (next, .ok (some package)) := by
  rcases pulled : decoder.pull with ⟨after, fault | none | other⟩ <;> simp [Packages.next, pulled]

theorem drain_eq (packages : Packages) :
    packages.drain = match packages.next with
      | (after, none) => (after, [])
      | (after, some item) => (after.drain.1, item :: after.drain.2) := by
  rw [drain]
  split <;> rename_i taken <;> rw [taken]

/-- Taken one by one, a sequence gives what draining it gives, and after that nothing. -/
theorem takeNext_drain (packages : Packages) (count : Nat) :
    packages.takeNext (packages.drain.2.length + (count + 1)) =
      (packages.drain.1, packages.drain.2.map some ++ .replicate (count + 1) none) := by
  fun_induction drain packages with
  | case1 packages after taken =>
    have ended : after.ended = true := by
      have packageless := packages.ended_of_packageless
      rw [taken] at packageless
      exact packageless rfl
    simp [takeNext, taken, takeNext_of_ended ended, List.replicate_succ]
  | case2 packages after item taken last items drained ih =>
    rw [drained] at ih
    have first : (item :: items).length + (count + 1) = items.length + (count + 1) + 1 :=
      Nat.succ_add _ _
    rw [first, takeNext, taken]
    simp [ih]

end Packages

/-- Drained to the end, a decoder gives these packages and at most one fault behind them, and this
is left of it. -/
structure Drains (limit : UInt16) (decoder : Decoder) (packages : List Package)
    (fault : Option Fault) (left : Decoder) : Prop where
  drain : Packages.drain ⟨decoder, false⟩ =
    (⟨left, true⟩, packages.map .ok ++ (fault.map .error).toList)
  taken : left.weight + (wire packages).length ≤ decoder.weight
  kept : left.isCorrupt = false → left.weight + (wire packages).length = decoder.weight
  corrupt : fault.isSome = left.isCorrupt
  rests : left.Rests
  remainder : Remainder limit left

namespace Drains

variable {limit : UInt16} {decoder next left : Decoder} {packages : List Package}

theorem of_package {package : Package} {fault : Option Fault}
    (pulled : decoder.pull = (next, .ok (some package)))
    (later : Drains limit next packages fault left) :
    Drains limit decoder (package :: packages) fault left where
  drain := by
    rw [Packages.drain_eq, Packages.next_eq_package_iff.mpr pulled]
    simp [later.drain]
  taken := by
    have lighter := Decoder.weight_pull pulled
    have after := later.taken
    simp only [Package.wire_cons, List.length_append, Package.length_toBytes]
    omega
  kept sound := by
    have lighter := Decoder.weight_pull pulled
    have after := later.kept sound
    simp only [Package.wire_cons, List.length_append, Package.length_toBytes]
    omega
  corrupt := later.corrupt
  rests := later.rests
  remainder := later.remainder

theorem of_waiting {bytes : Bytes} (pulled : decoder.pull = (next, .ok none))
    (faces : Faces limit decoder bytes) (facing : Faces limit next bytes) (rests : next.Rests)
    (before : decoder.isCorrupt = false) (after : next.isCorrupt = false) :
    Drains limit decoder [] none next := by
  have same : next.weight = decoder.weight := by
    rw [faces.weight_eq, facing.weight_eq, before, after]
  refine ⟨?_, Nat.le_of_eq same, fun _ => same, after.symm, rests, facing.remainder rests⟩
  simp [Packages.drain_eq, Packages.next, pulled]

theorem of_fault {bytes : Bytes} {fault : Fault} (pulled : decoder.pull = (next, .error fault))
    (facing : Faces limit next bytes) (rests : next.Rests) (after : next.isCorrupt = true) :
    Drains limit decoder [] (some fault) next := by
  have ended : Packages.drain ⟨next, true⟩ = (⟨next, true⟩, []) := Packages.drain_eq ⟨next, true⟩
  have nothing : next.weight = 0 := by rw [facing.weight_eq, after, if_pos rfl]
  refine ⟨?_, ?_, fun sound => ?_, after.symm, rests, facing.remainder rests⟩
  · simp [Packages.drain_eq ⟨decoder, false⟩, Packages.next, pulled, ended]
  · rw [nothing]
    exact Nat.zero_le _
  · rw [after] at sound
    cases sound

theorem length_le {fault : Option Fault} (drains : Drains limit decoder packages fault left) :
    packages.length ≤ decoder.weight / Header.size := by
  have headers := Package.size_mul_length_le_length_wire packages
  have frames := drains.taken
  rw [Nat.le_div_iff_mul_le (show 0 < Header.size from Nat.succ_pos 4), Nat.mul_comm]
  omega

end Drains

theorem Remainder.shown {limit : UInt16} {decoder : Decoder} (remainder : Remainder limit decoder) :
    (decoder.isMidFrame = false → decoder.isCorrupt = false → decoder.pending < Header.size) ∧
      (decoder.isMidFrame = true → ∃ header, decoder.reader.stage = .body header ∧
        decoder.pending < header.bodyLength.toNat ∧ header.bodyLength ≤ limit) ∧
      (decoder.isCorrupt = true → decoder.pending = 0) := by
  cases remainder with
  | between short => exact ⟨fun _ _ => short, nofun, nofun⟩
  | midFrame within short => exact ⟨nofun, fun _ => ⟨_, rfl, short, within⟩, nofun⟩
  | corrupt => exact ⟨nofun, nofun, fun _ => rfl⟩

theorem Faces.drains {limit : UInt16} {decoder : Decoder} {bytes : Bytes}
    (faces : Faces limit decoder bytes) :
    ∃ packages fault left, Drains limit decoder packages fault left := by
  -- An accepted header keeps the weight and a package lowers it, also one without a body.
  induction bound : decoder.weight using Nat.strongRecOn generalizing decoder bytes with
  | ind size ih =>
    have pulled := faces.pull
    rcases outcome : decoder.pull with ⟨next, result⟩
    rw [outcome] at pulled
    cases pulled with
    | @package _ package rest split fits facing =>
      have lighter := Decoder.weight_pull outcome
      have smaller : next.weight < size := by
        simp only [Package.frameLength, Header.size] at lighter
        omega
      obtain ⟨packages, fault, left, later⟩ := ih _ smaller facing rfl
      exact ⟨_, _, _, later.of_package outcome⟩
    | waiting dry facing rests before after =>
      exact ⟨_, _, _, .of_waiting outcome faces facing rests before after⟩
    | oversized stopped facing rests before after =>
      exact ⟨_, _, _, .of_fault outcome facing rests after⟩
    | corrupt rests before => exact ⟨_, _, _, .of_fault outcome faces rests before⟩

/-- In whatever state a decoder is, a package that is pulled takes exactly its frame out of what the
decoder weighs: its buffer, and the header that it has accepted. When more bytes are fed, the
sequence of packages ends: there are no more of them than there is room for headers, then at most
one fault, and then nothing. What is left is less than a header, less than the body of an accepted
header, or nothing in a corrupt decoder, and another pull leaves it as it is. -/
theorem draining_ends_within_frame (limit : UInt16) (operations : List Operation) :
    let (decoder, _) := (Decoder.ofLimit limit).operateAll operations
    (∀ next package, decoder.pull = (next, .ok (some package)) ∨
        Packages.next ⟨decoder, false⟩ = (⟨next, false⟩, some (.ok package)) →
      next.weight + package.frameLength = decoder.weight ∧ Header.size ≤ package.frameLength) ∧
    ∀ bytes,
      let (last, items) := (decoder.feed bytes).drain
      (∀ count, (decoder.feed bytes).takeNext (items.length + (count + 1)) =
        (last, items.map some ++ .replicate (count + 1) none)) ∧
      (∃ (packages : List Package) (fault : Option Fault),
        items = packages.map .ok ++ (fault.map .error).toList ∧
        packages.length ≤ (decoder.push bytes).weight / Header.size ∧
        fault.isSome = last.decoder.isCorrupt ∧
        (last.decoder.isCorrupt = false →
          last.decoder.weight + (wire packages).length = (decoder.push bytes).weight)) ∧
      (last.decoder.isMidFrame = false → last.decoder.isCorrupt = false →
        last.decoder.pending < Header.size) ∧
      (last.decoder.isMidFrame = true → ∃ header, last.decoder.reader.stage = .body header ∧
        last.decoder.pending < header.bodyLength.toNat ∧ header.bodyLength ≤ limit) ∧
      (last.decoder.isCorrupt = true → last.decoder.pending = 0) ∧
      last.decoder.pending < max Header.size limit.toNat ∧
      last.decoder.pull.1 = last.decoder := by
  have ledger := ((Ledger.start limit).operateAll operations).1
  rcases reached : (Decoder.ofLimit limit).operateAll operations with ⟨decoder, answers⟩
  rw [reached] at ledger
  refine ⟨fun next package pulled => ?_, fun bytes => ?_⟩
  · have pulled := pulled.elim id Packages.next_eq_package_iff.mp
    exact ⟨Decoder.weight_pull pulled, Nat.le_add_right _ _⟩
  · obtain ⟨tail, -, faces⟩ := (ledger.push bytes).faces
    obtain ⟨packages, fault, left, drains⟩ := faces.drains
    have drained : (decoder.feed bytes).drain =
        (⟨left, true⟩, packages.map .ok ++ (fault.map .error).toList) := drains.drain
    have ending := (decoder.feed bytes).takeNext_drain
    obtain ⟨between, midFrame, corrupt⟩ := drains.remainder.shown
    rw [drained] at ending ⊢
    exact ⟨ending, ⟨packages, fault, rfl, drains.length_le, drains.corrupt, drains.kept⟩, between,
      midFrame, corrupt, drains.remainder.pending_lt, drains.rests⟩

/-- The bounds are met by frames without a body and by a body that lacks its last byte. -/
example :
    ((Decoder.ofLimit 6).feed [0, 0, 0, 1, 2, 0, 0, 0, 3, 2]).decoder.weight / Header.size = 2 ∧
      (((Decoder.ofLimit 6).feed [0, 0, 0, 1, 2, 0, 0, 0, 3, 2]).takeNext 3).2 =
        [some (.ok (.empty 1 2)), some (.ok (.empty 3 2)), none] ∧
      (((Decoder.ofLimit 6).feed [0, 6, 0, 1, 2, 9, 9, 9, 9, 9]).takeNext 1).1.decoder.standing =
        ⟨5, true, false⟩ :=
  ⟨rfl, rfl, rfl⟩

end Courier.Frame
