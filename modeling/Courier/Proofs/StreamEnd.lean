import Courier.Proofs.Corruption

namespace Courier.Frame

theorem Reader.eq_of_between {reader : Reader} (sound : reader.isCorrupt = false)
    (between : reader.isMidFrame = false) : reader = { limit := reader.limit } := by
  obtain ⟨limit, stage⟩ := reader
  cases stage with
  | header => rfl
  | body header => cases between
  | corrupt => cases sound

private theorem Codec.decodeEnd_of_waiting {codec waiting : Codec} {buffer rest : Bytes}
    (sound : waiting.isCorrupt = false) (limit : waiting.reader.limit = codec.reader.limit)
    (decoded : codec.decode buffer = (waiting, rest, .ok none)) :
    ∃ ending : Ending, ending.package? = none ∧
      codec.decodeEnd buffer = (.ofLimit codec.reader.limit, [], .ok ending) := by
  simp only [decodeEnd, decoded]
  split
  · rename_i nothing
    obtain ⟨empty, between⟩ : rest = [] ∧ waiting.reader.isMidFrame = false := by
      simpa using nothing
    have asNew : waiting = .ofLimit codec.reader.limit := by
      rw [ofLimit, ← limit, ← Reader.eq_of_between sound between]
    exact ⟨.clean, rfl, by rw [asNew, empty]⟩
  · refine ⟨.discarded rest.length, rfl, ?_⟩
    have kept : waiting.reader.isCorrupt = false := sound
    simp [Reader.reset, kept, ofLimit, limit]

namespace Duplex

def weight (duplex : Duplex) : Nat :=
  duplex.codec.reader.weight duplex.buffer

/-- A new codec under the same body limit, on an empty buffer. -/
def renewed (duplex : Duplex) : Duplex :=
  .ofLimit duplex.codec.reader.limit

/-- What decoding makes of a codec and its buffer, and what it makes of them at the end of the
stream. They differ only when bytes are missing. -/
inductive Turn (duplex : Duplex) : Prop where
  | package {next : Duplex} {package : Package}
      (decoded : duplex.operate .decode = (next, .decoded (.ok (some package))))
      (ended : duplex.operate .decodeEnd = (next, .ended (.ok (.package package))))
      (lighter : next.weight + package.frameLength = duplex.weight)
      (renewed : next.renewed = duplex.renewed)
  | dry {waiting : Duplex} {ending : Ending} (packageless : ending.package? = none)
      (decoded : duplex.operate .decode = (waiting, .decoded (.ok none)))
      (ended : duplex.operate .decodeEnd = (duplex.renewed, .ended (.ok ending)))
  | fault {broken : Duplex} {fault : Fault} (corrupt : broken.codec.isCorrupt = true)
      (decoded : duplex.operate .decode = (broken, .decoded (.error fault)))
      (ended : duplex.operate .decodeEnd = (broken, .ended (.error fault)))

theorem turn (duplex : Duplex) : duplex.Turn := by
  have outcome := duplex.codec.reader.outcome_pull duplex.buffer
  rcases pulled : duplex.codec.reader.pull duplex.buffer with ⟨reader, rest, fault | none | package⟩
  · have corrupt : Codec.isCorrupt ⟨reader⟩ = true := by
      rw [pulled] at outcome
      cases outcome with
      | rejected => rfl
      | corrupt before => exact before
    have decoded : duplex.operate .decode = (⟨⟨reader⟩, rest⟩, .decoded (.error fault)) := by
      simp [operate, Codec.decode, pulled]
    refine .fault corrupt decoded ?_
    simp [operate, Codec.decodeEnd, Codec.decode, pulled]
  · have decoded : duplex.codec.decode duplex.buffer = (⟨reader⟩, rest, .ok none) := by
      simp [Codec.decode, pulled]
    have kept : reader.isCorrupt = false ∧ reader.limit = duplex.codec.reader.limit := by
      rw [pulled] at outcome
      cases outcome with
      | sound before after => exact ⟨after, rfl⟩
    obtain ⟨ending, packageless, ended⟩ := Codec.decodeEnd_of_waiting kept.1 kept.2 decoded
    have waiting : duplex.operate .decode = (⟨⟨reader⟩, rest⟩, .decoded (.ok none)) := by
      simp [operate, decoded]
    refine .dry packageless waiting ?_
    simp [operate, ended, renewed, ofLimit]
  · have decoded : duplex.operate .decode = (⟨⟨reader⟩, rest⟩, .decoded (.ok (some package))) := by
      simp [operate, Codec.decode, pulled]
    have limit := (duplex.keeps_operate .decode).limit
    rw [decoded] at limit
    refine .package decoded ?_ (Reader.weight_pull pulled) (congrArg ofLimit limit)
    simp [operate, Codec.decodeEnd, Codec.decode, pulled]

/-- At the end of a stream, in whatever state codec and buffer are, decoding for the end gives
finitely many packages, the same ones as decoding. Then, where decoding finds that bytes are missing,
the end leaves a new codec on an empty buffer; and where decoding fails, the end fails in the same
way and leaves the codec corrupt. -/
theorem stream_end_drains_and_renews (duplex : Duplex) :
    ∃ (packages : List Package) (left : Duplex),
      Header.size * packages.length ≤ duplex.weight ∧
      duplex.operateAll (.replicate packages.length .decode) =
        (left, packages.map fun package => .decoded (.ok (some package))) ∧
      duplex.operateAll (.replicate packages.length .decodeEnd) =
        (left, packages.map fun package => .ended (.ok (.package package))) ∧
      ((∃ ending : Ending, ending.package? = none ∧
          (left.operate .decode).2 = .decoded (.ok none) ∧
          left.operate .decodeEnd = (duplex.renewed, .ended (.ok ending))) ∨
        ∃ (fault : Fault) (broken : Duplex), broken.codec.isCorrupt = true ∧
          left.operate .decode = (broken, .decoded (.error fault)) ∧
          left.operate .decodeEnd = (broken, .ended (.error fault))) := by
  -- A package uses up the bytes of its frame, those of a header that was read before included.
  induction bound : duplex.weight using Nat.strongRecOn generalizing duplex with
  | ind size ih =>
    cases duplex.turn with
    | @package next package decoded ended lighter renewed =>
      have frame : Header.size ≤ package.frameLength := Nat.le_add_right _ _
      have smaller : next.weight < size := by
        simp only [Header.size] at frame
        omega
      obtain ⟨packages, left, few, drained, drainedEnd, final⟩ := ih _ smaller next rfl
      refine ⟨package :: packages, left, ?_, ?_, ?_, ?_⟩
      · rw [List.length_cons, Nat.mul_succ]
        omega
      · simp [List.replicate_succ, operateAll, decoded, drained]
      · simp [List.replicate_succ, operateAll, ended, drainedEnd]
      · rw [← renewed]
        exact final
    | dry packageless decoded ended =>
      refine ⟨[], duplex, Nat.zero_le _, rfl, rfl, .inl ⟨_, packageless, ?_, ended⟩⟩
      rw [decoded]
    | fault corrupt decoded ended =>
      exact ⟨[], duplex, Nat.zero_le _, rfl, rfl, .inr ⟨_, _, corrupt, decoded, ended⟩⟩

end Duplex
end Courier.Frame
