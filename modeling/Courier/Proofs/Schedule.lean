import Courier.Proofs.Decoding

namespace Courier.Frame

open Package (wire)

/-- A package, a fault, or nothing while bytes are missing. -/
abbrev Answer := Option (Except Fault Package)

def answerOf : Pull → Answer
  | .ok none => none
  | .ok (some package) => some (.ok package)
  | .error fault => some (.error fault)

def package? : Answer → Option Package
  | some (.ok package) => some package
  | _ => none

def packagesIn (answers : List Answer) : List Package :=
  answers.filterMap package?

inductive Operation where
  /-- Append bytes, and ask their sequence of packages so many times before it is dropped. -/
  | feed (bytes : Bytes) (pulls : Nat)
  | pull
  deriving DecidableEq, Repr

def Operation.bytes : Operation → Bytes
  | .feed bytes _ => bytes
  | .pull => []

def fed (operations : List Operation) : Bytes :=
  operations.flatMap Operation.bytes

def Decoder.operate (decoder : Decoder) : Operation → Decoder × List Answer
  | .feed bytes pulls =>
    let (packages, answers) := (decoder.feed bytes).takeNext pulls
    (packages.decoder, answers)
  | .pull =>
    let (next, result) := decoder.pull
    (next, [answerOf result])

def Decoder.operateAll (decoder : Decoder) : List Operation → Decoder × List (List Answer)
  | [] => (decoder, [])
  | operation :: rest =>
    let (next, answers) := decoder.operate operation
    let (last, more) := next.operateAll rest
    (last, answers :: more)

/-- The last operation asked for packages, and its last answer was none. -/
def drained (answers : List (List Answer)) : Bool :=
  match answers.getLast?.bind List.getLast? with
  | some answer => (package? answer).isNone
  | none => false

/-- What a stream leaves behind its packages. -/
def tailOf (limit : UInt16) (bytes : Bytes) : Bytes :=
  bytes.drop (wire (scan limit bytes).1).length

/-- The bytes fed so far are accounted for by the answers, which report an oversized header as soon
as it has been met. -/
structure Ledger (limit : UInt16) (bytes : Bytes) (answers : List Answer) (decoder : Decoder) : Prop
    extends Accounts limit bytes (packagesIn answers) decoder where
  rejected : ∀ declared max, some (.error (.oversized declared max)) ∈ answers ↔
    decoder.isCorrupt = true ∧ (scan limit bytes).2 = .oversized declared ∧ max = limit

namespace Ledger

variable {limit : UInt16} {bytes : Bytes} {answers : List Answer} {decoder : Decoder}

theorem start (limit : UInt16) : Ledger limit [] [] (.ofLimit limit) where
  toAccounts := .start limit
  rejected := by simp [Decoder.ofLimit, Decoder.isCorrupt, Reader.isCorrupt]

theorem push (ledger : Ledger limit bytes answers decoder) (more : Bytes) :
    Ledger limit (bytes ++ more) answers (decoder.push more) where
  toAccounts := ledger.toAccounts.push more
  rejected := by
    intro declared max
    rw [ledger.rejected, isCorrupt_push]
    constructor
    · rintro ⟨corrupt, stopped, same⟩
      exact ⟨corrupt, by rw [scan_append_oversized more stopped, stopped], same⟩
    · rintro ⟨corrupt, stopped, same⟩
      -- a corrupt decoder has met its header before the new bytes
      obtain ⟨earlier, before⟩ := ledger.stopped corrupt
      rw [scan_append_oversized more before] at stopped
      exact ⟨corrupt, stopped, same⟩

theorem silent (ledger : Ledger limit bytes answers decoder) {answer : Answer}
    (packageless : package? answer = none)
    (harmless : ∀ declared max, answer ≠ some (.error (.oversized declared max))) :
    Ledger limit bytes (answers ++ [answer]) decoder where
  toAccounts := by simpa [packagesIn, packageless] using ledger.toAccounts
  rejected := by
    intro declared max
    have other := (harmless declared max).symm
    simp only [List.mem_append, List.mem_singleton, other, or_false]
    exact ledger.rejected declared max

theorem pull (ledger : Ledger limit bytes answers decoder) :
    Ledger limit bytes (answers ++ [answerOf decoder.pull.2]) decoder.pull.1 ∧
      (package? (answerOf decoder.pull.2) = none → decoder.pull.1.Rests) := by
  have seen := ledger.rejected
  rcases outcome : decoder.pull with ⟨next, fault | none | package⟩
  · obtain ⟨accounts, rests, after, ⟨rfl, before⟩ | ⟨declared, rfl, before, stopped⟩⟩ :=
      ledger.fault outcome
    · have moved : Ledger limit bytes answers next :=
        ⟨accounts, by simpa [before, after] using seen⟩
      exact ⟨moved.silent rfl (by simp [answerOf]), fun _ => rests⟩
    · refine ⟨⟨by simpa [packagesIn, answerOf, package?, List.filterMap_cons] using accounts, ?_⟩,
        fun _ => rests⟩
      intro other max
      have unseen := seen other max
      simp only [before, Bool.false_eq_true, false_and, iff_false] at unseen
      simp [answerOf, unseen, after, stopped, eq_comm]
  · obtain ⟨accounts, rests, before, after⟩ := ledger.waiting outcome
    have moved : Ledger limit bytes answers next :=
      ⟨accounts, by simpa [before, after] using seen⟩
    exact ⟨moved.silent rfl (by simp [answerOf]), fun _ => rests⟩
  · obtain ⟨accounts, before, after⟩ := ledger.package outcome
    refine ⟨⟨by simpa [packagesIn, answerOf, package?] using accounts, ?_⟩,
      by simp [answerOf, package?]⟩
    simpa [answerOf, before, after] using seen

/-- One more answer of a sequence of packages; once it has ended its decoder is at rest. -/
theorem next {packages : Packages} (ledger : Ledger limit bytes answers packages.decoder)
    (ended : packages.ended = true → packages.decoder.Rests) :
    Ledger limit bytes (answers ++ [packages.next.2]) packages.next.1.decoder ∧
      (packages.next.1.ended = true → packages.next.1.decoder.Rests) ∧
      (package? packages.next.2 = none → packages.next.1.decoder.Rests) := by
  obtain ⟨pulled, rests⟩ := ledger.pull
  unfold Packages.next
  split
  · rename_i dry
    exact ⟨ledger.silent rfl (by simp), fun _ => ended dry, fun _ => ended dry⟩
  · split <;> rename_i result <;> rw [result] at pulled rests
    · exact ⟨pulled, by simp, by simp [package?]⟩
    · exact ⟨pulled, fun _ => rests rfl, fun _ => rests rfl⟩
    · exact ⟨pulled, fun _ => rests rfl, fun _ => rests rfl⟩

theorem takeNext {packages : Packages} (ledger : Ledger limit bytes answers packages.decoder)
    (ended : packages.ended = true → packages.decoder.Rests) (count : Nat) :
    Ledger limit bytes (answers ++ (packages.takeNext count).2)
        (packages.takeNext count).1.decoder ∧
      (∀ answer, (packages.takeNext count).2.getLast? = some answer → package? answer = none →
        (packages.takeNext count).1.decoder.Rests) := by
  induction count generalizing packages answers with
  | zero => simpa [Packages.takeNext] using ledger
  | succ count ih =>
    obtain ⟨held, still, rests⟩ := ledger.next ended
    obtain ⟨whole, last⟩ := ih held still
    refine ⟨by simpa [Packages.takeNext] using whole, ?_⟩
    intro answer final packageless
    cases count with
    | zero =>
      obtain rfl : packages.next.2 = answer := by simpa [Packages.takeNext] using final
      exact rests packageless
    | succ count =>
      refine last answer ?_ packageless
      simpa [Packages.takeNext] using final

theorem operate (ledger : Ledger limit bytes answers decoder) (operation : Operation) :
    Ledger limit (bytes ++ operation.bytes) (answers ++ (decoder.operate operation).2)
        (decoder.operate operation).1 ∧
      (∀ answer, (decoder.operate operation).2.getLast? = some answer → package? answer = none →
        (decoder.operate operation).1.Rests) := by
  cases operation with
  | feed more pulls =>
    have pushed : Ledger limit (bytes ++ more) answers (decoder.feed more).decoder :=
      ledger.push more
    exact pushed.takeNext (by simp [Decoder.feed]) pulls
  | pull =>
    obtain ⟨pulled, rests⟩ := ledger.pull
    refine ⟨by simpa [Decoder.operate, Operation.bytes] using pulled, ?_⟩
    simpa [Decoder.operate] using rests

theorem operateAll (ledger : Ledger limit bytes answers decoder) (operations : List Operation) :
    Ledger limit (bytes ++ fed operations) (answers ++ (decoder.operateAll operations).2.flatten)
        (decoder.operateAll operations).1 ∧
      (drained (decoder.operateAll operations).2 = true →
        (decoder.operateAll operations).1.Rests) := by
  induction operations generalizing bytes answers decoder with
  | nil => simpa [Decoder.operateAll, fed, drained] using ledger
  | cons operation rest ih =>
    obtain ⟨held, rests⟩ := ledger.operate operation
    obtain ⟨whole, last⟩ := ih held
    refine ⟨by simpa [Decoder.operateAll, fed] using whole, ?_⟩
    intro settled
    cases rest with
    | nil =>
      cases final : (decoder.operate operation).2.getLast? with
      | none => simp [Decoder.operateAll, drained, final] at settled
      | some answer =>
        refine rests answer final ?_
        simpa [Decoder.operateAll, drained, final] using settled
    | cons another rest =>
      refine last ?_
      simpa [Decoder.operateAll, drained] using settled

end Ledger

/-- The packages answered so far are the first of the stream's packages. Once the decoder is
drained they are all of them, an oversized header has been reported exactly if the stream stops at
it, and the decoder shows what the packages leave of the stream. -/
theorem schedule_independent (limit : UInt16) (operations : List Operation) :
    let (decoder, answers) := (Decoder.ofLimit limit).operateAll operations
    let (packages, stop) := scan limit (fed operations)
    packagesIn answers.flatten <+: packages ∧
      (drained answers = true →
        packagesIn answers.flatten = packages ∧
        (∀ declared max, some (.error (.oversized declared max)) ∈ answers.flatten ↔
          stop = .oversized declared ∧ max = limit) ∧
        decoder.standing = .ofTail limit (tailOf limit (fed operations)) ∧
        (decoder.isCorrupt = true ↔ ∃ declared, stop = .oversized declared)) := by
  obtain ⟨ledger, rests⟩ := (Ledger.start limit).operateAll operations
  simp only [List.nil_append] at ledger
  refine ⟨ledger.packages_prefix, ?_⟩
  intro settled
  obtain ⟨tail, split, faces⟩ := ledger.faces
  have all := ledger.packages_eq (rests settled)
  have left : tailOf limit (fed operations) = tail := by
    rw [tailOf, ← all, congrArg (List.drop _) split, List.drop_left]
  have corrupt := ledger.corrupt_iff (rests settled)
  refine ⟨all, ?_, by rw [left]; exact faces.standing_eq (rests settled), corrupt⟩
  intro declared max
  rw [ledger.rejected declared max, corrupt]
  constructor
  · exact fun ⟨_, stopped, same⟩ => ⟨stopped, same⟩
  · exact fun ⟨stopped, same⟩ => ⟨⟨declared, stopped⟩, stopped, same⟩

/-- A stream cut inside headers and a body, read by early dropped sequences and single pulls, up to
a header that declares nine bytes. -/
def cutStream : List Operation :=
  [.feed [0, 1, 0] 2, .feed [7, 2] 0, .pull, .feed [65, 0, 0, 0, 1, 3, 0, 9, 8] 1, .feed [] 1,
    .pull, .feed [8, 8, 255] 2]

theorem schedule_independent_cut_stream :
    let (decoder, answers) := (Decoder.ofLimit 4).operateAll cutStream
    drained answers = true ∧
      packagesIn answers.flatten = [⟨⟨1, 7, 2⟩, [65]⟩, ⟨⟨0, 1, 3⟩, []⟩] ∧
      decoder.isCorrupt = true ∧
      packagesIn answers.flatten = (scan 4 (fed cutStream)).1 ∧
      decoder.standing = .ofTail 4 (tailOf 4 (fed cutStream)) := by
  have settled : drained ((Decoder.ofLimit 4).operateAll cutStream).2 = true := by decide
  obtain ⟨-, complete⟩ := schedule_independent 4 cutStream
  obtain ⟨packages, -, standing, -⟩ := complete settled
  exact ⟨settled, rfl, rfl, packages, standing⟩

end Courier.Frame
