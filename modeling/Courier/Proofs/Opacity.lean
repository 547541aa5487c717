import Courier.Proofs.Schedule

namespace Courier.Frame

open Package (wire)

/-- The byte at this place is one of five that are read as a header, behind some of the packages of
the stream or behind them all. What is too short for a header is not read as one. -/
def IsHeaderPlace (limit : UInt16) (stream : Bytes) (place : Nat) : Prop :=
  ∃ before, before <+: (scan limit stream).1 ∧ (wire before).length ≤ place ∧
    place < (wire before).length + Header.size ∧
    (wire before).length + Header.size ≤ stream.length

theorem isHeaderPlace_package_iff {limit : UInt16} {package : Package} {rest : Bytes} {place : Nat}
    (fits : package.Fits limit) :
    IsHeaderPlace limit (package.toBytes ++ rest) place ↔
      place < Header.size ∨
        ∃ later, place = package.frameLength + later ∧ IsHeaderPlace limit rest later := by
  constructor
  · rintro ⟨before, isPrefix, above, below, whole⟩
    rw [scan_package fits] at isPrefix
    cases before with
    | nil => exact .inl (by simpa using below)
    | cons first before =>
      obtain ⟨rfl, others⟩ := List.cons_prefix_cons.mp isPrefix
      simp only [Package.wire_cons, List.length_append, Package.length_toBytes] at above below whole
      exact .inr ⟨place - first.frameLength, by omega, before, others, by omega, by omega,
        by omega⟩
  · rintro (first | ⟨later, rfl, before, isPrefix, above, below, whole⟩)
    · refine ⟨[], List.nil_prefix, Nat.zero_le _, by simpa using first, ?_⟩
      simp [Package.frameLength, Nat.add_assoc]
    · refine ⟨package :: before, ?_, ?_⟩
      · rw [scan_package fits]
        exact List.cons_prefix_cons.mpr ⟨rfl, isPrefix⟩
      · simp only [Package.wire_cons, List.length_append, Package.length_toBytes]
        omega

/-- Streams of one length that have the same bytes wherever the first of them has a header. -/
structure AgreeOnHeaders (limit : UInt16) (stream other : Bytes) : Prop where
  length : other.length = stream.length
  headers : ∀ place, IsHeaderPlace limit stream place → other[place]? = stream[place]?

namespace AgreeOnHeaders

variable {limit : UInt16} {header : Header} {rest otherRest : Bytes}

theorem header_prefix {other : Bytes}
    (agree : AgreeOnHeaders limit (header.toBytes ++ rest) other) : header.toBytes <+: other := by
  have front : other.take Header.size = header.toBytes := by
    apply List.ext_getElem?
    intro place
    rw [List.getElem?_take]
    split
    · rename_i inside
      have read : IsHeaderPlace limit (header.toBytes ++ rest) place :=
        ⟨[], List.nil_prefix, Nat.zero_le _, by simpa using inside, by simp⟩
      rw [agree.headers place read, List.getElem?_append_left (by simpa using inside)]
    · rename_i outside
      exact (List.getElem?_eq_none (by simpa using outside)).symm
  rw [← front]
  exact List.take_prefix _ _

theorem of_dry (dry : (scan limit (header.toBytes ++ rest)).1 = [])
    (length : otherRest.length = rest.length) :
    AgreeOnHeaders limit (header.toBytes ++ rest) (header.toBytes ++ otherRest) where
  length := by simp [length]
  headers place := by
    rintro ⟨before, isPrefix, -, below, -⟩
    rw [dry, List.prefix_nil] at isPrefix
    subst isPrefix
    have inside : place < header.toBytes.length := by simpa using below
    rw [List.getElem?_append_left inside, List.getElem?_append_left inside]

theorem package_iff {body otherBody : Bytes} (fits : Package.Fits limit ⟨header, body⟩)
    (size : otherBody.length = body.length) :
    AgreeOnHeaders limit (Package.toBytes ⟨header, body⟩ ++ rest)
        (Package.toBytes ⟨header, otherBody⟩ ++ otherRest) ↔
      AgreeOnHeaders limit rest otherRest := by
  have frames : (Package.toBytes ⟨header, otherBody⟩).length =
      (Package.toBytes ⟨header, body⟩).length := by simp [Package.frameLength, size]
  constructor
  · intro agree
    refine ⟨?_, ?_⟩
    · simpa [frames] using agree.length
    · intro place read
      have same := agree.headers _ ((isHeaderPlace_package_iff fits).mpr (.inr ⟨place, rfl, read⟩))
      rw [← Package.length_toBytes, List.getElem?_append_right (Nat.le_add_right _ _), ← frames,
        List.getElem?_append_right (Nat.le_add_right _ _)] at same
      simpa using same
  · intro agree
    refine ⟨by simp [frames, agree.length], ?_⟩
    intro place read
    rcases (isHeaderPlace_package_iff fits).mp read with first | ⟨later, rfl, behind⟩
    · have inside : place < header.toBytes.length := by simpa using first
      simp only [Package.toBytes, List.append_assoc]
      rw [List.getElem?_append_left inside, List.getElem?_append_left inside]
    · rw [← Package.length_toBytes, List.getElem?_append_right (Nat.le_add_right _ _), ← frames,
        List.getElem?_append_right (Nat.le_add_right _ _)]
      simpa using agree.headers later behind

end AgreeOnHeaders

/-- One operation on a decoder, but for the bytes that it feeds. -/
inductive Beat where
  | feed (count pulls : Nat)
  | pull
  deriving DecidableEq, Repr

def operationsOn : List Beat → Bytes → List Operation
  | [], _ => []
  | .feed count pulls :: rest, stream =>
    .feed (stream.take count) pulls :: operationsOn rest (stream.drop count)
  | .pull :: rest, stream => .pull :: operationsOn rest stream

/-- What an answer says when the body of its package is withheld. -/
def headerOf : Answer → Option (Except Fault Header) :=
  Option.map (Except.map Package.toHeader)

def Decoder.observe (decoder : Decoder) :
    List Operation → List (List (Option (Except Fault Header)) × Standing)
  | [] => []
  | operation :: rest =>
    let (next, answers) := decoder.operate operation
    (answers.map headerOf, next.standing) :: next.observe rest

/-- Two decoders and what is still to come of their streams, alike but for bodies. -/
inductive Twins (limit : UInt16) (coming otherComing : Bytes) : Decoder → Decoder → Prop where
  | between {buffer other : Bytes} (length : other.length = buffer.length)
      (agree : AgreeOnHeaders limit (buffer ++ coming) (other ++ otherComing)) :
      Twins limit coming otherComing ⟨⟨limit, .header⟩, buffer⟩ ⟨⟨limit, .header⟩, other⟩
  | midFrame {header : Header} {buffer other : Bytes} (within : ¬ limit < header.bodyLength)
      (length : other.length = buffer.length)
      (agree : AgreeOnHeaders limit (header.toBytes ++ (buffer ++ coming))
        (header.toBytes ++ (other ++ otherComing))) :
      Twins limit coming otherComing ⟨⟨limit, .body header⟩, buffer⟩
        ⟨⟨limit, .body header⟩, other⟩
  | corrupt : Twins limit coming otherComing ⟨⟨limit, .corrupt⟩, []⟩ ⟨⟨limit, .corrupt⟩, []⟩

namespace Twins

variable {limit : UInt16} {coming otherComing : Bytes} {decoder twin : Decoder}

theorem standing_eq (twins : Twins limit coming otherComing decoder twin) :
    twin.standing = decoder.standing := by
  cases twins with
  | between length | midFrame _ length =>
    simp [Decoder.standing, Decoder.pending, length, Decoder.isMidFrame, Decoder.isCorrupt]
  | corrupt => rfl

theorem push {chunk otherChunk : Bytes}
    (twins : Twins limit (chunk ++ coming) (otherChunk ++ otherComing) decoder twin)
    (size : otherChunk.length = chunk.length) :
    Twins limit coming otherComing (decoder.push chunk) (twin.push otherChunk) := by
  cases twins with
  | between length agree =>
    refine .between (by simp [length, size]) ?_
    simpa only [List.append_assoc] using agree
  | midFrame within length agree =>
    refine .midFrame within (by simp [length, size]) ?_
    simpa only [List.append_assoc] using agree
  | corrupt => exact .corrupt

private theorem pullBody {stage : Stage} {header : Header} {buffer other : Bytes}
    (within : ¬ limit < header.bodyLength) (length : other.length = buffer.length)
    (agree : AgreeOnHeaders limit (header.toBytes ++ (buffer ++ coming))
      (header.toBytes ++ (other ++ otherComing))) :
    let pulled := Reader.pullBody ⟨limit, stage⟩ header buffer
    let twinPulled := Reader.pullBody ⟨limit, stage⟩ header other
    Twins limit coming otherComing ⟨pulled.1, pulled.2.1⟩ ⟨twinPulled.1, twinPulled.2.1⟩ ∧
      headerOf (answerOf twinPulled.2.2) = headerOf (answerOf pulled.2.2) := by
  unfold Reader.pullBody
  cases cut : Bytes.cut? header.bodyLength.toNat buffer with
  | none =>
    have short := Bytes.cut?_eq_none_iff.mp cut
    rw [← length] at short
    rw [Bytes.cut?_eq_none_iff.mpr short]
    exact ⟨.midFrame within length agree, rfl⟩
  | some parts =>
    obtain ⟨body, rest⟩ := parts
    obtain ⟨rfl, size⟩ := Bytes.cut?_eq_some_iff.mp cut
    have enough : ¬ other.length < header.bodyLength.toNat := by
      rw [length, List.length_append]
      omega
    cases otherCut : Bytes.cut? header.bodyLength.toNat other with
    | none => exact absurd (Bytes.cut?_eq_none_iff.mp otherCut) enough
    | some otherParts =>
      obtain ⟨otherBody, otherRest⟩ := otherParts
      obtain ⟨rfl, otherSize⟩ := Bytes.cut?_eq_some_iff.mp otherCut
      have fits : Package.Fits limit ⟨header, body⟩ := ⟨size.symm, within⟩
      have behind : AgreeOnHeaders limit (rest ++ coming) (otherRest ++ otherComing) := by
        refine (AgreeOnHeaders.package_iff fits (otherSize.trans size.symm)).mp ?_
        simpa [Package.toBytes] using agree
      simp only [List.length_append, size, otherSize, Nat.add_left_cancel_iff] at length
      exact ⟨.between length behind, rfl⟩

theorem pull (twins : Twins limit coming otherComing decoder twin) :
    Twins limit coming otherComing decoder.pull.1 twin.pull.1 ∧
      headerOf (answerOf twin.pull.2) = headerOf (answerOf decoder.pull.2) := by
  cases twins with
  | @between buffer other length agree =>
    cases found : Header.read? buffer with
    | none =>
      have short := Header.read?_eq_none_iff.mp found
      rw [← length] at short
      have otherFound := Header.read?_eq_none_iff.mpr short
      simp only [Decoder.pull, Reader.pull, found, otherFound, and_true]
      exact .between length agree
    | some front =>
      obtain ⟨header, rest⟩ := front
      obtain rfl := Header.read?_eq_some_iff.mp found
      rw [List.append_assoc] at agree
      -- Both streams begin with this header, and the buffers are as long as each other.
      obtain ⟨otherRest, rfl⟩ : header.toBytes <+: other := by
        refine List.prefix_of_prefix_length_le agree.header_prefix (List.prefix_append _ _) ?_
        rw [length, List.length_append]
        exact Nat.le_add_right _ _
      have otherFound := Header.read?_toBytes_append header otherRest
      by_cases exceeds : limit < header.bodyLength
      · simp only [Decoder.pull, Reader.pull, found, otherFound, exceeds, if_true, and_true]
        exact .corrupt
      · simp only [Decoder.pull, Reader.pull, found, otherFound, exceeds, if_false]
        rw [List.append_assoc] at agree
        exact pullBody exceeds (by simpa using length) agree
  | midFrame within length agree => exact pullBody within length agree
  | corrupt => exact ⟨.corrupt, rfl⟩

theorem next {coming otherComing : Bytes} {packages others : Packages}
    (twins : Twins limit coming otherComing packages.decoder others.decoder)
    (ended : others.ended = packages.ended) :
    Twins limit coming otherComing packages.next.1.decoder others.next.1.decoder ∧
      others.next.1.ended = packages.next.1.ended ∧
      headerOf others.next.2 = headerOf packages.next.2 := by
  obtain ⟨pulled, answers⟩ := twins.pull
  unfold Packages.next
  rw [ended]
  split
  · exact ⟨twins, ended, rfl⟩
  · rcases decoderPull : packages.decoder.pull with ⟨decoder, fault | none | package⟩ <;>
      rcases twinPull : others.decoder.pull with ⟨twin, otherFault | none | otherPackage⟩ <;>
      rw [decoderPull, twinPull] at pulled answers
    all_goals first
      | exact ⟨pulled, rfl, answers⟩
      | cases answers

theorem takeNext {packages others : Packages}
    (twins : Twins limit coming otherComing packages.decoder others.decoder)
    (ended : others.ended = packages.ended) (count : Nat) :
    Twins limit coming otherComing (packages.takeNext count).1.decoder
        (others.takeNext count).1.decoder ∧
      (others.takeNext count).2.map headerOf = (packages.takeNext count).2.map headerOf := by
  induction count generalizing packages others with
  | zero => exact ⟨twins, rfl⟩
  | succ count ih =>
    obtain ⟨later, stillEnded, answer⟩ := twins.next ended
    obtain ⟨last, answers⟩ := ih later stillEnded
    refine ⟨last, ?_⟩
    simp only [Packages.takeNext, List.map_cons, answer, answers]

theorem feed {chunk otherChunk : Bytes}
    (twins : Twins limit (chunk ++ coming) (otherChunk ++ otherComing) decoder twin)
    (size : otherChunk.length = chunk.length) (pulls : Nat) :
    Twins limit coming otherComing (decoder.operate (.feed chunk pulls)).1
        (twin.operate (.feed otherChunk pulls)).1 ∧
      (twin.operate (.feed otherChunk pulls)).2.map headerOf =
        (decoder.operate (.feed chunk pulls)).2.map headerOf := by
  have pushed : Twins limit coming otherComing (decoder.feed chunk).decoder
      (twin.feed otherChunk).decoder := twins.push size
  exact pushed.takeNext rfl pulls

theorem observe_eq (twins : Twins limit coming otherComing decoder twin)
    (length : otherComing.length = coming.length) (schedule : List Beat) :
    twin.observe (operationsOn schedule otherComing) =
      decoder.observe (operationsOn schedule coming) := by
  induction schedule generalizing coming otherComing decoder twin with
  | nil => rfl
  | cons beat rest ih =>
    cases beat with
    | feed count pulls =>
      have cut : Twins limit (coming.take count ++ coming.drop count)
          (otherComing.take count ++ otherComing.drop count) decoder twin := by
        simpa only [List.take_append_drop] using twins
      obtain ⟨fed, answers⟩ := cut.feed (by simp [length]) pulls
      have later := ih fed (by simp [length])
      simp only [operationsOn, Decoder.observe, answers, fed.standing_eq, later]
    | pull =>
      obtain ⟨pulled, answer⟩ := twins.pull
      have later := ih pulled length
      simp only [operationsOn, Decoder.observe, Decoder.operate, List.map_cons, List.map_nil, answer,
        pulled.standing_eq, later]

end Twins

/-- Under one schedule of chunk lengths and requests, streams that have the same headers are answered
alike at every step, bodies withheld, and leave decoders that look alike. So no body is ever taken
for a header. -/
theorem observation_blind_to_bodies {limit : UInt16} {stream other : Bytes}
    (agree : AgreeOnHeaders limit stream other) (schedule : List Beat) :
    (Decoder.ofLimit limit).observe (operationsOn schedule other) =
      (Decoder.ofLimit limit).observe (operationsOn schedule stream) := by
  have start : Twins limit stream other (.ofLimit limit) (.ofLimit limit) := .between rfl agree
  exact start.observe_eq agree.length schedule

/-- A package with this body, one without a body, and one of whose body only a part has come. -/
def streamWith (body part : Bytes) : Bytes :=
  Package.toBytes ⟨⟨5, 8, 1⟩, body⟩ ++
    (Package.toBytes ⟨⟨0, 1, 3⟩, []⟩ ++ (Header.toBytes ⟨6, 2, 2⟩ ++ part))

/-- The one body is text, the other looks like a header that declares too long a body. -/
theorem observation_blind_to_disguised_header :
    let schedule : List Beat := [.feed 7 1, .pull, .feed 4 0, .feed 11 3, .pull]
    AgreeOnHeaders 9 (streamWith [65, 66, 67, 68, 69] [7, 7])
        (streamWith [255, 255, 0, 0, 0] [0, 0]) ∧
      (Decoder.ofLimit 9).observe
          (operationsOn schedule (streamWith [255, 255, 0, 0, 0] [0, 0])) =
        (Decoder.ofLimit 9).observe
          (operationsOn schedule (streamWith [65, 66, 67, 68, 69] [7, 7])) := by
  have text : Package.Fits 9 ⟨⟨5, 8, 1⟩, [65, 66, 67, 68, 69]⟩ := ⟨rfl, by decide⟩
  have empty : Package.Fits 9 ⟨⟨0, 1, 3⟩, []⟩ := ⟨rfl, by decide⟩
  have dry : (scan 9 (Header.toBytes ⟨6, 2, 2⟩ ++ [7, 7])).1 = [] := by
    rw [scan_unfinished (by decide) (by decide)]
  have agree : AgreeOnHeaders 9 (streamWith [65, 66, 67, 68, 69] [7, 7])
      (streamWith [255, 255, 0, 0, 0] [0, 0]) :=
    (AgreeOnHeaders.package_iff text (by rfl)).mpr
      ((AgreeOnHeaders.package_iff empty (by rfl)).mpr (.of_dry dry (by rfl)))
  exact ⟨agree, observation_blind_to_bodies agree _⟩

end Courier.Frame
