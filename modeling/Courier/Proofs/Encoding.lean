import Courier.Frame.Codec
import Courier.Proofs.Wire
import Courier.Session.State

namespace Courier

/-- The number that bytes stand for, the high byte first. -/
def Bytes.bigEndian (bytes : Bytes) : Nat :=
  bytes.foldl (fun value byte => value * 256 + byte.toNat) 0

theorem Bytes.bigEndian_ofWord (value : UInt16) : bigEndian (ofWord value) = value.toNat := by
  have bound := value.toNat_lt
  simp only [bigEndian, ofWord, List.foldl_cons, List.foldl_nil, UInt8.toNat_ofNat',
    UInt16.toNat_toUInt8]
  omega

namespace Package

/-- The rule for which a package is refused under a body limit. Only a declared length that is
right is compared with the limit. -/
inductive RefusedFor (limit : UInt16) (package : Package) : Refusal → Prop where
  | mismatch (differs : package.bodyLength.toNat ≠ package.body.length) :
      RefusedFor limit package (.lengthMismatch package.bodyLength package.body.length)
  | overLimit (declared : package.bodyLength.toNat = package.body.length)
      (exceeds : limit.toNat < package.bodyLength.toNat) :
      RefusedFor limit package (.overLimit package.bodyLength limit)

/-- The bytes are the declared length and the id, two bytes each with the high one first, the kind
and the body. -/
def IsFrame (package : Package) (frame : Bytes) : Prop :=
  ∃ length id : Bytes, frame = length ++ id ++ [package.kind] ++ package.body ∧
    (length.length = 2 ∧ length.bigEndian = package.bodyLength.toNat) ∧
    id.length = 2 ∧ id.bigEndian = package.id.toNat

theorem isFrame_toBytes (package : Package) : package.IsFrame package.toBytes :=
  ⟨.ofWord package.bodyLength, .ofWord package.id, rfl, ⟨rfl, Bytes.bigEndian_ofWord _⟩, rfl,
    Bytes.bigEndian_ofWord _⟩

theorem fits_iff {limit : UInt16} {package : Package} :
    package.Fits limit ↔ package.bodyLength.toNat = package.body.length ∧
      package.bodyLength.toNat ≤ limit.toNat := by
  rw [← UInt16.le_iff_toNat_le, ← UInt16.not_lt]
  exact ⟨fun fits => ⟨fits.1, fits.2⟩, fun bounds => ⟨bounds.1, bounds.2⟩⟩

theorem check_eq_error_iff {limit : UInt16} {package : Package} {fault : Fault} :
    package.check limit = .error fault ↔
      ∃ refusal, fault = .unencodable refusal ∧ package.RefusedFor limit refusal := by
  unfold check
  constructor
  · intro refused
    split at refused
    · rename_i differs
      exact ⟨_, (Except.error.inj refused).symm, .mismatch differs⟩
    · rename_i declared
      split at refused
      · rename_i exceeds
        exact ⟨_, (Except.error.inj refused).symm,
          .overLimit (Decidable.not_not.mp declared) (UInt16.lt_iff_toNat_lt.mp exceeds)⟩
      · cases refused
  · rintro ⟨refusal, rfl, refused⟩
    cases refused with
    | mismatch differs => rw [if_pos differs]
    | overLimit declared exceeds =>
      rw [if_neg fun differs => differs declared, if_pos (UInt16.lt_iff_toNat_lt.mpr exceeds)]

theorem encodeInto_eq (limit : UInt16) (package : Package) (buffer : Bytes) :
    package.encodeInto limit buffer =
      match package.check limit with
      | .ok () => (.ok (), buffer ++ package.toBytes)
      | .error fault => (.error fault, buffer) := by
  cases checked : package.check limit with
  | ok => simp [encodeInto, encode, checked, bind, Except.bind, pure, Except.pure]
  | error => simp [encodeInto, encode, checked, bind, Except.bind]

theorem encode_eq_encodeInto (limit : UInt16) (package : Package) :
    package.encode limit =
      match package.encodeInto limit [] with
      | (.ok (), frame) => .ok frame
      | (.error fault, _) => .error fault := by
  rw [encodeInto]
  cases package.encode limit <;> rfl

theorem ofBody_eq_ok {id : UInt16} {kind : UInt8} {body : Bytes} {package : Package}
    (made : ofBody id kind body = .ok package) :
    body.length < UInt16.size ∧ package = ⟨⟨.ofNat body.length, id, kind⟩, body⟩ := by
  unfold ofBody ofBody? at made
  by_cases short : body.length < UInt16.size
  · rw [if_pos short] at made
    exact ⟨short, (Except.ok.inj made).symm⟩
  · rw [if_neg short] at made
    cases made

theorem ofBody_eq_error {id : UInt16} {kind : UInt8} {body : Bytes} {fault : Fault}
    (refused : ofBody id kind body = .error fault) :
    UInt16.size ≤ body.length ∧ fault = .unencodable (.bodyBeyondWord body.length) := by
  unfold ofBody ofBody? at refused
  by_cases short : body.length < UInt16.size
  · rw [if_pos short] at refused
    cases refused
  · rw [if_neg short] at refused
    exact ⟨Nat.not_lt.mp short, (Except.error.inj refused).symm⟩

theorem encodes_iff_of_declared {limit : UInt16} {package : Package}
    (declared : package.bodyLength.toNat = package.body.length) :
    (∃ frame, package.encode limit = .ok frame) ↔ package.body.length ≤ limit.toNat := by
  simp only [encode_eq_ok_iff, fits_iff, declared, true_and, exists_and_left, exists_eq, and_true]

end Package

theorem Session.sending_eq_unencodable_iff {Handler : Type} {session : Session Handler}
    {package : Package} {refusal : Refusal} :
    session.sending package = .refused (.unencodable refusal) ↔
      package.check session.plan.bodyLimit = .error (.unencodable refusal) := by
  cases checked : package.check session.plan.bodyLimit with
  | error fault => simp [sending, checked]
  | ok =>
    simp only [sending, checked, reduceCtorEq, iff_false]
    split
    · simp
    · split <;> simp

/-- What an answer to a sender tells: a package that passes the check is turned away only by a writer
that has stopped, and waits only for room. -/
def Session.Sending.Tells {Handler : Type} (session : Session Handler) (package : Package) :
    Session.Sending → Prop
  | .accepted =>
    package.check session.plan.bodyLimit = .ok () ∧ session.isClosed = false ∧
      session.outbound.length < session.plan.outboundLimit
  | .waits =>
    package.check session.plan.bodyLimit = .ok () ∧ session.isClosed = false ∧
      session.plan.outboundLimit ≤ session.outbound.length
  | .refused .connectionClosed =>
    package.check session.plan.bodyLimit = .ok () ∧ session.isClosed = true
  | .refused fault => package.check session.plan.bodyLimit = .error fault

theorem Session.tells_sending {Handler : Type} (session : Session Handler) (package : Package) :
    (session.sending package).Tells session package := by
  cases checked : package.check session.plan.bodyLimit with
  | error fault =>
    obtain ⟨refusal, rfl, -⟩ := Package.check_eq_error_iff.mp checked
    simp [sending, checked, Sending.Tells]
  | ok =>
    cases closed : session.isClosed with
    | true => simp [sending, checked, closed, Sending.Tells]
    | false =>
      by_cases room : session.outbound.length < session.plan.outboundLimit
      · simp [sending, checked, closed, room, Sending.Tells]
      · simp [sending, checked, closed, room, Nat.le_of_not_lt room, Sending.Tells]

/-- A package is written behind a buffer, as one frame, exactly if its declared length is the length
of its body and within the limit. Otherwise it is refused, for a wrong declared length rather than
for the limit, and the buffer stays as it was. The check, encoding by itself, a codec in any stage
and the admission to a session come to the same verdict; a session keeps out a package that passes
only if its writer has stopped, and lets it wait only for room. A package can be made for a body of at most
65535 bytes, and it is encoded exactly if the body is not longer than the limit. -/
theorem encoding_exact_or_refused {Handler : Type} (limit : UInt16) (package : Package)
    (buffer : Bytes) :
    (match package.encodeInto limit buffer with
      | (.ok (), after) =>
        package.bodyLength.toNat = package.body.length ∧
          package.bodyLength.toNat ≤ limit.toNat ∧
          ∃ frame, after = buffer ++ frame ∧ package.IsFrame frame
      | (.error fault, after) =>
        after = buffer ∧
          ∃ refusal, fault = .unencodable refusal ∧ package.RefusedFor limit refusal) ∧
      package.check limit = (package.encodeInto limit buffer).1 ∧
      package.encode limit =
        (match package.encodeInto limit [] with
        | (.ok (), frame) => .ok frame
        | (.error fault, _) => .error fault) ∧
      (∀ stage, Frame.Codec.encode ⟨⟨limit, stage⟩⟩ package buffer =
        package.encodeInto limit buffer) ∧
      (∀ (session : Session Handler) (refusal : Refusal),
        session.sending package = .refused (.unencodable refusal) ↔
          package.check session.plan.bodyLimit = .error (.unencodable refusal)) ∧
      (∀ session : Session Handler, (session.sending package).Tells session package) ∧
      ∀ (id : UInt16) (kind : UInt8) (body : Bytes),
        match Package.ofBody id kind body with
        | .ok made =>
          body.length ≤ 65535 ∧ made = ⟨⟨.ofNat body.length, id, kind⟩, body⟩ ∧
            ∀ limit, (∃ frame, made.encode limit = .ok frame) ↔ body.length ≤ limit.toNat
        | .error fault =>
          65535 < body.length ∧ fault = .unencodable (.bodyBeyondWord body.length) := by
  refine ⟨?_, ?_, package.encode_eq_encodeInto limit, fun _ => rfl,
    fun _ _ => Session.sending_eq_unencodable_iff, fun session => session.tells_sending package,
    fun id kind body => ?_⟩
  · rw [Package.encodeInto_eq]
    cases checked : package.check limit with
    | ok =>
      obtain ⟨declared, within⟩ := Package.fits_iff.mp (Package.check_eq_ok_iff.mp checked)
      exact ⟨declared, within, _, rfl, package.isFrame_toBytes⟩
    | error fault => exact ⟨rfl, Package.check_eq_error_iff.mp checked⟩
  · rw [Package.encodeInto_eq]
    cases package.check limit <;> rfl
  · cases made : Package.ofBody id kind body with
    | ok package =>
      obtain ⟨short, rfl⟩ := Package.ofBody_eq_ok made
      refine ⟨Nat.le_of_lt_succ short, rfl, fun limit => ?_⟩
      exact Package.encodes_iff_of_declared (UInt16.toNat_ofNat_of_lt' short)
    | error fault => exact Package.ofBody_eq_error made

/-- Of two rules that are broken the declared length is reported. -/
example : Package.encodeInto 1 ⟨⟨3, 7, 2⟩, [65, 66]⟩ [255] =
    (.error (.unencodable (.lengthMismatch 3 2)), [255]) := rfl

end Courier
