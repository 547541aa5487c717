import Courier.Proofs.Schedule

namespace Courier.Frame

/-- The answers that say more than that bytes are missing. -/
def resultsIn (answers : List Answer) : List (Except Fault Package) :=
  answers.filterMap id

section Concat

variable (answers : List Answer)

@[simp] theorem packagesIn_concat_package (package : Package) :
    packagesIn (answers ++ [some (.ok package)]) = packagesIn answers ++ [package] := by
  simp [packagesIn, package?]

@[simp] theorem packagesIn_concat_fault (fault : Fault) :
    packagesIn (answers ++ [some (.error fault)]) = packagesIn answers := by
  simp only [packagesIn, List.filterMap_append]
  exact List.append_nil _

@[simp] theorem packagesIn_concat_none : packagesIn (answers ++ [none]) = packagesIn answers := by
  simp only [packagesIn, List.filterMap_append]
  exact List.append_nil _

@[simp] theorem resultsIn_concat_some (result : Except Fault Package) :
    resultsIn (answers ++ [some result]) = resultsIn answers ++ [result] := by
  simp [resultsIn]

@[simp] theorem resultsIn_concat_none : resultsIn (answers ++ [none]) = resultsIn answers := by
  simp [resultsIn]

end Concat

/-- A fact about the bytes fed, the answers given and the decoder that no operation ends. -/
structure Lasting (held : Bytes → List Answer → Decoder → Prop) : Prop where
  push : ∀ {bytes answers decoder} (more : Bytes),
    held bytes answers decoder → held (bytes ++ more) answers (decoder.push more)
  pull : ∀ {bytes answers decoder}, held bytes answers decoder →
    held bytes (answers ++ [answerOf decoder.pull.2]) decoder.pull.1
  silent : ∀ {bytes answers decoder}, held bytes answers decoder →
    held bytes (answers ++ [none]) decoder

namespace Lasting

variable {held : Bytes → List Answer → Decoder → Prop} {bytes : Bytes} {answers : List Answer}

theorem next (lasting : Lasting held) {packages : Packages}
    (now : held bytes answers packages.decoder) :
    held bytes (answers ++ [packages.next.2]) packages.next.1.decoder := by
  have pulled := lasting.pull now
  unfold Packages.next
  split
  · exact lasting.silent now
  · split <;> rename_i result <;> rw [result] at pulled <;> exact pulled

theorem takeNext (lasting : Lasting held) {packages : Packages}
    (now : held bytes answers packages.decoder) (count : Nat) :
    held bytes (answers ++ (packages.takeNext count).2) (packages.takeNext count).1.decoder := by
  induction count generalizing packages answers with
  | zero => simpa [Packages.takeNext] using now
  | succ count ih => simpa [Packages.takeNext] using ih (lasting.next now)

theorem operate (lasting : Lasting held) {decoder : Decoder} (now : held bytes answers decoder)
    (operation : Operation) :
    held (bytes ++ operation.bytes) (answers ++ (decoder.operate operation).2)
      (decoder.operate operation).1 := by
  cases operation with
  | feed more pulls =>
    have pushed : held (bytes ++ more) answers (decoder.feed more).decoder := lasting.push more now
    exact lasting.takeNext pushed pulls
  | pull => simpa [Decoder.operate, Operation.bytes] using lasting.pull now

theorem operateAll (lasting : Lasting held) {decoder : Decoder} (now : held bytes answers decoder)
    (operations : List Operation) :
    held (bytes ++ fed operations) (answers ++ (decoder.operateAll operations).2.flatten)
      (decoder.operateAll operations).1 := by
  induction operations generalizing bytes answers decoder with
  | nil => simpa [Decoder.operateAll, fed] using now
  | cons operation rest ih =>
    simpa [Decoder.operateAll, fed] using ih (lasting.operate now operation)

end Lasting

/-- The faults that a decoder has reported, which is corrupt exactly if it has met an oversized
header. -/
inductive Reports (limit : UInt16) (stop : Stop) : Bool → List Fault → Prop where
  | sound : Reports limit stop false []
  | corrupt {declared : UInt16} (stopped : stop = .oversized declared) (repeats : Nat) :
      Reports limit stop true (.oversized declared limit :: List.replicate repeats .corrupt)

/-- All answers given for the bytes fed so far, in order. -/
structure Record (limit : UInt16) (bytes : Bytes) (answers : List Answer) (decoder : Decoder) : Prop
    extends Accounts limit bytes (packagesIn answers) decoder where
  order : ∃ faults, Reports limit (scan limit bytes).2 decoder.isCorrupt faults ∧
    resultsIn answers = (packagesIn answers).map .ok ++ faults.map .error

theorem Reports.append {limit : UInt16} {bytes : Bytes} {corrupt : Bool} {faults : List Fault}
    (reports : Reports limit (scan limit bytes).2 corrupt faults) (more : Bytes) :
    Reports limit (scan limit (bytes ++ more)).2 corrupt faults := by
  cases reports with
  | sound => exact .sound
  | corrupt stopped repeats =>
    exact .corrupt (by rw [scan_append_oversized more stopped, stopped]) repeats

theorem Record.pull {limit : UInt16} {bytes : Bytes} {answers : List Answer} {decoder : Decoder}
    (record : Record limit bytes answers decoder) :
    Record limit bytes (answers ++ [answerOf decoder.pull.2]) decoder.pull.1 := by
  obtain ⟨faults, reports, order⟩ := record.order
  rcases outcome : decoder.pull with ⟨next, fault | none | package⟩ <;> simp only [answerOf]
  · obtain ⟨accounts, -, after, ⟨rfl, before⟩ | ⟨declared, rfl, before, stopped⟩⟩ :=
      record.fault outcome
    · rw [before] at reports
      cases reports with
      | @corrupt declared stopped repeats =>
        have again : Reports limit (scan limit bytes).2 true _ := .corrupt stopped (repeats + 1)
        refine ⟨by simpa using accounts, _, by rw [after]; exact again, ?_⟩
        simp [order, List.replicate_succ']
    · rw [before] at reports
      cases reports
      have first : Reports limit (scan limit bytes).2 true _ := .corrupt stopped 0
      refine ⟨by simpa using accounts, _, by rw [after]; exact first, ?_⟩
      simp [order]
  · obtain ⟨accounts, -, before, after⟩ := record.waiting outcome
    rw [before] at reports
    exact ⟨by simpa using accounts, faults, by rw [after]; exact reports, by simpa using order⟩
  · obtain ⟨accounts, before, after⟩ := record.package outcome
    rw [before] at reports
    cases reports
    exact ⟨by simpa using accounts, [], by rw [after]; exact .sound, by simpa using order⟩

theorem record_lasting (limit : UInt16) : Lasting (Record limit) where
  push more record := by
    obtain ⟨faults, reports, order⟩ := record.order
    refine ⟨record.toAccounts.push more, faults, ?_, order⟩
    rw [isCorrupt_push]
    exact reports.append more
  pull := Record.pull
  silent record := ⟨by simpa using record.toAccounts, by simpa using record.order⟩

theorem record_operateAll (limit : UInt16) (operations : List Operation) :
    Record limit (fed operations) ((Decoder.ofLimit limit).operateAll operations).2.flatten
      ((Decoder.ofLimit limit).operateAll operations).1 := by
  have start : Record limit [] [] (.ofLimit limit) := ⟨.start limit, [], .sound, rfl⟩
  simpa using (record_lasting limit).operateAll start operations

/-- The faults of a decoder that has read all of a stream, and has been asked again so many times
after it rejected a header. -/
def Stop.faults (limit : UInt16) (repeats : Nat) : Stop → List Fault
  | .incomplete => []
  | .oversized declared => .oversized declared limit :: List.replicate repeats .corrupt

/-- A decoder that is drained has given the packages of the stream and then what stops it. -/
theorem results_of_drained (limit : UInt16) (operations : List Operation) :
    let (decoder, answers) := (Decoder.ofLimit limit).operateAll operations
    drained answers = true →
      Accounts limit (fed operations) (scan limit (fed operations)).1 decoder ∧ decoder.Rests ∧
        packagesIn answers.flatten = (scan limit (fed operations)).1 ∧
        ∃ repeats, resultsIn answers.flatten = (scan limit (fed operations)).1.map .ok ++
          ((scan limit (fed operations)).2.faults limit repeats).map .error := by
  intro settled
  have rests := ((Ledger.start limit).operateAll operations).2 settled
  have record := record_operateAll limit operations
  obtain ⟨faults, reports, order⟩ := record.order
  have given := record.packages_eq rests
  have corrupt := record.corrupt_iff rests
  refine ⟨given ▸ record.toAccounts, rests, given, ?_⟩
  rw [order, given]
  cases stop : (scan limit (fed operations)).2 with
  | incomplete =>
    simp only [stop, reduceCtorEq, exists_false, iff_false, Bool.not_eq_true] at corrupt
    rw [corrupt] at reports
    cases reports
    exact ⟨0, rfl⟩
  | oversized declared =>
    rw [corrupt.mpr ⟨declared, stop⟩, stop] at reports
    cases reports with
    | corrupt stopped repeats =>
      cases stopped
      exact ⟨repeats, rfl⟩

theorem pull_of_corrupt {decoder : Decoder} (corrupt : decoder.isCorrupt = true) :
    decoder.pull = (decoder, .error .corrupt) := by
  obtain ⟨⟨limit, stage⟩, buffer⟩ := decoder
  cases stage with
  | corrupt => rfl
  | header | body => cases corrupt

/-- A corrupt decoder gives no package, whatever it is fed. -/
theorem packagesIn_of_corrupt {decoder : Decoder} (corrupt : decoder.isCorrupt = true)
    (operations : List Operation) : packagesIn (decoder.operateAll operations).2.flatten = [] := by
  have lasting : Lasting fun _ answers decoder =>
      decoder.isCorrupt = true ∧ packagesIn answers = [] := by
    constructor
    · intro bytes answers decoder more ⟨corrupt, without⟩
      exact ⟨by rwa [isCorrupt_push], without⟩
    · intro bytes answers decoder ⟨corrupt, without⟩
      rw [pull_of_corrupt corrupt]
      exact ⟨corrupt, by simpa [answerOf] using without⟩
    · intro bytes answers decoder ⟨corrupt, without⟩
      exact ⟨corrupt, by simpa using without⟩
  have later := @Lasting.operateAll _ [] [] lasting decoder ⟨corrupt, rfl⟩ operations
  simpa using later.2

end Courier.Frame
