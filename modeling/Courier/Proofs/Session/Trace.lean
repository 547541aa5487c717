import Courier.Session.Step

namespace Courier.Session

variable {Handler : Type}

/-- Make moves in order, with the signals given on the way. There is no result when one of the
moves is not possible. -/
def play (session : Session Handler) : List Move → Option (Session Handler × List Signal)
  | [] => some (session, [])
  | move :: rest =>
    match session.step move with
    | none => none
    | some (next, signals) => (next.play rest).map fun (last, more) => (last, signals ++ more)

/-- The runs of a session from a state by their moves. -/
inductive Trace (start : Session Handler) :
    Session Handler → List Move → List Signal → Prop where
  | stay : Trace start start [] []
  | step {session next : Session Handler} {moves : List Move} {signals more : List Signal}
      {move : Move} (earlier : Trace start session moves signals)
      (taken : session.step move = some (next, more)) :
      Trace start next (moves ++ [move]) (signals ++ more)

variable {start session next : Session Handler} {moves : List Move} {move : Move}
  {signals more : List Signal}

theorem Trace.run (trace : Trace start session moves signals) : Run start session signals := by
  induction trace with
  | stay => exact .stay
  | step _ taken ih => exact .step ih taken

theorem Run.trace (run : Run start session signals) :
    ∃ moves, Trace start session moves signals := by
  induction run with
  | stay => exact ⟨[], .stay⟩
  | step _ taken ih =>
    obtain ⟨moves, trace⟩ := ih
    exact ⟨_, trace.step taken⟩

theorem Trace.cons (taken : start.step move = some (next, signals))
    (later : Trace next session moves more) :
    Trace start session (move :: moves) (signals ++ more) := by
  induction later with
  | stay => simpa using Trace.step .stay taken
  | step _ last ih =>
    rw [← List.cons_append, ← List.append_assoc]
    exact .step ih last

theorem play_concat (played : start.play moves = some (session, signals))
    (taken : session.step move = some (next, more)) :
    start.play (moves ++ [move]) = some (next, signals ++ more) := by
  induction moves generalizing start signals with
  | nil =>
    obtain ⟨rfl, rfl⟩ : start = session ∧ [] = signals := by simpa [play] using played
    simp [play, taken]
  | cons first rest ih =>
    cases moved : start.step first with
    | none => simp [play, moved] at played
    | some outcome =>
      obtain ⟨second, before⟩ := outcome
      simp only [play, moved, Option.map_eq_some_iff] at played
      obtain ⟨⟨last, after⟩, remaining, same⟩ := played
      obtain ⟨rfl, rfl⟩ := Prod.mk.inj same
      simp [play, moved, ih remaining]

theorem trace_iff_play :
    Trace start session moves signals ↔ start.play moves = some (session, signals) := by
  constructor
  · intro trace
    induction trace with
    | stay => rfl
    | step _ taken ih => exact play_concat ih taken
  · intro played
    induction moves generalizing start signals with
    | nil =>
      obtain ⟨rfl, rfl⟩ : start = session ∧ [] = signals := by simpa [play] using played
      exact .stay
    | cons first rest ih =>
      cases moved : start.step first with
      | none => simp [play, moved] at played
      | some outcome =>
        obtain ⟨second, before⟩ := outcome
        simp only [play, moved, Option.map_eq_some_iff] at played
        obtain ⟨⟨last, after⟩, remaining, same⟩ := played
        obtain ⟨rfl, rfl⟩ := Prod.mk.inj same
        exact .cons moved (ih remaining)

theorem play_append {first second : List Move}
    (played : start.play (first ++ second) = some (session, signals))
    (opening : start.play first = some (next, more)) :
    ∃ later, next.play second = some (session, later) ∧ signals = more ++ later := by
  induction first generalizing start signals more with
  | nil =>
    obtain ⟨rfl, rfl⟩ : start = next ∧ [] = more := by simpa [play] using opening
    exact ⟨signals, played, rfl⟩
  | cons move rest ih =>
    cases moved : start.step move with
    | none => simp [play, moved] at opening
    | some outcome =>
      obtain ⟨middle, before⟩ := outcome
      simp only [List.cons_append, play, moved, Option.map_eq_some_iff] at played opening
      obtain ⟨⟨last, after⟩, remaining, same⟩ := played
      obtain ⟨rfl, rfl⟩ := Prod.mk.inj same
      obtain ⟨⟨last, between⟩, opened, same⟩ := opening
      obtain ⟨rfl, rfl⟩ := Prod.mk.inj same
      obtain ⟨later, played, split⟩ := ih remaining opened
      exact ⟨later, played, by rw [split, List.append_assoc]⟩

/-- What the peer takes from the transport in a move. -/
def peerTakes (session : Session Handler) : Move → Bytes
  | .outer (.peerRead count) => (session.output.read count).1
  | _ => []

/-- All that the peer takes from the transport. -/
def peerReads (session : Session Handler) : List Move → Bytes
  | [] => []
  | move :: rest =>
    match session.step move with
    | none => []
    | some (next, _) => session.peerTakes move ++ next.peerReads rest

theorem peerReads_concat (played : start.play moves = some (session, signals))
    (taken : session.step move = some (next, more)) :
    start.peerReads (moves ++ [move]) = start.peerReads moves ++ session.peerTakes move := by
  induction moves generalizing start signals with
  | nil =>
    cases played
    simp [peerReads, taken]
  | cons first rest ih =>
    cases moved : start.step first with
    | none => simp [play, moved] at played
    | some outcome =>
      obtain ⟨second, before⟩ := outcome
      simp only [play, moved, Option.map_eq_some_iff] at played
      obtain ⟨⟨last, after⟩, remaining, same⟩ := played
      obtain ⟨rfl, rfl⟩ := Prod.mk.inj same
      simp [peerReads, moved, ih remaining]

end Courier.Session
