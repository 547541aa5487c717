import Courier.Proofs.Limits
import Mathlib.Data.String.Basic

namespace Courier.Settings

/-- The quantities of settings that are limited, in the order of their sections. -/
inductive Limit where
  | bodyLength
  | dispatchQueue
  | outboundQueue
  | readBuffer
  | shutdown
  | address
  | connections
  | name
  deriving DecidableEq, Repr

namespace Limit

def ofSession : List Limit :=
  [.bodyLength, .dispatchQueue, .outboundQueue, .readBuffer, .shutdown]

def all : List Limit :=
  ofSession ++ [.address, .connections, .name]

end Limit

structure Gauge where
  /-- The longest timeout that is kept, in nanoseconds. -/
  longest : Nat
  /-- The size of a name, which is to be 64 at most. -/
  size : String → Nat

/-- What the wording of the problems says: a minute, and characters. -/
def Gauge.stated : Gauge :=
  ⟨60000000000, String.length⟩

/-- What is looked at: whole seconds, and bytes. -/
def Gauge.measured : Gauge :=
  ⟨60999999999, String.utf8ByteSize⟩

def keeps (gauge : Gauge) (settings : Settings) : Limit → Bool
  | .bodyLength => 1 ≤ settings.framing.maxBodyLength.toNat
  | .dispatchQueue =>
    1 ≤ settings.session.dispatchQueueLimit.toNat ∧
      settings.session.dispatchQueueLimit.toNat ≤ 1000000
  | .outboundQueue => 1 ≤ settings.session.outboundQueueLimit.toNat
  | .readBuffer =>
    64 ≤ settings.session.readBufferSize.toNat ∧
      settings.session.readBufferSize.toNat ≤ 16 * 1024 * 1024
  | .shutdown =>
    10000000 ≤ settings.session.shutdownTimeout.toNanos ∧
      settings.session.shutdownTimeout.toNanos ≤ gauge.longest
  | .address => (SocketAddress.parse? settings.server.address).isSome
  | .connections => 1 ≤ settings.server.maxConnections.toNat
  | .name => 1 ≤ gauge.size settings.logging.appName ∧ gauge.size settings.logging.appName ≤ 64

namespace Problem

def limit : Problem → Limit
  | .bodyLimitZero => .bodyLength
  | .dispatchQueueZero | .dispatchQueueLarge _ => .dispatchQueue
  | .outboundQueueZero => .outboundQueue
  | .readBufferSmall | .readBufferLarge => .readBuffer
  | .shutdownShort | .shutdownLong => .shutdown
  | .addressEmpty | .addressInvalid _ => .address
  | .connectionsZero => .connections
  | .nameEmpty | .nameLong _ => .name

/-- What a problem says of settings: the end of the limit that is passed, and by which value. -/
def IsTrueOf (settings : Settings) : Problem → Prop
  | .bodyLimitZero => settings.framing.maxBodyLength.toNat = 0
  | .dispatchQueueZero => settings.session.dispatchQueueLimit.toNat = 0
  | .dispatchQueueLarge value =>
    value = settings.session.dispatchQueueLimit ∧ 1000000 < value.toNat
  | .outboundQueueZero => settings.session.outboundQueueLimit.toNat = 0
  | .readBufferSmall => settings.session.readBufferSize.toNat < 64
  | .readBufferLarge => 16 * 1024 * 1024 < settings.session.readBufferSize.toNat
  | .shutdownShort => settings.session.shutdownTimeout.toNanos < 10000000
  | .shutdownLong => 60000000000 < settings.session.shutdownTimeout.toNanos
  | .addressEmpty => settings.server.address = ""
  | .addressInvalid value =>
    value = settings.server.address ∧ SocketAddress.parse? value = none
  | .connectionsZero => settings.server.maxConnections.toNat = 0
  | .nameEmpty => settings.logging.appName = ""
  | .nameLong size => size = settings.logging.appName.utf8ByteSize ∧ 64 < size

end Problem

def problem? (settings : Settings) : Limit → Option Problem
  | .bodyLength => if settings.framing.maxBodyLength = 0 then some .bodyLimitZero else none
  | .dispatchQueue =>
    if settings.session.dispatchQueueLimit = 0 then some .dispatchQueueZero
    else if 1000000 < settings.session.dispatchQueueLimit then
      some (.dispatchQueueLarge settings.session.dispatchQueueLimit)
    else none
  | .outboundQueue =>
    if settings.session.outboundQueueLimit = 0 then some .outboundQueueZero else none
  | .readBuffer =>
    if settings.session.readBufferSize < 64 then some .readBufferSmall
    else if 16777216 < settings.session.readBufferSize then some .readBufferLarge
    else none
  | .shutdown =>
    if settings.session.shutdownTimeout.toMillis < 10 then some .shutdownShort
    else if 60 < settings.session.shutdownTimeout.seconds then some .shutdownLong
    else none
  | .address =>
    if settings.server.address = "" then some .addressEmpty
    else if SocketAddress.parse? settings.server.address = none then
      some (.addressInvalid settings.server.address)
    else none
  | .connections => if settings.server.maxConnections = 0 then some .connectionsZero else none
  | .name =>
    if settings.logging.appName = "" then some .nameEmpty
    else if 64 < settings.logging.appName.utf8ByteSize then
      some (.nameLong settings.logging.appName.utf8ByteSize)
    else none

theorem sessionProblems_eq (settings : Settings) :
    settings.framing.problems ++ settings.session.problems =
      Limit.ofSession.filterMap settings.problem? := by
  simp only [Framing.problems, Session.problems, violation, List.filterMap_eq_flatMap_toList,
    Limit.ofSession, List.flatMap_cons, List.flatMap_nil, problem?, apply_ite Option.toList,
    Option.toList_some, Option.toList_none, List.append_nil, List.append_assoc]

theorem problems_eq (settings : Settings) :
    settings.problems = Limit.all.filterMap settings.problem? := by
  have others : settings.server.problems ++ settings.logging.problems =
      List.filterMap settings.problem? [.address, .connections, .name] := by
    simp only [Server.problems, Logging.problems, violation, List.filterMap_eq_flatMap_toList,
      List.flatMap_cons, List.flatMap_nil, problem?, apply_ite Option.toList,
      Option.toList_some, Option.toList_none, List.append_nil, List.append_assoc]
  rw [problems, List.append_assoc, sessionProblems_eq, others, Limit.all, List.filterMap_append]

section Judging

variable (settings : Settings)

/-- What is found about a limit: that it is kept, or a problem with it that is true. -/
def Judges (limit : Limit) : Option Problem → Prop
  | none => settings.keeps .measured limit = true
  | some problem =>
    settings.keeps .measured limit = false ∧ problem.limit = limit ∧ problem.IsTrueOf settings

variable {settings} {limit : Limit} {low high : Prop} [Decidable low] [Decidable high]
  {first second : Problem}

private theorem judges_one (kept : settings.keeps .measured limit = true ↔ ¬ low)
    (about : first.limit = limit) (holds : low → first.IsTrueOf settings) :
    settings.Judges limit (if low then some first else none) := by
  split
  · rename_i below
    have broken : settings.keeps .measured limit = false := by simpa [below] using kept
    exact ⟨broken, about, holds below⟩
  · rename_i above
    exact kept.mpr above

private theorem judges_either (kept : settings.keeps .measured limit = true ↔ ¬ low ∧ ¬ high)
    (about : first.limit = limit ∧ second.limit = limit)
    (holds : (low → first.IsTrueOf settings) ∧ (high → second.IsTrueOf settings)) :
    settings.Judges limit (if low then some first else if high then some second else none) := by
  split
  · rename_i below
    have broken : settings.keeps .measured limit = false := by simpa [below] using kept
    exact ⟨broken, about.1, holds.1 below⟩
  · rename_i above
    exact judges_one (kept.trans (and_iff_right above)) about.2 holds.2

private theorem judges_shutdown : settings.Judges .shutdown (settings.problem? .shutdown) := by
  have part := settings.session.shutdownTimeout.nanos.isLt
  have minute : (60 : UInt64).toNat = 60 := rfl
  have longest : Gauge.measured.longest = 60999999999 := rfl
  refine judges_either ?_ ⟨rfl, rfl⟩ ⟨?_, ?_⟩
  · rw [keeps, decide_eq_true_iff]
    simp only [Duration.toNanos, Duration.toMillis, UInt64.lt_iff_toNat_lt]
    omega
  all_goals
    simp only [Problem.IsTrueOf, Duration.toNanos, Duration.toMillis, UInt64.lt_iff_toNat_lt]
    omega

private theorem judges_address : settings.Judges .address (settings.problem? .address) := by
  refine judges_either ?_ ⟨rfl, rfl⟩ ⟨fun empty => empty, fun unreadable => ⟨rfl, unreadable⟩⟩
  have unreadable : SocketAddress.parse? "" = none := by decide
  rw [keeps, Option.isSome_iff_ne_none]
  constructor
  · intro readable
    refine ⟨fun empty => readable ?_, readable⟩
    rw [empty, unreadable]
  · exact And.right

private theorem judges_name : settings.Judges .name (settings.problem? .name) := by
  refine judges_either ?_ ⟨rfl, rfl⟩ ⟨fun empty => empty, fun long => ⟨rfl, long⟩⟩
  have size : Gauge.measured.size = String.utf8ByteSize := rfl
  simp only [keeps, size, decide_eq_true_eq, ← String.utf8ByteSize_eq_zero_iff]
  omega

theorem judges_problem? (settings : Settings) (limit : Limit) :
    settings.Judges limit (settings.problem? limit) := by
  cases limit with
  | bodyLength =>
    refine judges_one ?_ rfl ?_
    all_goals
      simp only [keeps, Problem.IsTrueOf, ← UInt16.toNat_inj, UInt16.toNat_zero, decide_eq_true_eq]
      omega
  | outboundQueue | connections =>
    refine judges_one ?_ rfl ?_
    all_goals
      simp only [keeps, Problem.IsTrueOf, ← UInt64.toNat_inj, UInt64.toNat_zero, decide_eq_true_eq]
      omega
  | dispatchQueue =>
    have million : (1000000 : UInt64).toNat = 1000000 := rfl
    refine judges_either ?_ ⟨rfl, rfl⟩ ⟨?_, ?_⟩
    all_goals
      simp only [keeps, Problem.IsTrueOf, ← UInt64.toNat_inj, UInt64.lt_iff_toNat_lt,
        UInt64.toNat_zero, decide_eq_true_eq, true_and]
      omega
  | readBuffer =>
    have least : (64 : UInt64).toNat = 64 := rfl
    have most : (16777216 : UInt64).toNat = 16777216 := rfl
    refine judges_either ?_ ⟨rfl, rfl⟩ ⟨?_, ?_⟩
    all_goals
      simp only [keeps, Problem.IsTrueOf, UInt64.lt_iff_toNat_lt, decide_eq_true_eq]
      omega
  | address => exact judges_address
  | shutdown => exact judges_shutdown
  | name => exact judges_name

end Judging

def violated (gauge : Gauge) (settings : Settings) (limits : List Limit) : List Limit :=
  limits.filter fun limit => !settings.keeps gauge limit

/-- There is one problem for a violated limit and none for another, in the order of the limits. -/
theorem map_limit_filterMap (settings : Settings) (limits : List Limit) :
    (limits.filterMap settings.problem?).map Problem.limit = settings.violated .measured limits := by
  induction limits with
  | nil => rfl
  | cons limit rest ih =>
    have judged := settings.judges_problem? limit
    rw [violated] at ih ⊢
    cases found : settings.problem? limit with
    | none =>
      rw [found] at judged
      have kept : settings.keeps .measured limit = true := judged
      simp [found, kept, ih]
    | some problem =>
      rw [found] at judged
      obtain ⟨broken, about, -⟩ := judged
      simp [found, broken, about, ih]

theorem isTrueOf_of_mem {settings : Settings} {problem : Problem}
    (member : problem ∈ settings.problems) : problem.IsTrueOf settings := by
  rw [problems_eq] at member
  obtain ⟨limit, -, found⟩ := List.mem_filterMap.mp member
  have judged := settings.judges_problem? limit
  rw [found] at judged
  exact judged.2.2

theorem checkSession_eq_ok_iff_violated {settings : Settings} :
    settings.checkSession = .ok () ↔ settings.violated .measured Limit.ofSession = [] := by
  rw [checkSession_eq_ok_iff_problems, sessionProblems_eq, ← map_limit_filterMap,
    List.map_eq_nil_iff]

theorem length_le_utf8Len (chars : List Char) : chars.length ≤ String.utf8Len chars := by
  induction chars with
  | nil => exact Nat.le_refl _
  | cons char rest ih => exact Nat.add_le_add ih char.utf8Size_pos

/-- The measured limits are the stated ones, but for a timeout that is longer than a minute by less
than a second, and for a name of few characters and many bytes. -/
theorem keeps_measured_ne_stated_iff {settings : Settings} {limit : Limit} :
    settings.keeps .measured limit ≠ settings.keeps .stated limit ↔
      limit = .shutdown ∧ 60000000000 < settings.session.shutdownTimeout.toNanos ∧
          settings.session.shutdownTimeout.toNanos < 61000000000 ∨
        limit = .name ∧ settings.logging.appName.length ≤ 64 ∧
          64 < settings.logging.appName.utf8ByteSize := by
  cases limit with
  | shutdown =>
    rw [keeps, keeps, ne_eq, decide_eq_decide]
    simp only [Gauge.measured, Gauge.stated, true_and, reduceCtorEq, false_and, or_false]
    omega
  | name =>
    have few := length_le_utf8Len settings.logging.appName.toList
    rw [← String.utf8ByteSize_ofList, String.ofList_toList, String.length_toList] at few
    have empty : settings.logging.appName.utf8ByteSize = 0 ↔ settings.logging.appName.length = 0 := by
      rw [String.utf8ByteSize_eq_zero_iff, String.length_eq_zero_iff]
    rw [keeps, keeps, ne_eq, decide_eq_decide]
    simp only [Gauge.measured, Gauge.stated, true_and, reduceCtorEq, false_and, false_or]
    omega
  | bodyLength | dispatchQueue | outboundQueue | readBuffer | address | connections =>
    simp [keeps]

private theorem append_intercalate (separator first : String) (rest : List String) :
    separator ++ separator.intercalate (first :: rest) =
      String.join ((first :: rest).map (separator ++ ·)) := by
  induction rest generalizing first with
  | nil => simp
  | cons second rest ih =>
    rw [String.intercalate_cons_cons, List.map_cons, String.join_cons, ← ih, String.append_assoc,
      String.append_assoc]

/-- The text of a refusal has a line for each problem. -/
theorem message_invalid {problems : List Problem} (some : problems ≠ []) :
    (Fault.setup (.invalid problems)).message =
      "Configuration error: Configuration validation failed:" ++
        String.join (problems.map fun problem => "\n  - " ++ problem.message) := by
  obtain ⟨first, rest, rfl⟩ := List.exists_cons_of_ne_nil some
  have lines := append_intercalate "\n  - " first.message (rest.map Problem.message)
  rw [← List.map_cons, List.map_map] at lines
  have refusal : (Fault.setup (.invalid (first :: rest))).message =
      "Configuration error: " ++ ("Configuration validation failed:\n  - " ++
        "\n  - ".intercalate ((first :: rest).map Problem.message)) := rfl
  have opening : "Configuration validation failed:\n  - " =
      "Configuration validation failed:" ++ "\n  - " := by simp
  have title : "Configuration error: Configuration validation failed:" =
      "Configuration error: " ++ "Configuration validation failed:" := by simp
  rw [refusal, opening, String.append_assoc, lines, title, String.append_assoc]
  rfl

/-- Settings pass their check exactly if they keep every limit, as it is measured. A refusal has one
problem for each violated limit, in the order of the sections, each saying which end of its limit is
passed, and its text has a line for each of them. A session is refused exactly if a limit of framing
or sessions is violated. The measured limits are the stated ones but for a timeout less than a second
above a minute, which passes, and a name of few characters and many bytes, which does not. -/
theorem check_enforces_measured_limits {Handler : Type} (settings : Settings) (id : UInt64)
    (routes : Route.Table Handler) :
    (match settings.check with
      | .ok () => settings.violated .measured Limit.all = []
      | .error fault =>
        settings.violated .measured Limit.all ≠ [] ∧ fault = .setup (.invalid settings.problems) ∧
          fault.message = "Configuration error: Configuration validation failed:" ++
            String.join (settings.problems.map fun problem => "\n  - " ++ problem.message)) ∧
      settings.problems.map Problem.limit = settings.violated .measured Limit.all ∧
      (∀ problem ∈ settings.problems, problem.IsTrueOf settings) ∧
      ((∃ plan, Session.Plan.ofSettings id routes settings = .ok plan) ↔
        settings.violated .measured Limit.ofSession = []) ∧
      ∀ limit, settings.keeps .measured limit ≠ settings.keeps .stated limit ↔
        limit = .shutdown ∧ 60000000000 < settings.session.shutdownTimeout.toNanos ∧
            settings.session.shutdownTimeout.toNanos < 61000000000 ∨
          limit = .name ∧ settings.logging.appName.length ≤ 64 ∧
            64 < settings.logging.appName.utf8ByteSize := by
  have limits : settings.problems.map Problem.limit = settings.violated .measured Limit.all := by
    rw [problems_eq, map_limit_filterMap]
  refine ⟨?_, limits, fun problem => isTrueOf_of_mem, ?_, fun limit => keeps_measured_ne_stated_iff⟩
  · rw [← limits, check]
    cases found : settings.problems with
    | nil => rfl
    | cons first rest => exact ⟨List.cons_ne_nil _ _, rfl, message_invalid (List.cons_ne_nil _ _)⟩
  · simp only [Session.Plan.ofSettings_eq_ok_iff, checkSession_eq_ok_iff_violated]
    exact ⟨fun ⟨_, kept, _⟩ => kept, fun kept => ⟨_, kept, rfl⟩⟩

def overdueSettings : Settings where
  session := { shutdownTimeout := .ofParts 60 1 }

def accentedSettings : Settings where
  logging := { appName := String.ofList (List.replicate 33 'é') }

/-- The one passes although it violates a limit as it is stated, the other is refused although it
violates none. -/
theorem stated_limits_not_enforced :
    (overdueSettings.check = .ok () ∧ overdueSettings.checkSession = .ok () ∧
        overdueSettings.violated .stated Limit.all = [.shutdown]) ∧
      accentedSettings.check = .error (.setup (.invalid [.nameLong 66])) ∧
        accentedSettings.violated .stated Limit.all = [] := by
  decide

end Courier.Settings
