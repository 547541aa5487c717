import Courier.Dispatch
import Courier.Settings

namespace Courier.Route

universe u v

variable {Handler : Type u}

/-- The key that a registration asks a route for. A fallback asks for none. -/
def Registration.key? : Registration Handler → Option Key
  | .exact id kind _ => some (.exact id kind)
  | .anyId kind _ => some (.anyId kind)
  | .fallback _ => none

def Registration.handler : Registration Handler → Handler
  | .exact _ _ handler | .anyId _ handler | .fallback handler => handler

def Policy.admits : Policy → Key → Bool
  | .kindOnly, .exact .. => false
  | _, _ => true

/-- The handler of the first registration for a key. -/
def firstFor (key : Key) (history : List (Registration Handler)) : Option Handler :=
  (history.find? (·.key? = some key)).map Registration.handler

def lastFallback (history : List (Registration Handler)) : Option Handler :=
  (history.reverse.find? (·.key? = none)).map Registration.handler

/-- The handler that a history of registrations leaves a package to. -/
def preferred? (policy : Policy) (history : List (Registration Handler)) (package : Package) :
    Option Handler :=
  let exact :=
    match policy with
    | .idAndKind => firstFor (.exact package.id package.kind) history
    | .kindOnly => none
  exact <|> firstFor (.anyId package.kind) history <|> lastFallback history

/-- A registration that was answered, with the answer. -/
abbrev Answered (Handler : Type u) := Registration Handler × Except Fault Unit

def Accepted (key : Key) (earlier : List (Answered Handler)) : Prop :=
  ∃ registration : Registration Handler, registration.key? = some key ∧
    (registration, .ok ()) ∈ earlier

/-- Whether a registration is refused behind others: an exact one does not fit a policy that looks at
kinds only, and a key has one route at most. -/
def Refused (policy : Policy) (earlier : List (Answered Handler)) : Registration Handler → Prop
  | .exact id kind _ => policy = .kindOnly ∨ Accepted (.exact id kind) earlier
  | .anyId kind _ => Accepted (.anyId kind) earlier
  | .fallback _ => False

/-- Whether a registration gave a key its route. -/
def Answered.isRoute (answered : Answered Handler) : Bool :=
  answered.1.key?.isSome && answered.2.isOk

/-- Register, and stay with the table as it is when that is refused. -/
def Table.attempt (table : Table Handler) (registration : Registration Handler) :
    Table Handler × Except Fault Unit :=
  match table.register registration with
  | .ok next => (next, .ok ())
  | .error fault => (table, .error fault)

/-- What can come of a registration. -/
inductive Attempt (table : Table Handler) (registration : Registration Handler) :
    Table Handler → Except Fault Unit → Prop where
  | fallback (keyless : registration.key? = none) :
      Attempt table registration { table with fallback := some registration.handler } (.ok ())
  | route {key : Key} (asked : registration.key? = some key)
      (admitted : table.policy.admits key = true) (free : table.find? key = none) :
      Attempt table registration
        { table with routes := (key, registration.handler) :: table.routes } (.ok ())
  | refused {key : Key} {fault : Fault} (asked : registration.key? = some key)
      (unfit : table.policy.admits key = false ∨ (table.find? key).isSome = true) :
      Attempt table registration table (.error fault)

variable {policy : Policy} {table next : Table Handler} {registration : Registration Handler}
  {history before later : List (Registration Handler)} {answers : List (Except Fault Unit)}
  {answer : Except Fault Unit} {key : Key} {earlier : List (Answered Handler)}

theorem attempt_of_insert (key : Key) (asked : registration.key? = some key)
    (admitted : table.policy.admits key = true)
    (inserts : table.register registration = table.insert key registration.handler) :
    Attempt table registration (table.attempt registration).1 (table.attempt registration).2 := by
  simp only [Table.attempt, inserts, Table.insert]
  by_cases taken : (table.find? key).isSome = true
  · simp only [taken, if_true]
    exact .refused asked (.inr taken)
  · simp only [taken]
    exact .route asked admitted (by simpa using taken)

theorem attempt (table : Table Handler) (registration : Registration Handler) :
    Attempt table registration (table.attempt registration).1 (table.attempt registration).2 := by
  cases registration with
  | exact id kind handler =>
    cases policy : table.policy with
    | idAndKind =>
      exact attempt_of_insert (.exact id kind) rfl (by rw [policy]; rfl)
        (by simp only [Table.register, policy]; rfl)
    | kindOnly =>
      simp only [Table.attempt, Table.register, policy]
      exact .refused rfl (.inl (by rw [policy]; rfl))
  | anyId kind handler =>
    exact attempt_of_insert (.anyId kind) rfl (by cases table.policy <;> rfl) rfl
  | fallback handler => exact .fallback rfl

theorem registerAll_cons (table : Table Handler) (registration : Registration Handler)
    (rest : List (Registration Handler)) :
    table.registerAll (registration :: rest) =
      (((table.attempt registration).1.registerAll rest).1,
        (table.attempt registration).2 :: ((table.attempt registration).1.registerAll rest).2) := by
  cases registered : table.register registration <;>
    simp [Table.registerAll, Table.attempt, registered]

theorem registerAll_append (table : Table Handler) (first second : List (Registration Handler)) :
    table.registerAll (first ++ second) =
      (((table.registerAll first).1.registerAll second).1,
        (table.registerAll first).2 ++ ((table.registerAll first).1.registerAll second).2) := by
  induction first generalizing table with
  | nil => rfl
  | cons registration rest ih => simp only [List.cons_append, registerAll_cons, ih]

theorem firstFor_concat :
    firstFor key (history ++ [registration]) =
      (firstFor key history <|>
        if registration.key? = some key then some registration.handler else none) := by
  simp only [firstFor, List.find?_append, List.find?_cons, List.find?_nil]
  cases history.find? (·.key? = some key) with
  | some first => rfl
  | none => by_cases asked : registration.key? = some key <;> simp [asked]

theorem lastFallback_concat :
    lastFallback (history ++ [registration]) =
      if registration.key? = none then some registration.handler else lastFallback history := by
  by_cases keyless : registration.key? = none <;> simp [lastFallback, keyless]

theorem accepted_concat :
    Accepted key (earlier ++ [(registration, answer)]) ↔
      Accepted key earlier ∨ registration.key? = some key ∧ answer = .ok () := by
  simp only [Accepted, List.mem_append, List.mem_singleton, Prod.mk.injEq]
  constructor
  · rintro ⟨other, asked, earlier | ⟨rfl, rfl⟩⟩
    · exact .inl ⟨other, asked, earlier⟩
    · exact .inr ⟨asked, rfl⟩
  · rintro (⟨other, asked, earlier⟩ | ⟨asked, rfl⟩)
    · exact ⟨other, asked, .inl earlier⟩
    · exact ⟨registration, asked, .inr ⟨rfl, rfl⟩⟩

/-- What is known of a table behind a history of registrations with their answers. -/
structure Recorded (policy : Policy) (history : List (Registration Handler))
    (table : Table Handler) (answers : List (Except Fault Unit)) : Prop where
  governed : table.policy = policy
  answered : answers.length = history.length
  found : ∀ key, table.find? key = if policy.admits key then firstFor key history else none
  accepted : ∀ key, (table.find? key).isSome = true ↔ Accepted key (history.zip answers)
  size : table.size = (history.zip answers).countP Answered.isRoute
  fallback : table.fallback = lastFallback history

theorem recorded_start (policy : Policy) :
    Recorded policy [] ({ policy } : Table Handler) [] where
  governed := rfl
  answered := rfl
  found key := by simp [Table.find?, firstFor]
  accepted key := by simp [Table.find?, Accepted]
  size := rfl
  fallback := rfl

/-- Neither the look-up nor the size takes note of a fallback. -/
@[simp] theorem find?_fallback (handler : Option Handler) :
    ({ table with fallback := handler } : Table Handler).find? key = table.find? key := rfl

@[simp] theorem size_fallback (handler : Option Handler) :
    ({ table with fallback := handler } : Table Handler).size = table.size := rfl

theorem find?_route (free : table.find? key = none) (other : Key) (handler : Handler) :
    ({ table with routes := (key, handler) :: table.routes } : Table Handler).find? other =
      (table.find? other <|> if key = other then some handler else none) := by
  by_cases same : key = other
  · subst same
    rw [free]
    simp [Table.find?]
  · have apart : (other == key) = false := by simpa using Ne.symm same
    simp [Table.find?, List.lookup_cons, apart, same]

section Recording

variable (recorded : Recorded policy history table answers)
include recorded

theorem Recorded.zip_concat (registration : Registration Handler) (answer : Except Fault Unit) :
    (history ++ [registration]).zip (answers ++ [answer]) =
      history.zip answers ++ [(registration, answer)] := by
  rw [List.zip_append recorded.answered.symm]
  rfl

theorem Recorded.length_concat (registration : Registration Handler) (answer : Except Fault Unit) :
    (answers ++ [answer]).length = (history ++ [registration]).length := by
  simp [recorded.answered]

theorem Recorded.withFallback (keyless : registration.key? = none) :
    Recorded policy (history ++ [registration])
      { table with fallback := some registration.handler } (answers ++ [.ok ()]) where
  governed := recorded.governed
  answered := recorded.length_concat registration _
  found key := by
    rw [find?_fallback, recorded.found key, firstFor_concat, keyless]
    simp
  accepted key := by
    rw [find?_fallback, recorded.accepted key, recorded.zip_concat, accepted_concat, keyless]
    simp
  size := by
    rw [size_fallback, recorded.size, recorded.zip_concat]
    simp [Answered.isRoute, keyless]
  fallback := by rw [lastFallback_concat, if_pos keyless]

theorem Recorded.withRoute (asked : registration.key? = some key)
    (admitted : policy.admits key = true) (free : table.find? key = none) :
    Recorded policy (history ++ [registration])
      { table with routes := (key, registration.handler) :: table.routes }
      (answers ++ [.ok ()]) where
  governed := recorded.governed
  answered := recorded.length_concat registration _
  found other := by
    rw [find?_route free, recorded.found other, firstFor_concat, asked]
    by_cases same : key = other
    · subst same
      simp [admitted]
    · simp [same]
  accepted other := by
    rw [find?_route free, recorded.zip_concat, accepted_concat, ← recorded.accepted other, asked]
    by_cases same : key = other <;> simp [same]
  size := by
    have one : Answered.isRoute (registration, .ok ()) = true := by
      simp [Answered.isRoute, asked, Except.isOk, Except.toBool]
    rw [recorded.zip_concat, List.countP_append, ← recorded.size]
    simp [Table.size, one]
  fallback := by
    rw [lastFallback_concat, asked, ← recorded.fallback]
    rfl

/-- A refusal leaves the table as it is: a key that is not admitted has no route, and one that is
taken keeps the first. -/
theorem Recorded.refused (fault : Fault) (asked : registration.key? = some key)
    (unfit : policy.admits key = false ∨ (table.find? key).isSome = true) :
    Recorded policy (history ++ [registration]) table (answers ++ [.error fault]) where
  governed := recorded.governed
  answered := recorded.length_concat registration _
  found other := by
    rw [recorded.found other, firstFor_concat, asked]
    by_cases same : key = other
    · subst same
      split
      next admitted =>
        obtain unfit | taken := unfit
        · rw [unfit] at admitted
          cases admitted
        · rw [recorded.found key, if_pos admitted] at taken
          obtain ⟨handler, first⟩ := Option.isSome_iff_exists.mp taken
          simp [first]
      next => rfl
    · simp [same]
  accepted other := by
    rw [recorded.accepted other, recorded.zip_concat, accepted_concat]
    simp
  size := by
    rw [recorded.size, recorded.zip_concat]
    simp [Answered.isRoute, Except.isOk, Except.toBool]
  fallback := by
    rw [lastFallback_concat, asked, ← recorded.fallback]
    rfl

theorem Recorded.step (attempt : Attempt table registration next answer) :
    Recorded policy (history ++ [registration]) next (answers ++ [answer]) := by
  obtain rfl := recorded.governed
  cases attempt with
  | fallback keyless => exact recorded.withFallback keyless
  | route asked admitted free => exact recorded.withRoute asked admitted free
  | refused asked unfit => exact recorded.refused _ asked unfit

end Recording

theorem Recorded.registerAll (recorded : Recorded policy before table answers)
    (later : List (Registration Handler)) :
    Recorded policy (before ++ later) (table.registerAll later).1
      (answers ++ (table.registerAll later).2) := by
  induction later generalizing before table answers with
  | nil => simpa [Table.registerAll] using recorded
  | cons registration rest ih =>
    have next := ih (recorded.step (attempt table registration))
    rw [registerAll_cons]
    simpa using next

/-- Any history of registrations leads to a table that agrees with it. -/
theorem recorded_registerAll (policy : Policy) (history : List (Registration Handler)) :
    Recorded policy history (({ policy } : Table Handler).registerAll history).1
      (({ policy } : Table Handler).registerAll history).2 := by
  simpa using (recorded_start policy).registerAll history

theorem Attempt.isOk_eq_false_iff (attempt : Attempt table registration next answer) :
    answer.isOk = false ↔
      ∃ key, registration.key? = some key ∧
        (table.policy.admits key = false ∨ (table.find? key).isSome = true) := by
  cases attempt with
  | fallback keyless => simp [keyless, Except.isOk, Except.toBool]
  | route asked admitted free => simp [asked, admitted, free, Except.isOk, Except.toBool]
  | refused asked unfit => simpa [asked, Except.isOk, Except.toBool] using unfit

theorem Attempt.unchanged (attempt : Attempt table registration next answer)
    (refused : answer.isOk = false) : next = table := by
  cases attempt with
  | fallback | route => simp [Except.isOk, Except.toBool] at refused
  | refused => rfl

theorem Recorded.refused_iff (recorded : Recorded policy history table answers)
    (attempt : Attempt table registration next answer) :
    answer.isOk = false ↔ Refused policy (history.zip answers) registration := by
  obtain ⟨rfl, -, -, accepted, -, -⟩ := recorded
  rw [attempt.isOk_eq_false_iff]
  cases registration with
  | exact id kind handler =>
    cases policy : table.policy <;>
      simp [Registration.key?, Refused, Policy.admits, accepted]
  | anyId kind handler =>
    cases policy : table.policy <;>
      simp [Registration.key?, Refused, Policy.admits, accepted]
  | fallback handler => simp [Registration.key?, Refused]

theorem Recorded.resolve?_eq (recorded : Recorded policy history table answers)
    (package : Package) : table.resolve? package = preferred? policy history package := by
  obtain ⟨rfl, -, found, -, -, fallback⟩ := recorded
  cases policy : table.policy <;>
    simp [Table.resolve?, preferred?, policy, found, Policy.admits, fallback]

theorem resolve_eq (table : Table Handler) (package : Package) :
    table.resolve package =
      match table.resolve? package with
      | some handler => .ok handler
      | none => .error (.unroutable package.id package.kind) := by
  unfold Table.resolve
  cases table.resolve? package <;> rfl

/-- A dispatch is one call of the handler that the package resolves to, or a record of the miss. -/
theorem dispatch_eq {m : Type → Type v} [Monad m] {ε : Type}
    (call : Courier.Handler → Package → Context → m (Except ε Unit)) (log : LogRecord → m Unit)
    (table : Table Courier.Handler) (misses : MissPolicy) (package : Package) (context : Context) :
    Dispatch.dispatch call log table misses package context =
      match table.resolve? package with
      | some handler => do
        let result ← call handler package context
        return result.map fun _ => .handled
      | none => do
        log (Dispatch.missRecord misses context.session (.unroutable package.id package.kind))
        return .ok .missed := by
  unfold Dispatch.dispatch
  rw [resolve_eq]
  cases table.resolve? package with
  | none => rfl
  | some handler =>
    refine congrArg (call handler package context >>= ·) (funext fun result => ?_)
    cases result <;> rfl

/-- What a history of registrations, refused ones included, comes to. An exact registration is
refused if the policy looks at kinds only or the key was accepted before, one for a kind only if the
kind was, a fallback never; refused ones change nothing, and every accepted key is a route. A
package goes to the first handler registered for its id and kind, if the policy looks at ids, else
to the first for its kind, else to the last fallback, and a dispatch calls this handler and no
other, once, and passes on how it ended. -/
theorem resolution_follows_registrations {m : Type → Type v} [Monad m] {ε : Type}
    (config : Settings.Dispatch) (history : List (Registration Courier.Handler))
    (call : Courier.Handler → Package → Context → m (Except ε Unit)) (log : LogRecord → m Unit) :
    let start : Table Courier.Handler := { policy := config.routing }
    let table := (start.registerAll history).1
    let answers := (start.registerAll history).2
    answers.length = history.length ∧
      (∀ before registration after, history = before ++ registration :: after →
        let earlier := start.registerAll before
        let later := start.registerAll (before ++ [registration])
        ∃ answer more, answers = earlier.2 ++ answer :: more ∧
          (answer.isOk = false ↔ Refused config.routing (before.zip earlier.2) registration) ∧
          (answer.isOk = false → later.1 = earlier.1)) ∧
      table.size = (history.zip answers).countP Answered.isRoute ∧
      (∀ package, table.resolve package =
        match preferred? config.routing history package with
        | some handler => .ok handler
        | none => .error (.unroutable package.id package.kind)) ∧
      (config.routing = .kindOnly → ∀ (package : Package) (id : UInt16),
        table.resolve? { package with id } = table.resolve? package) ∧
      ∀ package context, Dispatch.dispatch call log table config.missPolicy package context =
        match preferred? config.routing history package with
        | some handler => do
          let result ← call handler package context
          return result.map fun _ => .handled
        | none => do
          log (Dispatch.missRecord config.missPolicy context.session
            (.unroutable package.id package.kind))
          return .ok .missed := by
  intro start table answers
  have recorded : Recorded config.routing history table answers :=
    recorded_registerAll config.routing history
  refine ⟨recorded.answered, ?_, recorded.size, ?_, ?_, ?_⟩
  · rintro before registration after split earlier later
    have known : Recorded config.routing before earlier.1 earlier.2 :=
      recorded_registerAll config.routing before
    have tried := attempt earlier.1 registration
    refine ⟨(earlier.1.attempt registration).2,
      ((earlier.1.attempt registration).1.registerAll after).2, ?_, known.refused_iff tried,
      fun refused => ?_⟩
    · show (start.registerAll history).2 = _
      rw [split, registerAll_append, registerAll_cons]
    · show (start.registerAll (before ++ [registration])).1 = _
      rw [registerAll_append, registerAll_cons]
      exact tried.unchanged refused
  · intro package
    rw [resolve_eq, recorded.resolve?_eq]
    cases preferred? config.routing history package <;> rfl
  · intro kindOnly package id
    rw [recorded.resolve?_eq, recorded.resolve?_eq, kindOnly]
    rfl
  · intro package context
    rw [dispatch_eq, recorded.resolve?_eq]

end Courier.Route
