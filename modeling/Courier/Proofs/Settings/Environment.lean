import Courier.Proofs.Numeral
import Courier.Settings.Environment

namespace Courier.Settings

inductive Override where
  | bodyLimit
  | queueLimit
  | shutdownTimeout
  | address
  deriving DecidableEq, Repr

namespace Override

def name : Override → String
  | .bodyLimit => "PACKAGE_PROTOCOL_MAX_BODY_LENGTH"
  | .queueLimit => "PACKAGE_PROTOCOL_DISPATCH_QUEUE_LIMIT"
  | .shutdownTimeout => "PACKAGE_PROTOCOL_SHUTDOWN_TIMEOUT_MS"
  | .address => "PACKAGE_PROTOCOL_SERVER_ADDRESS"

abbrev Content : Override → Type
  | .bodyLimit => UInt16
  | .queueLimit => UInt64
  | .shutdownTimeout => Duration
  | .address => String

def ofSettings : (override : Override) → Settings → override.Content
  | .bodyLimit, settings => settings.framing.maxBodyLength
  | .queueLimit, settings => settings.session.dispatchQueueLimit
  | .shutdownTimeout, settings => settings.session.shutdownTimeout
  | .address, settings => settings.server.address

/-- A number is written as a numeral that fits the field, and the timeout as a number of
milliseconds of 64 bits. Any text is an address. -/
def Reads : (override : Override) → String → override.Content → Prop
  | .bodyLimit, text, limit => Numeral.Spells text limit.toNat
  | .queueLimit, text, limit => Numeral.Spells text limit.toNat
  | .shutdownTimeout, text, timeout =>
    ∃ millis : UInt64, Numeral.Spells text millis.toNat ∧ timeout = .ofMillis millis
  | .address, text, content => content = text

theorem Reads.unique {override : Override} {text : String} {first second : override.Content}
    (read : override.Reads text first) (again : override.Reads text second) : first = second := by
  cases override with
  | bodyLimit => exact UInt16.toNat_inj.mp (Numeral.Spells.unique read again)
  | queueLimit => exact UInt64.toNat_inj.mp (Numeral.Spells.unique read again)
  | shutdownTimeout =>
    obtain ⟨millis, spelled, rfl⟩ := read
    obtain ⟨others, spelledToo, rfl⟩ := again
    rw [UInt64.toNat_inj.mp (spelled.unique spelledToo)]
  | address => exact Eq.trans read (Eq.symm again)

end Override

namespace Environment

/-- The variable is set, and to this text. -/
def Holds (environment : Environment) (override : Override) (text : String) : Prop :=
  environment.entries.lookup override.name = some text.toUTF8

/-- What a field takes on account of its variable. -/
inductive Gives (environment : Environment) (override : Override) : override.Content → Prop where
  | read {text : String} {content : override.Content} (held : environment.Holds override text)
      (read : override.Reads text content) : Gives environment override content
  | default (unread : ∀ text content, environment.Holds override text →
      ¬ override.Reads text content) : Gives environment override (override.ofSettings {})

variable {environment other : Environment} {override : Override}

theorem text?_eq_some_iff {text : String} :
    environment.text? override.name = some text ↔ environment.Holds override text := by
  rw [text?, Option.bind_eq_some_iff, Holds]
  constructor
  · rintro ⟨bytes, found, decoded⟩
    unfold String.fromUTF8? at decoded
    split at decoded
    · cases decoded
      exact found
    · cases decoded
  · exact fun held => ⟨text.toUTF8, held, dif_pos text.isValidUTF8⟩

theorem Holds.unique {first second : String} (held : environment.Holds override first)
    (again : environment.Holds override second) : first = second :=
  String.toByteArray_inj.mp (Option.some.inj (held.symm.trans again))

/-- A field depends on nothing but its own variable. -/
theorem Gives.unique {first second : override.Content} (given : environment.Gives override first)
    (again : other.Gives override second)
    (same : environment.entries.lookup override.name = other.entries.lookup override.name) :
    first = second := by
  have agree (text : String) : environment.Holds override text ↔ other.Holds override text := by
    rw [Holds, Holds, same]
  cases given with
  | read held read =>
    cases again with
    | read heldToo readToo =>
      rw [((agree _).mp held).unique heldToo] at read
      exact read.unique readToo
    | default unread => exact absurd read (unread _ _ ((agree _).mp held))
  | default unread =>
    cases again with
    | read held read => exact absurd read (unread _ _ ((agree _).mpr held))
    | default => rfl

theorem word?_eq_some_iff {word : UInt64} :
    environment.word? override.name = some word ↔
      ∃ text, environment.Holds override text ∧ Numeral.Spells text word.toNat := by
  have fits : word.toNat ≤ UInt64.size - 1 := Nat.le_sub_one_of_lt word.toNat_lt
  constructor
  · intro found
    unfold word? at found
    split at found
    · rename_i number read
      obtain ⟨text, held, parsed⟩ := Option.map_eq_some_iff.mp read
      obtain ⟨spelled, within⟩ := Numeral.parse_eq_ok_iff.mp parsed
      cases found
      have small : number < UInt64.size := Nat.lt_of_le_of_lt within (by decide)
      exact ⟨text, text?_eq_some_iff.mp held, by rwa [UInt64.toNat_ofNat_of_lt' small]⟩
    · cases found
  · rintro ⟨text, held, spelled⟩
    rw [word?, text?_eq_some_iff.mpr held, Option.map_some,
      Numeral.parse_eq_ok_iff.mpr ⟨spelled, fits⟩]
    exact congrArg some UInt64.ofNat_toNat

/-- A field takes what is found in its variable, or else its default. -/
theorem gives_getD (override : Override) {found : Option override.Content}
    (sought : ∀ content, found = some content ↔
      ∃ text, environment.Holds override text ∧ override.Reads text content) :
    environment.Gives override (found.getD (override.ofSettings {})) := by
  cases outcome : found with
  | some content =>
    obtain ⟨text, held, read⟩ := (sought content).mp outcome
    exact .read held read
  | none =>
    refine .default fun text content held read => ?_
    rw [(sought content).mpr ⟨text, held, read⟩] at outcome
    cases outcome

theorem gives_queueLimit (environment : Environment) :
    environment.Gives .queueLimit ((environment.word? Override.queueLimit.name).getD 32) :=
  gives_getD .queueLimit fun _ => word?_eq_some_iff

theorem gives_shutdownTimeout (environment : Environment) :
    environment.Gives .shutdownTimeout
      (((environment.word? Override.shutdownTimeout.name).map Duration.ofMillis).getD
        (.ofMillis 5000)) := by
  refine gives_getD .shutdownTimeout fun timeout => ?_
  rw [Option.map_eq_some_iff]
  constructor
  · rintro ⟨millis, found, rfl⟩
    obtain ⟨text, held, spelled⟩ := word?_eq_some_iff.mp found
    exact ⟨text, held, millis, spelled, rfl⟩
  · rintro ⟨text, held, millis, spelled, rfl⟩
    exact ⟨millis, word?_eq_some_iff.mpr ⟨text, held, spelled⟩, rfl⟩

theorem gives_address (environment : Environment) :
    environment.Gives .address
      ((environment.text? Override.address.name).getD "127.0.0.1:9000") := by
  refine gives_getD .address fun address => ?_
  rw [text?_eq_some_iff]
  exact ⟨fun held => ⟨address, held, rfl⟩, fun ⟨_, held, same⟩ => same ▸ held⟩

end Environment

def SpellsLimit (text : String) : Prop :=
  ∃ number, Numeral.Spells text number ∧ number ≤ 65535

/-- The body limit is read from its variable, unless that holds a text which is no such numeral. -/
theorem bodyLimitOf_outcome (environment : Environment) :
    match bodyLimitOf environment with
    | .ok limit =>
      environment.Gives .bodyLimit limit ∧
        ∀ text, environment.Holds .bodyLimit text → SpellsLimit text
    | .error _ => ∃ text, environment.Holds .bodyLimit text ∧ ¬ SpellsLimit text := by
  unfold bodyLimitOf
  cases found : environment.text? "PACKAGE_PROTOCOL_MAX_BODY_LENGTH" with
  | none =>
    have unset (text : String) : ¬ environment.Holds .bodyLimit text := by
      intro held
      have same := Environment.text?_eq_some_iff.mpr held
      rw [show environment.text? Override.bodyLimit.name = none from found] at same
      cases same
    exact ⟨.default fun text _ held => absurd held (unset text),
      fun text held => absurd held (unset text)⟩
  | some text =>
    have held : environment.Holds .bodyLimit text := Environment.text?_eq_some_iff.mp found
    rw [Option.map_some]
    cases parsed : Numeral.parse (UInt16.size - 1) text with
    | ok number =>
      obtain ⟨spelled, within⟩ := Numeral.parse_eq_ok_iff.mp parsed
      have small : number < UInt16.size := Nat.lt_of_le_of_lt within (by decide)
      have read : Override.bodyLimit.Reads text (.ofNat number) := by
        rwa [Override.Reads, UInt16.toNat_ofNat_of_lt' small]
      refine ⟨.read held read, fun other heldToo => ?_⟩
      rw [heldToo.unique held]
      exact ⟨number, spelled, within⟩
    | error flaw =>
      refine ⟨text, held, ?_⟩
      rintro ⟨number, spelled, within⟩
      have read : Numeral.parse (UInt16.size - 1) text = .ok number :=
        Numeral.parse_eq_ok_iff.mpr ⟨spelled, within⟩
      rw [parsed] at read
      cases read

/-- Default settings, but for the four fields that have a variable. -/
def withOverrides (maxBodyLength : UInt16) (dispatchQueueLimit : UInt64)
    (shutdownTimeout : Duration) (address : String) : Settings where
  framing := { maxBodyLength }
  session := { dispatchQueueLimit, shutdownTimeout }
  server := { address }

theorem ofEnvironment_outcome (environment : Environment) :
    match ofEnvironment environment with
    | .ok settings =>
      (∀ override : Override, environment.Gives override (override.ofSettings settings)) ∧
        settings = withOverrides settings.framing.maxBodyLength
          settings.session.dispatchQueueLimit settings.session.shutdownTimeout
          settings.server.address ∧
        ∀ text, environment.Holds .bodyLimit text → SpellsLimit text
    | .error _ => ∃ text, environment.Holds .bodyLimit text ∧ ¬ SpellsLimit text := by
  have outcome := bodyLimitOf_outcome environment
  unfold ofEnvironment
  cases read : bodyLimitOf environment with
  | error fault =>
    rw [read] at outcome
    exact outcome
  | ok limit =>
    rw [read] at outcome
    refine ⟨fun override => ?_, rfl, outcome.2⟩
    cases override with
    | bodyLimit => exact outcome.1
    | queueLimit => exact environment.gives_queueLimit
    | shutdownTimeout => exact environment.gives_shutdownTimeout
    | address => exact environment.gives_address

/-- Settings are refused exactly if the variable of the body limit holds a text that is no numeral
of 16 bits. Otherwise each of four fields takes what its own variable holds, if that is a text which
reads as a value of the field, and has its default if not; every other field has its default. In two
environments that agree on one variable, whatever the others hold, its field is the same. -/
theorem environment_overrides_defaults (environment : Environment) :
    ((∃ fault, ofEnvironment environment = .error fault) ↔
        ∃ text, environment.Holds .bodyLimit text ∧ ¬ SpellsLimit text) ∧
      (∀ settings, ofEnvironment environment = .ok settings →
        (∀ override : Override, environment.Gives override (override.ofSettings settings)) ∧
          settings = withOverrides settings.framing.maxBodyLength
            settings.session.dispatchQueueLimit settings.session.shutdownTimeout
            settings.server.address) ∧
      ∀ (other : Environment) (settings others : Settings) (override : Override),
        ofEnvironment environment = .ok settings → ofEnvironment other = .ok others →
          environment.entries.lookup override.name = other.entries.lookup override.name →
            override.ofSettings settings = override.ofSettings others := by
  refine ⟨?_, fun settings made => ?_, fun other settings others override made madeToo same => ?_⟩
  · have outcome := ofEnvironment_outcome environment
    cases made : ofEnvironment environment with
    | error fault =>
      rw [made] at outcome
      exact ⟨fun _ => outcome, fun _ => ⟨fault, rfl⟩⟩
    | ok settings =>
      rw [made] at outcome
      exact ⟨nofun, fun ⟨text, held, unspelled⟩ => absurd (outcome.2.2 text held) unspelled⟩
  · have outcome := ofEnvironment_outcome environment
    rw [made] at outcome
    exact ⟨outcome.1, outcome.2.1⟩
  · have first := ofEnvironment_outcome environment
    have second := ofEnvironment_outcome other
    rw [made] at first
    rw [madeToo] at second
    exact (first.1 override).unique (second.1 override) same

/-- A body limit with a sign and leading zeros, a queue limit beyond 64 bits, a timeout that is no
text and an address that is none. -/
def mixedEnvironment : Environment where
  entries := [("PACKAGE_PROTOCOL_MAX_BODY_LENGTH", "+00065535".toUTF8),
    ("PACKAGE_PROTOCOL_DISPATCH_QUEUE_LIMIT", "18446744073709551616".toUTF8),
    ("PACKAGE_PROTOCOL_SHUTDOWN_TIMEOUT_MS", ⟨#[49, 255]⟩),
    ("PACKAGE_PROTOCOL_SERVER_ADDRESS", "nowhere".toUTF8)]

theorem environment_overrides_defaults_mixed :
    ofEnvironment mixedEnvironment = .ok (withOverrides 65535 32 (.ofMillis 5000) "nowhere") ∧
      mixedEnvironment.Gives .bodyLimit 65535 ∧ mixedEnvironment.Gives .queueLimit 32 ∧
      mixedEnvironment.Gives .shutdownTimeout (.ofMillis 5000) ∧
      mixedEnvironment.Gives .address "nowhere" := by
  have made : ofEnvironment mixedEnvironment =
      .ok (withOverrides 65535 32 (.ofMillis 5000) "nowhere") := by rfl
  obtain ⟨-, outcome, -⟩ := environment_overrides_defaults mixedEnvironment
  obtain ⟨gives, -⟩ := outcome _ made
  exact ⟨made, gives .bodyLimit, gives .queueLimit, gives .shutdownTimeout, gives .address⟩

end Courier.Settings
