import Courier.Proofs.Settings.Schema
import Courier.Proofs.Settings.Values

namespace Courier.Settings

open Toml (Value Entries)

/-- The parts of settings, each a table of a document. -/
inductive Part where
  | framing
  | dispatch
  | session
  | server
  | logging

namespace Part

def name : Part → String
  | .framing => "framing"
  | .dispatch => "dispatch"
  | .session => "session"
  | .server => "server"
  | .logging => "logging"

theorem eq_of_name_eq {part other : Part} (same : part.name = other.name) : part = other := by
  cases part <;> cases other <;> first | rfl | exact absurd same (by decide)

abbrev Content : Part → Type
  | .framing => Framing
  | .dispatch => Dispatch
  | .session => Session
  | .server => Server
  | .logging => Logging

def ofSettings : (part : Part) → Settings → part.Content
  | .framing, settings => settings.framing
  | .dispatch, settings => settings.dispatch
  | .session, settings => settings.session
  | .server, settings => settings.server
  | .logging, settings => settings.logging

end Part

/-- The known fields of a part. -/
inductive Known : Part → Type where
  | maxBodyLength : Known .framing
  | routing : Known .dispatch
  | missPolicy : Known .dispatch
  | dispatchQueueLimit : Known .session
  | outboundQueueLimit : Known .session
  | readBufferSize : Known .session
  | shutdownTimeout : Known .session
  | address : Known .server
  | maxConnections : Known .server
  | appName : Known .logging
  | logLevel : Known .logging
  | jsonFormat : Known .logging

namespace Known

def name : Known part → String
  | .maxBodyLength => "max_body_length"
  | .routing => "routing"
  | .missPolicy => "miss_policy"
  | .dispatchQueueLimit => "dispatch_queue_limit"
  | .outboundQueueLimit => "outbound_queue_limit"
  | .readBufferSize => "read_buffer_size"
  | .shutdownTimeout => "shutdown_timeout"
  | .address => "address"
  | .maxConnections => "max_connections"
  | .appName => "app_name"
  | .logLevel => "log_level"
  | .jsonFormat => "json_format"

theorem eq_of_name_eq {field other : Known part} (same : field.name = other.name) :
    field = other := by
  cases field <;> cases other <;> first | rfl | exact absurd same (by decide)

abbrev kind : Known part → Kind
  | .maxBodyLength => .limit
  | .routing => .routing
  | .missPolicy => .missPolicy
  | .dispatchQueueLimit | .outboundQueueLimit | .readBufferSize | .maxConnections => .word
  | .shutdownTimeout => .timeout
  | .address | .appName => .text
  | .logLevel => .level
  | .jsonFormat => .flag

def ofPart : (field : Known part) → part.Content → field.kind.Content
  | .maxBodyLength, framing => framing.maxBodyLength
  | .routing, dispatch => dispatch.routing
  | .missPolicy, dispatch => dispatch.missPolicy
  | .dispatchQueueLimit, session => session.dispatchQueueLimit
  | .outboundQueueLimit, session => session.outboundQueueLimit
  | .readBufferSize, session => session.readBufferSize
  | .shutdownTimeout, session => session.shutdownTimeout
  | .address, server => server.address
  | .maxConnections, server => server.maxConnections
  | .appName, logging => logging.appName
  | .logLevel, logging => logging.logLevel
  | .jsonFormat, logging => logging.jsonFormat

def put : (field : Known part) → part.Content → field.kind.Content → part.Content
  | .maxBodyLength, framing, content => { framing with maxBodyLength := content }
  | .routing, dispatch, content => { dispatch with routing := content }
  | .missPolicy, dispatch, content => { dispatch with missPolicy := content }
  | .dispatchQueueLimit, session, content => { session with dispatchQueueLimit := content }
  | .outboundQueueLimit, session, content => { session with outboundQueueLimit := content }
  | .readBufferSize, session, content => { session with readBufferSize := content }
  | .shutdownTimeout, session, content => { session with shutdownTimeout := content }
  | .address, server, content => { server with address := content }
  | .maxConnections, server, content => { server with maxConnections := content }
  | .appName, logging, content => { logging with appName := content }
  | .logLevel, logging, content => { logging with logLevel := content }
  | .jsonFormat, logging, content => { logging with jsonFormat := content }

/-- The field in settings. -/
def ofSettings (field : Known part) (settings : Settings) : field.kind.Content :=
  field.ofPart (part.ofSettings settings)

end Known

/-- Settings are the contents of their known fields. -/
theorem eq_of_ofSettings_eq {first second : Settings}
    (same : ∀ (part : Part) (field : Known part),
      field.ofSettings first = field.ofSettings second) : first = second := by
  obtain ⟨⟨_⟩, ⟨_, _⟩, ⟨_, _, _, _⟩, ⟨_, _⟩, ⟨_, _, _⟩⟩ := first
  obtain ⟨⟨_⟩, ⟨_, _⟩, ⟨_, _, _, _⟩, ⟨_, _⟩, ⟨_, _, _⟩⟩ := second
  cases same _ .maxBodyLength
  cases same _ .routing
  cases same _ .missPolicy
  cases same _ .dispatchQueueLimit
  cases same _ .outboundQueueLimit
  cases same _ .readBufferSize
  cases same _ .shutdownTimeout
  cases same _ .address
  cases same _ .maxConnections
  cases same _ .appName
  cases same _ .logLevel
  cases same _ .jsonFormat
  rfl

namespace Part

def put : (part : Part) → Settings → part.Content → Settings
  | .framing, settings, content => { settings with framing := content }
  | .dispatch, settings, content => { settings with dispatch := content }
  | .session, settings, content => { settings with session := content }
  | .server, settings, content => { settings with server := content }
  | .logging, settings, content => { settings with logging := content }

def set : (part : Part) → part.Content → String → Value → Reading part.Content
  | .framing => Framing.set
  | .dispatch => Dispatch.set
  | .session => Session.set
  | .server => Server.set
  | .logging => Logging.set

def read : (part : Part) → Value → Reading part.Content
  | .framing => Framing.read
  | .dispatch => Dispatch.read
  | .session => Session.read
  | .server => Server.read
  | .logging => Logging.read

theorem set_known (field : Known part) (content : part.Content) (value : Value) :
    part.set content field.name value = field.put content <$> field.kind.read value := by
  cases field with
  | maxBodyLength =>
    simp only [set, Framing.set, Known.name, Known.kind, Kind.read]
    cases readNumber (UInt16.size - 1) value <;> rfl
  | shutdownTimeout =>
    simp only [set, Session.set, Known.name, Known.kind, Kind.read]
    cases readWord value <;> rfl
  | _ => rfl

theorem set_unknown {part : Part} (content : part.Content) {written : String} (value : Value)
    (unknown : ∀ field : Known part, field.name ≠ written) :
    part.set content written value = .ok content := by
  cases part with
  | framing =>
    simp only [set, Framing.set]
    split
    · exact absurd rfl (unknown .maxBodyLength)
    · rfl
  | dispatch =>
    simp only [set, Dispatch.set]
    split
    · exact absurd rfl (unknown .routing)
    · exact absurd rfl (unknown .missPolicy)
    · rfl
  | session =>
    simp only [set, Session.set]
    split
    · exact absurd rfl (unknown .dispatchQueueLimit)
    · exact absurd rfl (unknown .outboundQueueLimit)
    · exact absurd rfl (unknown .readBufferSize)
    · exact absurd rfl (unknown .shutdownTimeout)
    · rfl
  | server =>
    simp only [set, Server.set]
    split
    · exact absurd rfl (unknown .address)
    · exact absurd rfl (unknown .maxConnections)
    · rfl
  | logging =>
    simp only [set, Logging.set]
    split
    · exact absurd rfl (unknown .appName)
    · exact absurd rfl (unknown .logLevel)
    · exact absurd rfl (unknown .jsonFormat)
    · rfl

/-- A part is filled with its fields. -/
def schema (part : Part) : Schema part.Content (Known part) where
  name := Known.name
  Content field := field.kind.Content
  get := Known.ofPart
  put := Known.put
  read field := field.kind.read
  set := part.set
  eq_of_name_eq := Known.eq_of_name_eq
  get_put field _ _ := by cases field <;> rfl
  get_put_of_ne := by
    intro field other differs content new
    cases field <;> cases other <;> first | rfl | exact absurd rfl differs
  set_known content field value := set_known field content value
  set_unknown := set_unknown

theorem read_table (part : Part) (form : Toml.Form) (fields : Entries) :
    part.read (.table form fields) = part.schema.fill fields (part.ofSettings {}) := by
  cases part <;> rfl

/-- A table is read as a part if every known field in it has a value of its type and range. -/
theorem exists_read_table_iff {part : Part} {form : Toml.Form} {fields : Entries}
    (sound : fields.Sound) :
    (∃ content, part.read (.table form fields) = .ok content) ↔
      ∀ (field : Known part) (value : Value), (field.name, value) ∈ fields →
        field.kind.Admits value := by
  rw [read_table, Schema.exists_fill_iff]
  refine forall_congr' fun field => forall_congr' fun value => imp_congr_right fun member => ?_
  rw [← Kind.exists_means_iff (sound.all _ member)]
  exact exists_congr fun content => Kind.read_eq_ok_iff

end Part

theorem set_unknown (settings : Settings) {written : String} (value : Value)
    (unknown : ∀ part : Part, part.name ≠ written) :
    settings.set written value = .ok settings := by
  simp only [Settings.set]
  split
  · exact absurd rfl (unknown .framing)
  · exact absurd rfl (unknown .dispatch)
  · exact absurd rfl (unknown .session)
  · exact absurd rfl (unknown .server)
  · exact absurd rfl (unknown .logging)
  · rfl

/-- The settings are filled with parts. -/
def schema : Schema Settings Part where
  name := Part.name
  Content := Part.Content
  get := Part.ofSettings
  put := Part.put
  read := Part.read
  set := Settings.set
  eq_of_name_eq := Part.eq_of_name_eq
  get_put part _ _ := by cases part <;> rfl
  get_put_of_ne := by
    intro part other differs settings content
    cases part <;> cases other <;> first | rfl | exact absurd rfl differs
  set_known settings part value := by cases part <;> rfl
  set_unknown := set_unknown

end Courier.Settings
