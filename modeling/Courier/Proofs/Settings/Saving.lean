import Courier.Proofs.Toml.Sections
import Courier.Settings.Document
import Courier.Settings.Text

namespace Courier.Settings

open Toml (Bare Field Section largest)

/-! The sections that settings are written as. -/

structure Session.Fits (session : Session) : Prop where
  dispatchQueueLimit : session.dispatchQueueLimit.toNat ≤ largest
  outboundQueueLimit : session.outboundQueueLimit.toNat ≤ largest
  readBufferSize : session.readBufferSize.toNat ≤ largest
  shutdownTimeout : session.shutdownTimeout.toMillis % UInt64.size ≤ largest

structure Server.Fits (server : Server) : Prop where
  maxConnections : server.maxConnections.toNat ≤ largest

/-- Whether a document has a place for every number, of which it has 63 bits. -/
structure Fits (settings : Settings) : Prop where
  session : settings.session.Fits
  server : settings.server.Fits

theorem Framing.fits (framing : Framing) : framing.maxBodyLength.toNat ≤ largest :=
  Nat.le_of_lt (Nat.lt_trans framing.maxBodyLength.toNat_lt (by decide))

def Framing.part (framing : Framing) : Section where
  name := "framing"
  fields := [.number "max_body_length" (by decide) framing.maxBodyLength.toNat framing.fits]
  bare := by decide
  distinct := show ["max_body_length"].Nodup by decide

def Dispatch.part (dispatch : Dispatch) : Section where
  name := "dispatch"
  fields := [.quoted "routing" (by decide) (routingName dispatch.routing),
    .quoted "miss_policy" (by decide) (missPolicyName dispatch.missPolicy)]
  bare := by decide
  distinct := show ["routing", "miss_policy"].Nodup by decide

def Session.part (session : Session) (fits : session.Fits) : Section where
  name := "session"
  fields := [.number "dispatch_queue_limit" (by decide) session.dispatchQueueLimit.toNat fits.1,
    .number "outbound_queue_limit" (by decide) session.outboundQueueLimit.toNat fits.2,
    .number "read_buffer_size" (by decide) session.readBufferSize.toNat fits.3,
    .number "shutdown_timeout" (by decide) (session.shutdownTimeout.toMillis % UInt64.size) fits.4]
  bare := by decide
  distinct := show ["dispatch_queue_limit", "outbound_queue_limit", "read_buffer_size",
    "shutdown_timeout"].Nodup by decide

def Server.part (server : Server) (fits : server.Fits) : Section where
  name := "server"
  fields := [.quoted "address" (by decide) server.address,
    .number "max_connections" (by decide) server.maxConnections.toNat fits.1]
  bare := by decide
  distinct := show ["address", "max_connections"].Nodup by decide

def Logging.part (logging : Logging) : Section where
  name := "logging"
  fields := [.quoted "app_name" (by decide) logging.appName,
    .quoted "log_level" (by decide) logging.logLevel.name,
    .flag "json_format" (by decide) logging.jsonFormat]
  bare := by decide
  distinct := show ["app_name", "log_level", "json_format"].Nodup by decide

def parts (settings : Settings) (fits : settings.Fits) : List Section :=
  [settings.framing.part, settings.dispatch.part, settings.session.part fits.session,
    settings.server.part fits.server, settings.logging.part]

theorem integerText?_eq {value : Nat} (fits : value ≤ largest) :
    integerText? value = some (toString value).toList :=
  if_pos fits

theorem le_of_integerText? {value : Nat} {text : List Char}
    (written : integerText? value = some text) : value ≤ largest := by
  unfold integerText? at written
  split at written
  · assumption
  · cases written

theorem Framing.text?_eq (framing : Framing) : framing.text? = some framing.part.text := by
  simp [Framing.text?, integerText?_eq framing.fits, Framing.part, Section.text, Field.line,
    Field.number, header, line]

theorem Dispatch.text_eq (dispatch : Dispatch) : dispatch.text = dispatch.part.text := by
  simp [Dispatch.text, Dispatch.part, Section.text, Field.line, Field.quoted, header, line]

theorem Session.text?_eq (session : Session) (fits : session.Fits) :
    session.text? = some (session.part fits).text := by
  simp [Session.text?, integerText?_eq fits.1, integerText?_eq fits.2, integerText?_eq fits.3,
    integerText?_eq fits.4, Session.part, Section.text, Field.line, Field.number, header, line]

theorem Server.text?_eq (server : Server) (fits : server.Fits) :
    server.text? = some (server.part fits).text := by
  simp [Server.text?, integerText?_eq fits.1, Server.part, Section.text, Field.line, Field.number,
    Field.quoted, header, line]

theorem Logging.text_eq (logging : Logging) : logging.text = logging.part.text := by
  simp [Logging.text, Logging.part, Section.text, Field.line, Field.quoted, Field.flag, flagText,
    header, line]

theorem text?_eq (settings : Settings) (fits : settings.Fits) :
    settings.text? = some (Toml.documentOf (settings.parts fits)) := by
  simp [text?, Framing.text?_eq, Dispatch.text_eq, Session.text?_eq _ fits.session,
    Server.text?_eq _ fits.server, Logging.text_eq, Toml.documentOf, parts,
    List.intercalate_cons_cons]

theorem fits_of_text? {settings : Settings} {text : List Char}
    (written : settings.text? = some text) : settings.Fits := by
  simp only [text?, Session.text?, Server.text?, Option.bind_eq_bind, Option.bind_eq_some_iff]
    at written
  obtain ⟨_, -, _, ⟨_, first, _, second, _, third, _, fourth, -⟩, _, ⟨_, fifth, -⟩, -⟩ := written
  exact ⟨⟨le_of_integerText? first, le_of_integerText? second, le_of_integerText? third,
    le_of_integerText? fourth⟩, ⟨le_of_integerText? fifth⟩⟩

/-! The sections, read back. -/

/-- The session that is loaded for one that was saved: its timeout is in whole milliseconds. -/
def Session.stored (session : Session) : Session :=
  { session with
    shutdownTimeout := .ofMillis (.ofNat (session.shutdownTimeout.toMillis % UInt64.size)) }

def stored (settings : Settings) : Settings :=
  { settings with session := settings.session.stored }

theorem readNumber_integer (bound : Nat) {value : Nat} (within : value ≤ bound) :
    readNumber bound (.integer value) = .ok value := by
  simp [readNumber, within]

theorem readWord_integer {value : Nat} (within : value < UInt64.size) :
    readWord (.integer value) = .ok (.ofNat value) := by
  have read := readNumber_integer (UInt64.size - 1) (Nat.le_sub_one_of_lt within)
  rw [readWord, read]
  rfl

theorem readWord_toNat (word : UInt64) : readWord (.integer word.toNat) = .ok word := by
  rw [readWord_integer word.toNat_lt, UInt64.ofNat_toNat]

theorem parse?_name (level : LogLevel) : LogLevel.parse? level.name = some level := by
  cases level <;> rfl

theorem readChoice_routingName (policy : Route.Policy) :
    readChoice ("id_and_type", .idAndKind) ("type_only", .kindOnly) (.text (routingName policy)) =
      .ok policy := by
  cases policy <;> rfl

theorem readChoice_missPolicyName (policy : Route.MissPolicy) :
    readChoice ("report", .report) ("silent", .silent) (.text (missPolicyName policy)) =
      .ok policy := by
  cases policy <;> rfl

theorem Framing.read_part (framing : Framing) :
    Framing.read framing.part.entry.2 = .ok framing := by
  have read : readNumber (UInt16.size - 1) (.integer framing.maxBodyLength.toNat) =
      .ok framing.maxBodyLength.toNat :=
    readNumber_integer _ (Nat.le_sub_one_of_lt framing.maxBodyLength.toNat_lt)
  simp only [Framing.part, Section.entry, Field.entry, Field.number, List.map_cons, List.map_nil,
    Framing.read, readSection, readSection.fill, List.foldlM_cons, List.foldlM_nil, Framing.set,
    read]
  exact congrArg (fun limit => Except.ok (Framing.mk limit)) UInt16.ofNat_toNat

theorem Dispatch.read_part (dispatch : Dispatch) :
    Dispatch.read dispatch.part.entry.2 = .ok dispatch := by
  simp only [Dispatch.part, Section.entry, Field.entry, Field.quoted, List.map_cons, List.map_nil,
    Dispatch.read, readSection, readSection.fill, List.foldlM_cons, List.foldlM_nil, Dispatch.set,
    readChoice_routingName, readChoice_missPolicyName]
  rfl

theorem Session.read_part (session : Session) (fits : session.Fits) :
    Session.read (session.part fits).entry.2 = .ok session.stored := by
  have timeout := readWord_integer
    (Nat.mod_lt session.shutdownTimeout.toMillis (by decide : 0 < UInt64.size))
  simp only [Session.part, Section.entry, Field.entry, Field.number, List.map_cons, List.map_nil,
    Session.read, readSection, readSection.fill, List.foldlM_cons, List.foldlM_nil, Session.set,
    readWord_toNat, timeout]
  rfl

theorem Server.read_part (server : Server) (fits : server.Fits) :
    Server.read (server.part fits).entry.2 = .ok server := by
  simp only [Server.part, Section.entry, Field.entry, Field.number, Field.quoted, List.map_cons,
    List.map_nil, Server.read, readSection, readSection.fill, List.foldlM_cons, List.foldlM_nil,
    Server.set, readWord_toNat, readText]
  rfl

theorem Logging.read_part (logging : Logging) :
    Logging.read logging.part.entry.2 = .ok logging := by
  simp only [Logging.part, Section.entry, Field.entry, Field.flag, Field.quoted, List.map_cons,
    List.map_nil, Logging.read, readSection, readSection.fill, List.foldlM_cons, List.foldlM_nil,
    Logging.set, readText, readLevel, parse?_name, readFlag]
  rfl

theorem ofEntries_parts (settings : Settings) (fits : settings.Fits) :
    ofEntries ((settings.parts fits).map Section.entry) = .ok settings.stored := by
  show ofEntries [("framing", settings.framing.part.entry.2),
    ("dispatch", settings.dispatch.part.entry.2),
    ("session", (settings.session.part fits.session).entry.2),
    ("server", (settings.server.part fits.server).entry.2),
    ("logging", settings.logging.part.entry.2)] = _
  simp only [ofEntries, List.foldlM_cons, List.foldlM_nil, set, Framing.read_part,
    Dispatch.read_part, Session.read_part, Server.read_part, Logging.read_part]
  rfl

theorem ofToml_documentOf (settings : Settings) (fits : settings.Fits) :
    ofToml (String.ofList (Toml.documentOf (settings.parts fits))) = .ok settings.stored := by
  have names : ((settings.parts fits).map Section.name).Nodup :=
    show ["framing", "dispatch", "session", "server", "logging"].Nodup by decide
  rw [ofToml, Toml.parse?_documentOf _ names]
  dsimp only
  rw [ofEntries_parts settings fits]
  rfl

theorem ofFile_toUTF8 (text : String) : ofFile (some text.toUTF8) = ofToml text := by
  have read : String.fromUTF8? text.toUTF8 = some text := dif_pos text.isValidUTF8
  rw [ofFile, read]

/-! What was loaded, written again. -/

theorem toMillis_ofMillis (millis : UInt64) :
    (Duration.ofMillis millis).toMillis = millis.toNat := by
  have small : millis.toNat / 1000 < UInt64.size :=
    Nat.lt_of_le_of_lt (Nat.div_le_self ..) millis.toNat_lt
  simp only [Duration.toMillis, Duration.ofMillis, UInt64.toNat_ofNat_of_lt' small]
  omega

theorem toMillis_stored (session : Session) :
    session.stored.shutdownTimeout.toMillis = session.shutdownTimeout.toMillis % UInt64.size :=
  (toMillis_ofMillis _).trans (UInt64.toNat_ofNat_of_lt' (Nat.mod_lt _ (by decide)))

theorem text?_stored (settings : Settings) : settings.stored.text? = settings.text? := by
  have session : settings.session.stored.text? = settings.session.text? := by
    simp only [Session.text?, toMillis_stored, Nat.mod_mod]
    rfl
  simp only [text?, stored, session]

theorem save_stored (settings : Settings) (writable : Bool) :
    settings.stored.save writable = settings.save writable := by
  simp only [save, toToml, text?_stored]

theorem save_of_fits {settings : Settings} (fits : settings.Fits) :
    settings.save true = .ok (String.ofList (Toml.documentOf (settings.parts fits))) := by
  simp only [save, toToml, text?_eq settings fits]
  rfl

theorem save_of_not_fits {settings : Settings} (fits : ¬settings.Fits) (writable : Bool) :
    settings.save writable = .error (.setup .notWritable) := by
  have unwritten : settings.text? = none :=
    Option.eq_none_iff_forall_ne_some.mpr fun _ written => fits (fits_of_text? written)
  simp only [save, toToml, unwritten]
  rfl

/-- What saving gives is the text of the sections, and it takes numbers that fit and a place that
takes files. -/
theorem of_save_eq_ok {settings : Settings} {writable : Bool} {text : String}
    (saved : settings.save writable = .ok text) :
    ∃ fits : settings.Fits, text = String.ofList (Toml.documentOf (settings.parts fits)) := by
  by_cases fits : settings.Fits
  · refine ⟨fits, ?_⟩
    cases writable with
    | true => exact Except.ok.inj (saved.symm.trans (save_of_fits fits))
    | false =>
      simp only [save, toToml, text?_eq settings fits] at saved
      cases saved
  · rw [save_of_not_fits fits] at saved
    cases saved

/-- Settings are written when a document has a place for each of their numbers. Loading what was
written gives them back, whatever their texts consist of, with the timeout cut to whole
milliseconds of 64 bits, and saving what was loaded writes the same text again. -/
theorem saved_settings_load_back (settings : Settings) :
    ((∃ text, settings.save true = .ok text) ↔ settings.Fits) ∧
      (∀ writable, ¬settings.Fits → settings.save writable = .error (.setup .notWritable)) ∧
      ∀ writable text, settings.save writable = .ok text →
        ofFile (some text.toUTF8) = .ok settings.stored ∧
          settings.stored.save writable = .ok text := by
  refine ⟨⟨?_, fun fits => ⟨_, save_of_fits fits⟩⟩,
    fun writable misfit => save_of_not_fits misfit writable, fun writable text saved => ?_⟩
  · rintro ⟨text, saved⟩
    exact (of_save_eq_ok saved).1
  · obtain ⟨fits, rfl⟩ := of_save_eq_ok saved
    rw [ofFile_toUTF8, save_stored]
    exact ⟨ofToml_documentOf settings fits, saved⟩

/-- Settings with an address that needs escapes, with a name that only tripled apostrophes hold
without any, and with a timeout of a little more than 64 bits of milliseconds. -/
def awkward : Settings where
  server := { address := "'''\"\"\"\\\n\x00\r\x7f" }
  logging := { appName := "it's \"C:\\\"\n" }
  session := { shutdownTimeout := ⟨18446744073709552, 7500001⟩ }

/-- The awkward texts come back, and of the timeout what is left of it modulo 64 bits. -/
theorem saved_settings_load_back_awkward :
    ∃ text, awkward.save true = .ok text ∧
      ofFile (some text.toUTF8) =
        .ok { awkward with session := { shutdownTimeout := .ofMillis 391 } } ∧
      ({ awkward with session := { shutdownTimeout := .ofMillis 391 } } : Settings).save true =
        .ok text := by
  have fits : awkward.Fits := ⟨⟨by decide, by decide, by decide, by decide⟩, ⟨by decide⟩⟩
  obtain ⟨written, -, loaded⟩ := saved_settings_load_back awkward
  obtain ⟨text, saved⟩ := written.mpr fits
  exact ⟨text, saved, loaded true text saved⟩

end Courier.Settings
