import Courier.Proofs.Settings.Fields

namespace Courier.Settings

open Toml (Value Entries)

def PartsAreTables (entries : Entries) : Prop :=
  ∀ (part : Part) (value : Value), (part.name, value) ∈ entries →
    ∃ form fields, value = .table form fields

/-- The document has this value for the field, in the table of its part. -/
def Gives (entries : Entries) (field : Known part) (value : Value) : Prop :=
  ∃ form fields, (part.name, .table form fields) ∈ entries ∧ (field.name, value) ∈ fields

section Loading

variable {entries : Entries} {settings : Settings} {part : Part} {field : Known part}
  {value : Value}

theorem exists_ofEntries_iff (sound : entries.Sound) (tables : PartsAreTables entries) :
    (∃ settings, ofEntries entries = .ok settings) ↔
      ∀ (part : Part) (field : Known part) (value : Value), Gives entries field value →
        field.kind.Admits value := by
  refine schema.exists_fill_iff.trans ?_
  constructor
  · rintro readable part field value ⟨form, fields, member, given⟩
    have read := readable part (.table form fields) member
    exact (Part.exists_read_table_iff (sound.table member)).mp read field value given
  · intro admitted part value member
    obtain ⟨form, fields, rfl⟩ := tables part value member
    exact (Part.exists_read_table_iff (sound.table member)).mpr fun field value given =>
      admitted part field value ⟨form, fields, member, given⟩

theorem fill_of_ofEntries (sound : entries.Sound) (loaded : ofEntries entries = .ok settings)
    {form : Toml.Form} {fields : Entries} (member : (part.name, .table form fields) ∈ entries) :
    part.schema.fill fields (part.ofSettings {}) = .ok (part.ofSettings settings) := by
  rw [← part.read_table form]
  exact (schema.get_of_fill sound.distinct loaded part).1 _ member

theorem means_of_gives (sound : entries.Sound) (loaded : ofEntries entries = .ok settings)
    (gives : Gives entries field value) : field.kind.Means value (field.ofSettings settings) := by
  obtain ⟨form, fields, member, given⟩ := gives
  have filled := fill_of_ofEntries sound loaded member
  have present := (part.schema.get_of_fill (sound.table member).distinct filled field).1
  exact Kind.read_eq_ok_iff.mp (present value given)

/-- A field that its part does not have keeps its default, as it does without the part. -/
theorem ofSettings_of_not_gives (sound : entries.Sound) (tables : PartsAreTables entries)
    (loaded : ofEntries entries = .ok settings) (absent : ∀ value, ¬ Gives entries field value) :
    field.ofSettings settings = field.ofSettings {} := by
  by_cases present : ∃ value, (part.name, value) ∈ entries
  · obtain ⟨value, member⟩ := present
    obtain ⟨form, fields, rfl⟩ := tables part value member
    have filled := fill_of_ofEntries sound loaded member
    exact (part.schema.get_of_fill (sound.table member).distinct filled field).2
      fun value given => absent value ⟨form, fields, member, given⟩
  · have untouched := (schema.get_of_fill sound.distinct loaded part).2 (not_exists.mp present)
    exact congrArg field.ofPart untouched

theorem ofToml_eq_ok_iff {text : String} (parsed : Toml.parse? text = some entries) :
    ofToml text = .ok settings ↔ ofEntries entries = .ok settings := by
  simp only [ofToml, parsed]
  cases ofEntries entries with
  | ok found =>
    change Except.ok found = .ok settings ↔ _
    rw [Except.ok.injEq, Except.ok.injEq]
  | error flaw => exact ⟨nofun, nofun⟩

/-- Entries that give the same fields are loaded alike. -/
theorem ofEntries_of_gives_iff {others : Entries} (sound : entries.Sound)
    (tables : PartsAreTables entries) (soundToo : others.Sound) (tablesToo : PartsAreTables others)
    (same : ∀ (part : Part) (field : Known part) (value : Value),
      Gives entries field value ↔ Gives others field value)
    (loaded : ofEntries entries = .ok settings) : ofEntries others = .ok settings := by
  have admitted := (exists_ofEntries_iff sound tables).mp ⟨settings, loaded⟩
  obtain ⟨found, loadedToo⟩ := (exists_ofEntries_iff soundToo tablesToo).mpr
    fun part field value gives => admitted part field value ((same part field value).mpr gives)
  rw [loadedToo]
  refine congrArg Except.ok (eq_of_ofSettings_eq fun part field => ?_)
  by_cases given : ∃ value, Gives entries field value
  · obtain ⟨value, gives⟩ := given
    have givesToo := (same part field value).mp gives
    exact (means_of_gives soundToo loadedToo givesToo).unique (means_of_gives sound loaded gives)
  · have absent := not_exists.mp given
    rw [ofSettings_of_not_gives sound tables loaded absent]
    exact ofSettings_of_not_gives soundToo tablesToo loadedToo fun value gives =>
      absent value ((same part field value).mpr gives)

end Loading

/-- Settings are loaded from a document, whose parts are tables, exactly if every known field that
it gives has a value of its type and range. Each given field then is what its value stands for, and
each other field has its default. Two documents that give the same fields load alike, whatever else
they have and in whatever order. -/
theorem document_overrides_defaults {text : String} {entries : Entries}
    (parsed : Toml.parse? text = some entries) (tables : PartsAreTables entries) :
    ((∃ settings, ofToml text = .ok settings) ↔
        ∀ (part : Part) (field : Known part) (value : Value), Gives entries field value →
          field.kind.Admits value) ∧
      (∀ settings, ofToml text = .ok settings → ∀ (part : Part) (field : Known part),
        (∀ value, Gives entries field value →
            field.kind.Means value (field.ofSettings settings)) ∧
          ((∀ value, ¬ Gives entries field value) →
            field.ofSettings settings = field.ofSettings {})) ∧
      ∀ (other : String) (others : Entries), Toml.parse? other = some others →
        PartsAreTables others →
          (∀ (part : Part) (field : Known part) (value : Value),
            Gives entries field value ↔ Gives others field value) →
              ∀ settings, ofToml text = .ok settings ↔ ofToml other = .ok settings := by
  have sound := Toml.sound_of_parse? parsed
  refine ⟨?_, fun settings loaded part field => ?_, fun other others parsedToo tablesToo same => ?_⟩
  · simp only [ofToml_eq_ok_iff parsed]
    exact exists_ofEntries_iff sound tables
  · have loaded := (ofToml_eq_ok_iff parsed).mp loaded
    exact ⟨fun value gives => means_of_gives sound loaded gives,
      ofSettings_of_not_gives sound tables loaded⟩
  · have soundToo := Toml.sound_of_parse? parsedToo
    intro settings
    rw [ofToml_eq_ok_iff parsed, ofToml_eq_ok_iff parsedToo]
    exact ⟨ofEntries_of_gives_iff sound tables soundToo tablesToo same,
      ofEntries_of_gives_iff soundToo tablesToo sound tables
        fun part field value => (same part field value).symm⟩

/-- A part between braces, one with a dotted key, and a field that stands in no known part. -/
def mixedDocument : String :=
  "session = \x7b read_buffer_size = 100 \x7d\nlogging.log_level = 'WARN'\n" ++
    "[extra]\nmax_body_length = -7\n"

def mixedEntries : Entries :=
  [("session", .table .inline [("read_buffer_size", .integer 100)]),
    ("logging", .table .dotted [("log_level", .text "WARN")]),
    ("extra", .table .opened [("max_body_length", .integer (-7))])]

/-- The same fields in another order, with a key that is not known among them. -/
def plainDocument : String :=
  "[logging]\ncolor = 1\nlog_level = 'WARN'\n[session]\nread_buffer_size = 100\n"

def plainEntries : Entries :=
  [("logging", .table .opened [("color", .integer 1), ("log_level", .text "WARN")]),
    ("session", .table .opened [("read_buffer_size", .integer 100)])]

theorem document_overrides_defaults_mixed :
    Toml.parse? mixedDocument = some mixedEntries ∧ PartsAreTables mixedEntries ∧
      ∃ settings, ofToml mixedDocument = .ok settings ∧ ofToml plainDocument = .ok settings ∧
        settings.session.readBufferSize = 100 ∧ settings.logging.logLevel = .warn ∧
        settings.framing.maxBodyLength = 16384 := by
  have parsed : Toml.parse? mixedDocument = some mixedEntries := by rfl
  have parsedToo : Toml.parse? plainDocument = some plainEntries := by rfl
  have tables : PartsAreTables mixedEntries := by
    intro part value member
    cases part <;> simp_all [Part.name, mixedEntries]
  have tablesToo : PartsAreTables plainEntries := by
    intro part value member
    cases part <;> simp_all [Part.name, plainEntries]
  have given (part : Part) (field : Known part) (value : Value) :
      Gives mixedEntries field value ↔
        ⟨part, field⟩ = (⟨.session, .readBufferSize⟩ : Σ part, Known part) ∧ value = .integer 100 ∨
          ⟨part, field⟩ = (⟨.logging, .logLevel⟩ : Σ part, Known part) ∧ value = .text "WARN" := by
    cases field <;> simp [Gives, Part.name, Known.name, mixedEntries, and_assoc]
  have same (part : Part) (field : Known part) (value : Value) :
      Gives mixedEntries field value ↔ Gives plainEntries field value := by
    cases field <;> simp [Gives, Part.name, Known.name, mixedEntries, plainEntries, and_assoc]
  obtain ⟨loads, holds, alike⟩ := document_overrides_defaults parsed tables
  have named : "WARN".toLower = LogLevel.warn.name := LogLevel.sameWord_name_iff.mp rfl
  have admitted (part : Part) (field : Known part) (value : Value)
      (gives : Gives mixedEntries field value) : field.kind.Admits value := by
    rcases (given part field value).mp gives with ⟨same, rfl⟩ | ⟨same, rfl⟩
    · cases same
      exact ⟨100, rfl⟩
    · cases same
      exact ⟨"WARN", rfl, .inl ⟨.warn, named⟩⟩
  obtain ⟨settings, loaded⟩ := loads.mpr admitted
  have size := (holds settings loaded _ .readBufferSize).1 _ ((given ..).mpr (.inl ⟨rfl, rfl⟩))
  have level := (holds settings loaded _ .logLevel).1 _ ((given ..).mpr (.inr ⟨rfl, rfl⟩))
  have limit := (holds settings loaded _ .maxBodyLength).2 fun value gives => by
    rcases (given ..).mp gives with ⟨same, -⟩ | ⟨same, -⟩ <;> cases same
  have loadedToo := (alike _ _ parsedToo tablesToo same settings).mp loaded
  exact ⟨parsed, tables, settings, loaded, loadedToo, size.unique rfl,
    level.unique ⟨"WARN", rfl, .inl named⟩, limit⟩

end Courier.Settings
