import Courier.Proofs.Numeral
import Courier.Proofs.Toml.Soundness
import Courier.Settings.Document
import Courier.Settings.Text

namespace Courier

namespace LogLevel

/-- The text is the name of the level, in any case of its letters, or a numeral of its verbosity. -/
def IsWritten (level : LogLevel) (text : String) : Prop :=
  text.toLower = level.name ∨ Numeral.Spells text level.verbosity

variable {level : LogLevel} {text : String}

theorem toList_toLower (text : String) : text.toLower.toList = text.toList.map Char.toLower :=
  String.toList_map

theorem sameWord_name_iff : sameWord level.name text = true ↔ text.toLower = level.name := by
  have lower : level.name.toList.map Char.toLower = level.name.toList := by cases level <;> rfl
  rw [sameWord, beq_iff_eq, lower, ← toList_toLower, String.toList_inj, eq_comm]

theorem toLower_of_isDigit {char : Char} (digit : char.isDigit) : char.toLower = char := by
  have bounds : 48 ≤ char.toNat ∧ char.toNat ≤ 57 := by
    simpa [Char.isDigit, UInt32.le_iff_toNat_le] using digit
  refine dif_neg ?_
  simp [UInt32.le_iff_toNat_le]
  omega

/-- A numeral has a digit, and the name of a level has none. -/
theorem toLower_ne_name {number : Nat} (spelled : Numeral.Spells text number) :
    text.toLower ≠ level.name := by
  intro named
  have letters : level.name.toList.all (!·.isDigit) = true := by cases level <;> rfl
  rw [← named, toList_toLower, List.all_eq_true, List.forall_mem_map] at letters
  obtain ⟨digits, written, filled, all, -⟩ := spelled
  obtain ⟨digit, rest, rfl⟩ := List.exists_cons_of_ne_nil filled
  have member : digit ∈ text.toList := by rcases written with same | same <;> simp [same]
  have isDigit := all digit List.mem_cons_self
  have letter := letters digit member
  rw [toLower_of_isDigit isDigit, isDigit] at letter
  cases letter

theorem parse?_eq_some_iff : parse? text = some level ↔ level.IsWritten text := by
  unfold parse?
  cases parsed : Numeral.parse (UInt64.size - 1) text with
  | ok number =>
    obtain ⟨spelled, -⟩ := Numeral.parse_eq_ok_iff.mp parsed
    constructor
    · intro found
      have same : level.verbosity = number := by simpa using List.find?_some found
      exact .inr (same ▸ spelled)
    · rintro (named | numbered)
      · exact absurd named (toLower_ne_name spelled)
      · obtain rfl := numbered.unique spelled
        cases level <;> rfl
  | error flaw =>
    dsimp only
    constructor
    · intro found
      have same : sameWord level.name text = true := by simpa using List.find?_some found
      exact .inl (sameWord_name_iff.mp same)
    · rintro (named | numbered)
      · have words (other : LogLevel) :
            sameWord other.name text = (level.name == other.name) := by
          rw [Bool.eq_iff_iff, sameWord_name_iff, named, beq_iff_eq]
        simp only [words]
        cases level <;> rfl
      · have bound : level.verbosity ≤ UInt64.size - 1 := by cases level <;> decide
        rw [Numeral.parse_eq_ok_iff.mpr ⟨numbered, bound⟩] at parsed
        cases parsed

/-- The levels have five names and the numbers from one to five. -/
theorem exists_isWritten_iff :
    (∃ level : LogLevel, level.IsWritten text) ↔
      (∃ level : LogLevel, text.toLower = level.name) ∨
        ∃ number, Numeral.Spells text number ∧ 1 ≤ number ∧ number ≤ 5 := by
  have verbosity (number : Nat) :
      (∃ level : LogLevel, level.verbosity = number) ↔ 1 ≤ number ∧ number ≤ 5 := by
    constructor
    · rintro ⟨level, rfl⟩
      cases level <;> decide
    · rintro ⟨positive, small⟩
      match number with
      | 1 => exact ⟨.error, rfl⟩
      | 2 => exact ⟨.warn, rfl⟩
      | 3 => exact ⟨.info, rfl⟩
      | 4 => exact ⟨.debug, rfl⟩
      | 5 => exact ⟨.trace, rfl⟩
  constructor
  · rintro ⟨level, named | numbered⟩
    · exact .inl ⟨level, named⟩
    · exact .inr ⟨level.verbosity, numbered, (verbosity _).mp ⟨level, rfl⟩⟩
  · rintro (⟨level, named⟩ | ⟨number, numbered, between⟩)
    · exact ⟨level, .inl named⟩
    · obtain ⟨level, rfl⟩ := (verbosity number).mpr between
      exact ⟨level, .inr numbered⟩

end LogLevel

namespace Settings

open Toml (Value Entries largest)

/-- The value names a choice, as a text or as the only key of a table with nothing under it. -/
inductive Names (name : String) : Value → Prop where
  | text : Names name (.text name)
  | table (form inner : Toml.Form) : Names name (.table form [(name, .table inner [])])
  | list (form : Toml.Form) : Names name (.table form [(name, .list [])])

theorem exists_names_iff {α : Type} {value : Value} (name : α → String) (first second : α)
    (either : ∀ choice, choice = first ∨ choice = second) :
    (∃ choice, Names (name choice) value) ↔
      Names (name first) value ∨ Names (name second) value := by
  constructor
  · rintro ⟨choice, named⟩
    rcases either choice with rfl | rfl
    · exact .inl named
    · exact .inr named
  · rintro (named | named)
    · exact ⟨first, named⟩
    · exact ⟨second, named⟩

section Readers

variable {α : Type} {value : Value}

theorem readNumber_eq_ok_iff {bound number : Nat} :
    readNumber bound value = .ok number ↔ value = .integer number ∧ number ≤ bound := by
  cases value with
  | integer value =>
    rw [readNumber, Value.integer.injEq]
    split
    · rw [Except.ok.injEq]
      omega
    · simp only [reduceCtorEq, false_iff, not_and]
      omega
  | _ => simp [readNumber]

/-- A word is read from the integer that is its value. -/
theorem map_readNumber_eq_ok_iff {bound : Nat} {ofNat : Nat → α} {toNat : α → Nat} {word : α}
    (fits : ∀ word, toNat word ≤ bound) (ofNat_toNat : ∀ word, ofNat (toNat word) = word)
    (toNat_ofNat : ∀ number ≤ bound, toNat (ofNat number) = number) :
    ofNat <$> readNumber bound value = .ok word ↔ value = .integer (toNat word) := by
  constructor
  · intro read
    cases found : readNumber bound value with
    | ok number =>
      obtain ⟨rfl, within⟩ := readNumber_eq_ok_iff.mp found
      rw [found] at read
      cases read
      rw [toNat_ofNat number within]
    | error flaw =>
      rw [found] at read
      cases read
  · rintro rfl
    rw [readNumber_eq_ok_iff.mpr ⟨rfl, fits word⟩]
    exact congrArg Except.ok (ofNat_toNat word)

theorem readLimit_eq_ok_iff {limit : UInt16} :
    UInt16.ofNat <$> readNumber (UInt16.size - 1) value = .ok limit ↔
      value = .integer limit.toNat :=
  map_readNumber_eq_ok_iff (fun limit => Nat.le_sub_one_of_lt limit.toNat_lt)
    (fun _ => UInt16.ofNat_toNat)
    fun _ within => UInt16.toNat_ofNat_of_lt' (Nat.lt_of_le_of_lt within (by decide))

theorem readWord_eq_ok_iff {word : UInt64} :
    readWord value = .ok word ↔ value = .integer word.toNat :=
  map_readNumber_eq_ok_iff (fun word => Nat.le_sub_one_of_lt word.toNat_lt)
    (fun _ => UInt64.ofNat_toNat)
    fun _ within => UInt64.toNat_ofNat_of_lt' (Nat.lt_of_le_of_lt within (by decide))

theorem readText_eq_ok_iff {text : String} : readText value = .ok text ↔ value = .text text := by
  cases value <;> simp [readText]

theorem readFlag_eq_ok_iff {flag : Bool} : readFlag value = .ok flag ↔ value = .flag flag := by
  cases value <;> simp [readFlag]

theorem readLevel_eq_ok_iff {level : LogLevel} :
    readLevel value = .ok level ↔ ∃ text, value = .text text ∧ level.IsWritten text := by
  cases value with
  | text text =>
    simp only [readLevel, Value.text.injEq, exists_eq_left', ← LogLevel.parse?_eq_some_iff]
    cases LogLevel.parse? text <;> simp
  | _ => simp [readLevel]

theorem pick_eq_ok_iff {first second : String × α} (distinct : first.1 ≠ second.1) {name : String}
    {choice : α} :
    readChoice.pick first second name = .ok choice ↔
      name = first.1 ∧ choice = first.2 ∨ name = second.1 ∧ choice = second.2 := by
  unfold readChoice.pick
  split
  · rename_i same
    simp [same, distinct, eq_comm]
  · rename_i other
    split
    · rename_i same
      simp [same, distinct.symm, eq_comm]
    · rename_i neither
      simp [other, neither]

theorem readChoice_of_names {first second : String × α} {name : String} (named : Names name value) :
    readChoice first second value = readChoice.pick first second name := by
  cases named <;> rfl

theorem exists_names_of_readChoice {first second : String × α} {choice : α}
    (read : readChoice first second value = .ok choice) :
    ∃ name, Names name value ∧ readChoice.pick first second name = .ok choice := by
  unfold readChoice at read
  split at read
  · exact ⟨_, .text, read⟩
  · exact ⟨_, .table _ _, read⟩
  · exact ⟨_, .list _, read⟩
  · rename_i name _ _ _
    cases picked : readChoice.pick first second name <;> rw [picked] at read <;> cases read
  · cases read

theorem readChoice_eq_ok_iff {first second : String × α} (distinct : first.1 ≠ second.1)
    {choice : α} :
    readChoice first second value = .ok choice ↔
      Names first.1 value ∧ choice = first.2 ∨ Names second.1 value ∧ choice = second.2 := by
  constructor
  · intro read
    obtain ⟨name, named, picked⟩ := exists_names_of_readChoice read
    rcases (pick_eq_ok_iff distinct).mp picked with ⟨rfl, same⟩ | ⟨rfl, same⟩
    · exact .inl ⟨named, same⟩
    · exact .inr ⟨named, same⟩
  · rintro (⟨named, same⟩ | ⟨named, same⟩)
    · rw [readChoice_of_names named]
      exact (pick_eq_ok_iff distinct).mpr (.inl ⟨rfl, same⟩)
    · rw [readChoice_of_names named]
      exact (pick_eq_ok_iff distinct).mpr (.inr ⟨rfl, same⟩)

end Readers

/-- What a known field holds. -/
inductive Kind where
  | limit
  | word
  | timeout
  | routing
  | missPolicy
  | text
  | level
  | flag

namespace Kind

abbrev Content : Kind → Type
  | .limit => UInt16
  | .word => UInt64
  | .timeout => Duration
  | .routing => Route.Policy
  | .missPolicy => Route.MissPolicy
  | .text => String
  | .level => LogLevel
  | .flag => Bool

def read : (kind : Kind) → Value → Reading kind.Content
  | .limit, value => UInt16.ofNat <$> readNumber (UInt16.size - 1) value
  | .word, value => readWord value
  | .timeout, value => Duration.ofMillis <$> readWord value
  | .routing, value => readChoice ("id_and_type", .idAndKind) ("type_only", .kindOnly) value
  | .missPolicy, value => readChoice ("report", .report) ("silent", .silent) value
  | .text, value => readText value
  | .level, value => readLevel value
  | .flag, value => readFlag value

/-- The value stands for this content. A timeout is given in milliseconds. -/
def Means : (kind : Kind) → Value → kind.Content → Prop
  | .limit, value, content => value = .integer content.toNat
  | .word, value, content => value = .integer content.toNat
  | .timeout, value, content =>
    ∃ millis : UInt64, value = .integer millis.toNat ∧ content = .ofMillis millis
  | .routing, value, content => Names (routingName content) value
  | .missPolicy, value, content => Names (missPolicyName content) value
  | .text, value, content => value = .text content
  | .level, value, content => ∃ written, value = .text written ∧ content.IsWritten written
  | .flag, value, content => value = .flag content

/-- The value has the type that the field takes, and is in its range. -/
def Admits : Kind → Value → Prop
  | .limit, value => ∃ number : Nat, value = .integer number ∧ number ≤ 65535
  | .word, value | .timeout, value => ∃ number : Nat, value = .integer number
  | .routing, value => Names "id_and_type" value ∨ Names "type_only" value
  | .missPolicy, value => Names "report" value ∨ Names "silent" value
  | .text, value => ∃ content, value = .text content
  | .level, value => ∃ written, value = .text written ∧
    ((∃ content : LogLevel, written.toLower = content.name) ∨
      ∃ number, Numeral.Spells written number ∧ 1 ≤ number ∧ number ≤ 5)
  | .flag, value => ∃ content, value = .flag content

variable {kind : Kind} {value : Value}

theorem read_eq_ok_iff {content : kind.Content} :
    kind.read value = .ok content ↔ kind.Means value content := by
  cases kind with
  | limit => exact readLimit_eq_ok_iff
  | word => exact readWord_eq_ok_iff
  | timeout =>
    simp only [Means, ← readWord_eq_ok_iff]
    change Duration.ofMillis <$> readWord value = .ok content ↔ _
    cases readWord value with
    | ok millis => simp [Functor.map, Except.map, eq_comm]
    | error flaw => simp [Functor.map, Except.map]
  | routing => cases content <;> simp [read, Means, readChoice_eq_ok_iff, routingName]
  | missPolicy => cases content <;> simp [read, Means, readChoice_eq_ok_iff, missPolicyName]
  | text => exact readText_eq_ok_iff
  | level => exact readLevel_eq_ok_iff
  | flag => exact readFlag_eq_ok_iff

theorem Means.unique {first second : kind.Content} (one : kind.Means value first)
    (other : kind.Means value second) : first = second := by
  have same := (read_eq_ok_iff.mpr one).symm.trans (read_eq_ok_iff.mpr other)
  exact Except.ok.inj same

theorem exists_word_iff (sound : value.Sound) :
    (∃ word : UInt64, value = .integer word.toNat) ↔ ∃ number : Nat, value = .integer number := by
  constructor
  · exact fun ⟨content, same⟩ => ⟨content.toNat, same⟩
  · rintro ⟨number, rfl⟩
    cases sound with
    | integer fits =>
      have small : number < UInt64.size := by
        have := fits.2
        simp only [largest, UInt64.size] at this ⊢
        omega
      exact ⟨.ofNat number, by rw [UInt64.toNat_ofNat_of_lt' small]⟩

/-- In a document, the values of the right type and range are those that stand for a content. -/
theorem exists_means_iff (sound : value.Sound) :
    (∃ content, kind.Means value content) ↔ kind.Admits value := by
  cases kind with
  | limit =>
    constructor
    · exact fun ⟨content, same⟩ => ⟨content.toNat, same, Nat.le_of_lt_succ content.toNat_lt⟩
    · rintro ⟨number, rfl, small⟩
      have fits : number < UInt16.size := Nat.lt_succ_of_le small
      exact ⟨.ofNat number, by rw [Means, UInt16.toNat_ofNat_of_lt' fits]⟩
  | word => exact exists_word_iff sound
  | timeout =>
    refine Iff.trans ?_ (exists_word_iff sound)
    exact ⟨fun ⟨_, millis, same, _⟩ => ⟨millis, same⟩,
      fun ⟨millis, same⟩ => ⟨.ofMillis millis, millis, same, rfl⟩⟩
  | routing =>
    exact exists_names_iff routingName .idAndKind .kindOnly fun policy => by cases policy <;> simp
  | missPolicy =>
    exact exists_names_iff missPolicyName .report .silent fun policy => by cases policy <;> simp
  | text => exact Iff.rfl
  | level =>
    simp only [Admits, ← LogLevel.exists_isWritten_iff]
    exact ⟨fun ⟨content, written, same, spelled⟩ => ⟨written, same, content, spelled⟩,
      fun ⟨written, same, content, spelled⟩ => ⟨content, written, same, spelled⟩⟩
  | flag => exact Iff.rfl

end Kind

end Settings
end Courier
