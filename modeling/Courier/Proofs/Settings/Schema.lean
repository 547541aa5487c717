import Courier.Settings.Document

/-! Records that are filled from tables, key by key. What a record takes from a table is decided for
each known key by what stands under it, wherever in the table that is and whatever else is there. -/
namespace Courier.Settings

open Toml (Value Entries)

/-- The known keys of a table: the part of a record that each of them decides, how that is read from
a value, and how an entry changes the record. Under a key that is not known it changes nothing. -/
structure Schema (Record Key : Type) where
  name : Key → String
  Content : Key → Type
  get : (key : Key) → Record → Content key
  put : (key : Key) → Record → Content key → Record
  read : (key : Key) → Value → Reading (Content key)
  set : Record → String → Value → Reading Record
  eq_of_name_eq : ∀ {key other}, name key = name other → key = other
  get_put : ∀ key record content, get key (put key record content) = content
  get_put_of_ne : ∀ {key other}, other ≠ key →
    ∀ record content, get other (put key record content) = get other record
  set_known : ∀ record key value, set record (name key) value = put key record <$> read key value
  set_unknown : ∀ record {written} value, (∀ key, name key ≠ written) →
    set record written value = .ok record

namespace Schema

variable {Record Key : Type} {schema : Schema Record Key} {record next last : Record} {key : Key}
  {written : String} {value : Value} {entries : Entries}

def fill (schema : Schema Record Key) (entries : Entries) (record : Record) : Reading Record :=
  entries.foldlM (fun record (name, value) => schema.set record name value) record

theorem fill_cons_eq_ok_iff :
    schema.fill ((written, value) :: entries) record = .ok last ↔
      ∃ next, schema.set record written value = .ok next ∧ schema.fill entries next = .ok last := by
  simp only [fill, List.foldlM_cons]
  cases schema.set record written value with
  | ok next => exact ⟨fun rest => ⟨next, rfl, rest⟩, fun ⟨_, rfl, rest⟩ => rest⟩
  | error flaw => exact ⟨nofun, nofun⟩

theorem set_cases (schema : Schema Record Key) (record : Record) (written : String)
    (value : Value) :
    (∃ key, written = schema.name key ∧
        schema.set record written value = schema.put key record <$> schema.read key value) ∨
      (∀ key, schema.name key ≠ written) ∧ schema.set record written value = .ok record := by
  by_cases known : ∃ key, schema.name key = written
  · obtain ⟨key, rfl⟩ := known
    exact .inl ⟨key, rfl, schema.set_known record key value⟩
  · have unknown (key : Key) : schema.name key ≠ written := fun same => known ⟨key, same⟩
    exact .inr ⟨unknown, schema.set_unknown record value unknown⟩

theorem exists_set_iff :
    (∃ next, schema.set record written value = .ok next) ↔
      ∀ key, schema.name key = written → ∃ content, schema.read key value = .ok content := by
  rcases schema.set_cases record written value with ⟨key, rfl, outcome⟩ | ⟨unknown, outcome⟩
  · rw [outcome]
    constructor
    · rintro ⟨next, made⟩ other same
      cases schema.eq_of_name_eq same
      cases read : schema.read key value with
      | ok content => exact ⟨content, rfl⟩
      | error flaw =>
        rw [read] at made
        cases made
    · intro readable
      obtain ⟨content, read⟩ := readable key rfl
      exact ⟨schema.put key record content, by rw [read]; rfl⟩
  · exact iff_of_true ⟨record, outcome⟩ fun key same => absurd same (unknown key)

/-- An entry decides what stands under its own key, and that alone. -/
theorem get_of_set (made : schema.set record written value = .ok next) (key : Key) :
    (schema.name key = written → schema.read key value = .ok (schema.get key next)) ∧
      (schema.name key ≠ written → schema.get key next = schema.get key record) := by
  rcases schema.set_cases record written value with ⟨other, rfl, outcome⟩ | ⟨unknown, outcome⟩
  · rw [outcome] at made
    cases read : schema.read other value with
    | error flaw =>
      rw [read] at made
      cases made
    | ok content =>
      rw [read] at made
      cases made
      constructor
      · intro same
        cases schema.eq_of_name_eq same
        rw [read, schema.get_put]
      · intro differs
        have others : key ≠ other := fun same => differs (congrArg schema.name same)
        exact schema.get_put_of_ne others record content
  · rw [outcome] at made
    cases made
    exact ⟨fun same => absurd same (unknown key), fun _ => rfl⟩

theorem exists_fill_iff :
    (∃ last, schema.fill entries record = .ok last) ↔
      ∀ key value, (schema.name key, value) ∈ entries →
        ∃ content, schema.read key value = .ok content := by
  induction entries generalizing record with
  | nil => exact iff_of_true ⟨record, rfl⟩ fun _ _ member => nomatch member
  | cons entry entries ih =>
    obtain ⟨written, value⟩ := entry
    simp only [fill_cons_eq_ok_iff]
    constructor
    · rintro ⟨last, next, made, rest⟩ key other member
      rcases List.mem_cons.mp member with same | later
      · cases same
        exact exists_set_iff.mp ⟨next, made⟩ key rfl
      · exact ih.mp ⟨last, rest⟩ key other later
    · intro readable
      have first : ∃ next, schema.set record written value = .ok next :=
        exists_set_iff.mpr fun key same =>
          readable key value (by rw [same]; exact List.mem_cons_self)
      obtain ⟨next, made⟩ := first
      obtain ⟨last, rest⟩ := ih.mpr fun key other later =>
        readable key other (List.mem_cons_of_mem _ later)
      exact ⟨last, next, made, rest⟩

/-- In a table without doubles, each known key holds what was read under it, or what it held. -/
theorem get_of_fill (distinct : (entries.map Prod.fst).Nodup)
    (filled : schema.fill entries record = .ok last) (key : Key) :
    (∀ value, (schema.name key, value) ∈ entries →
        schema.read key value = .ok (schema.get key last)) ∧
      ((∀ value, (schema.name key, value) ∉ entries) →
        schema.get key last = schema.get key record) := by
  induction entries generalizing record with
  | nil =>
    cases filled
    exact ⟨nofun, fun _ => rfl⟩
  | cons entry entries ih =>
    obtain ⟨written, value⟩ := entry
    obtain ⟨new, distinct⟩ := List.nodup_cons.mp distinct
    obtain ⟨next, made, rest⟩ := fill_cons_eq_ok_iff.mp filled
    obtain ⟨present, absent⟩ := ih distinct rest
    obtain ⟨here, elsewhere⟩ := get_of_set made key
    constructor
    · intro other member
      rcases List.mem_cons.mp member with same | later
      · cases same
        rw [here rfl, absent fun _ member => new (List.mem_map.mpr ⟨_, member, rfl⟩)]
      · exact present other later
    · intro missing
      rw [absent fun other member => missing other (List.mem_cons_of_mem _ member)]
      exact elsewhere fun same => missing value (by rw [same]; exact List.mem_cons_self)

end Schema

end Courier.Settings
