import Courier.Proofs.Toml.Values
import Courier.Toml.Document

/-! Reading back a document that was written section by section: a header, and below it a line for
every field. When no section and no field in it is named twice, the document is the table of its
sections. -/
namespace Courier.Toml

/-- A name that can be a key without quotes. -/
structure Bare (name : String) : Prop where
  filled : name.toList ≠ []
  all : ∀ char ∈ name.toList, isBareKey char

instance (name : String) : Decidable (Bare name) :=
  decidable_of_iff ((!name.toList.isEmpty && name.toList.all isBareKey) = true) <| by
    rw [Bool.and_eq_true, List.all_eq_true, Bool.not_eq_true', List.isEmpty_eq_false_iff]
    exact ⟨fun ⟨filled, all⟩ => ⟨filled, all⟩, fun ⟨filled, all⟩ => ⟨filled, all⟩⟩

section Lines

variable {char : Char} {name : String} {text rest : List Char} {value : Value}
  {statements : List Statement}

theorem Bare.ne_cons (bare : Bare name) {other : Char} (outside : isBareKey other = false)
    (rest tail : List Char) : name.toList ++ rest ≠ other :: tail :=
  append_ne_cons bare.filled bare.all outside rest tail

theorem Bare.skipBlanks_eq (bare : Bare name) (rest : List Char) :
    skipBlanks (name.toList ++ rest) = name.toList ++ rest :=
  skipBlanks_of_ne (bare.ne_cons (by decide) rest) (bare.ne_cons (by decide) rest)

theorem Bare.part?_eq (bare : Bare name) (stop : isBareKey char = false) (rest : List Char) :
    part? (name.toList ++ char :: rest) = some (name, char :: rest) := by
  have line : line? (name.toList ++ char :: rest) = none := by
    rw [line?]
    · exact bare.ne_cons (by decide) _
    · exact bare.ne_cons (by decide) _
  have taken : (name.toList ++ char :: rest).takeWhile isBareKey = name.toList := by
    rw [List.takeWhile_append_of_pos bare.all, List.takeWhile_cons_of_neg (by simp [stop])]
    simp
  have dropped : (name.toList ++ char :: rest).dropWhile isBareKey = char :: rest := by
    rw [List.dropWhile_append_of_pos bare.all, List.dropWhile_cons_of_neg (by simp [stop])]
  rw [part?, line]
  dsimp only
  rw [taken, dropped]
  split
  next empty => exact absurd empty bare.filled
  next => rw [String.ofList_toList]

/-- A bare name is a key of one part, unless a dot follows. -/
theorem Bare.key?_eq (bare : Bare name) (stop : isBareKey char = false)
    (last : ∀ tail, skipBlanks (char :: rest) ≠ '.' :: tail) :
    key? (name.toList ++ char :: rest) = some (⟨[], name⟩, skipBlanks (char :: rest)) := by
  have parts : parts? depthLimit (name.toList ++ char :: rest) =
      some ([name], skipBlanks (char :: rest)) := by
    rw [depthLimit, parts?, bare.skipBlanks_eq, bare.part?_eq stop]
    simp only [Option.bind_eq_bind, Option.bind_some]
    rfl
  rw [key?, parts]
  rfl

theorem Bare.statement?_line (bare : Bare name) (written : Written text value)
    (rest : List Char) :
    statement? (name.toList ++ " = ".toList ++ text ++ '\n' :: rest) =
      some (.pair ⟨[], name⟩ value, '\n' :: rest) := by
  have key : key? (name.toList ++ ' ' :: '=' :: ' ' :: (text ++ '\n' :: rest)) =
      some (⟨[], name⟩, '=' :: ' ' :: (text ++ '\n' :: rest)) :=
    bare.key?_eq (by decide) fun _ same => absurd (List.cons.inj same).1 (by decide)
  have blanks : skipBlanks (' ' :: (text ++ '\n' :: rest)) = text ++ '\n' :: rest :=
    written.start rest
  have done : skipBlanks ('\n' :: rest) = '\n' :: rest := rfl
  have pair : pair? (value? depthLimit) (name.toList ++ " = ".toList ++ text ++ '\n' :: rest) =
      some ((⟨[], name⟩, value), '\n' :: rest) := by
    simp [pair?, key, given?, blanks, written.read, done]
  rw [statement?, pair]
  · rfl
  · simpa using bare.ne_cons (by decide) (" = ".toList ++ text ++ '\n' :: rest)

theorem Bare.statement?_header (bare : Bare name) (rest : List Char) :
    statement? ('[' :: name.toList ++ ']' :: '\n' :: rest) =
      some (.table ⟨[], name⟩, '\n' :: rest) := by
  have key : key? (name.toList ++ ']' :: '\n' :: rest) =
      some (⟨[], name⟩, ']' :: '\n' :: rest) :=
    bare.key?_eq (by decide) fun _ same => absurd (List.cons.inj same).1 (by decide)
  rw [List.cons_append, statement?, header?, key]
  · rfl
  · exact bare.ne_cons (by decide) _

/-- A text that begins at the start of a line and consists of these statements, one a line. -/
def States (text : List Char) (statements : List Statement) : Prop :=
  ∀ fuel, text.length < fuel → statements? fuel text = some statements

theorem states_nil : States [] [] := by
  intro fuel enough
  obtain ⟨less, rfl⟩ := Nat.exists_eq_add_one.mpr (Nat.zero_lt_of_lt enough)
  rfl

theorem States.blank (later : States rest statements) : States ('\n' :: rest) statements := by
  intro fuel enough
  obtain ⟨less, rfl⟩ := Nat.exists_eq_add_one.mpr (Nat.zero_lt_of_lt enough)
  exact later less (Nat.lt_of_succ_lt_succ enough)

/-- The characters that a header or a bare key begins with. -/
def isOpening (char : Char) : Bool :=
  isBareKey char || char == '['

section Opening

variable (opens : isOpening char)
include opens

theorem opening_ne {other : Char} (outside : isOpening other = false) (text tail : List Char) :
    char :: text ≠ other :: tail :=
  fun same => ne_of_class opens outside (List.cons.inj same).1

theorem skipBlanks_opening (text : List Char) : skipBlanks (char :: text) = char :: text :=
  skipBlanks_of_ne (opening_ne opens (by decide) text) (opening_ne opens (by decide) text)

theorem lineEnd?_opening (text : List Char) : lineEnd? (char :: text) = none := by
  have comment : skipComment (char :: text) = char :: text := by
    rw [skipComment]
    exact opening_ne opens (by decide) text
  rw [lineEnd?, skipBlanks_opening opens, comment]
  dsimp only
  rw [newline?]
  · exact opening_ne opens (by decide) text
  · exact fun tail => opening_ne opens (by decide) text _

/-- A line with a statement, in front of other lines. -/
theorem States.cons {first : Statement}
    (read : statement? (char :: text ++ '\n' :: rest) = some (first, '\n' :: rest))
    (later : States rest statements) :
    States (char :: text ++ '\n' :: rest) (first :: statements) := by
  intro fuel enough
  obtain ⟨less, rfl⟩ := Nat.exists_eq_add_one.mpr (Nat.zero_lt_of_lt enough)
  have more := later less (by simp only [List.length_append, List.length_cons] at enough; omega)
  have stop : lineEnd? ('\n' :: rest) = some rest := rfl
  rw [List.cons_append] at read ⊢
  rw [statements?, skipBlanks_opening opens]
  simp [lineEnd?_opening opens, read, stop, more]

end Opening

theorem States.header (bare : Bare name) (later : States rest statements) :
    States ('[' :: name.toList ++ ']' :: '\n' :: rest) (.table ⟨[], name⟩ :: statements) := by
  have read : statement? ('[' :: (name.toList ++ [']']) ++ '\n' :: rest) =
      some (.table ⟨[], name⟩, '\n' :: rest) := by
    simpa using bare.statement?_header rest
  simpa using later.cons (by decide) read

theorem States.line (bare : Bare name) (written : Written text value)
    (later : States rest statements) :
    States (name.toList ++ " = ".toList ++ text ++ '\n' :: rest)
      (.pair ⟨[], name⟩ value :: statements) := by
  have read := bare.statement?_line written rest
  obtain ⟨first, tail, same⟩ := List.exists_cons_of_ne_nil bare.filled
  have opens : isOpening first := by
    simp [isOpening, bare.all first (same ▸ List.mem_cons_self)]
  rw [same] at read ⊢
  exact later.cons opens read

end Lines

/-- A field with a text for its value. -/
structure Field where
  name : String
  text : List Char
  value : Value
  bare : Bare name
  written : Written text value

namespace Field

def line (field : Field) : List Char :=
  field.name.toList ++ " = ".toList ++ field.text ++ ['\n']

def statement (field : Field) : Statement :=
  .pair ⟨[], field.name⟩ field.value

def entry (field : Field) : String × Value :=
  (field.name, field.value)

def number (name : String) (bare : Bare name) (number : Nat) (fits : number ≤ largest) : Field :=
  ⟨name, (toString number).toList, .integer number, bare, written_number fits⟩

def quoted (name : String) (bare : Bare name) (text : String) : Field :=
  ⟨name, quote text.toList, .text text, bare, written_quote text⟩

def flag (name : String) (bare : Bare name) (flag : Bool) : Field :=
  ⟨name, (if flag then "true" else "false").toList, .flag flag, bare, written_flag flag⟩

end Field

/-- A section with at most one line for every field. -/
structure Section where
  name : String
  fields : List Field
  bare : Bare name
  distinct : (fields.map Field.name).Nodup

namespace Section

def text (part : Section) : List Char :=
  '[' :: part.name.toList ++ ']' :: '\n' :: part.fields.flatMap Field.line

def statements (part : Section) : List Statement :=
  .table ⟨[], part.name⟩ :: part.fields.map Field.statement

def entry (part : Section) : String × Value :=
  (part.name, .table .opened (part.fields.map Field.entry))

end Section

/-- Sections, separated by empty lines. -/
def documentOf (parts : List Section) : List Char :=
  ['\n'].intercalate (parts.map Section.text)

section Documents

variable {rest : List Char} {statements : List Statement}

theorem States.fields (fields : List Field) (later : States rest statements) :
    States (fields.flatMap Field.line ++ rest) (fields.map Field.statement ++ statements) := by
  induction fields with
  | nil => exact later
  | cons field fields ih =>
    simpa [Field.line, Field.statement] using ih.line field.bare field.written

theorem States.part (part : Section) (later : States rest statements) :
    States (part.text ++ rest) (part.statements ++ statements) := by
  simpa [Section.text, Section.statements] using (later.fields part.fields).header part.bare

theorem states_documentOf (parts : List Section) :
    States (documentOf parts) (parts.flatMap Section.statements) := by
  match parts with
  | [] => exact states_nil
  | [part] => simpa [documentOf, List.intercalate_singleton] using states_nil.part part
  | first :: second :: parts =>
    have later := states_documentOf (second :: parts)
    simpa [documentOf, List.intercalate_cons_cons] using later.blank.part first

end Documents

section Drafts

variable {name : String} {entries done : Entries} {old new : Value}

theorem find?_eq_none (free : name ∉ entries.map Prod.fst) : entries.find? name = none := by
  refine List.lookup_eq_none_iff.mpr fun entry member => bne_iff_ne.mpr ?_
  rintro rfl
  exact free (List.mem_map_of_mem member)

theorem find?_append (free : name ∉ done.map Prod.fst) :
    Entries.find? (done ++ [(name, old)]) name = some old := by
  have missing : done.lookup name = none := find?_eq_none free
  simp [Entries.find?, List.lookup_append, missing]

theorem replace_append (free : name ∉ done.map Prod.fst) :
    Entries.replace (done ++ [(name, old)]) name new = done ++ [(name, new)] := by
  induction done with
  | nil => simp [Entries.replace]
  | cons entry done ih =>
    obtain ⟨other, others⟩ : name ≠ entry.1 ∧ name ∉ done.map Prod.fst := by simpa using free
    simpa [Entries.replace, Ne.symm other] using ih others

theorem add_table (header : List String) (free : name ∉ done.map Prod.fst) :
    Draft.add ⟨⟨.opened, done⟩, header⟩ (.table ⟨[], name⟩) =
      some ⟨⟨.opened, done ++ [(name, .table .opened [])]⟩, [name]⟩ := by
  simp [Draft.add, Branch.openTable, Branch.modify, Branch.openTable.add, find?_eq_none free,
    Entries.push, Key.path]

theorem add_pair (field : Field) (free : name ∉ done.map Prod.fst)
    (fresh : field.name ∉ entries.map Prod.fst) :
    Draft.add ⟨⟨.opened, done ++ [(name, .table .opened entries)]⟩, [name]⟩ field.statement =
      some ⟨⟨.opened, done ++ [(name, .table .opened (entries ++ [field.entry]))]⟩, [name]⟩ := by
  simp [Field.statement, Field.entry, Draft.add, Branch.assignUnder, Branch.modify,
    find?_append free, Branch.assign, Branch.assign.fill, find?_eq_none fresh, Branch.toValue,
    Entries.push, replace_append free]

theorem not_mem_of_nodup {before after : List String}
    (names : (before ++ name :: after).Nodup) : name ∉ before :=
  fun member => (List.nodup_append.mp names).2.2 name member name List.mem_cons_self rfl

theorem add_pairs (entries : Entries) (fields : List Field) (free : name ∉ done.map Prod.fst)
    (names : (entries.map Prod.fst ++ fields.map Field.name).Nodup) :
    (fields.map Field.statement).foldlM Draft.add
        ⟨⟨.opened, done ++ [(name, .table .opened entries)]⟩, [name]⟩ =
      some ⟨⟨.opened, done ++ [(name, .table .opened (entries ++ fields.map Field.entry))]⟩,
        [name]⟩ := by
  -- A field is added to a table that is partly filled, so the entries before it vary.
  induction fields generalizing entries with
  | nil => simp
  | cons field fields ih =>
    have later := ih (entries ++ [field.entry]) (by simpa [Field.entry] using names)
    rw [List.map_cons, List.foldlM_cons, add_pair field free (not_mem_of_nodup names)]
    simpa using later

theorem add_section (header : List String) (part : Section)
    (free : part.name ∉ done.map Prod.fst) :
    part.statements.foldlM Draft.add ⟨⟨.opened, done⟩, header⟩ =
      some ⟨⟨.opened, done ++ [part.entry]⟩, [part.name]⟩ := by
  rw [Section.statements, List.foldlM_cons, add_table header free]
  exact add_pairs [] part.fields free part.distinct

theorem add_sections (done : Entries) (header : List String) (parts : List Section)
    (names : (done.map Prod.fst ++ parts.map Section.name).Nodup) :
    ∃ last, (parts.flatMap Section.statements).foldlM Draft.add ⟨⟨.opened, done⟩, header⟩ =
      some ⟨⟨.opened, done ++ parts.map Section.entry⟩, last⟩ := by
  induction parts generalizing done header with
  | nil => exact ⟨header, by simp⟩
  | cons part parts ih =>
    obtain ⟨last, later⟩ :=
      ih (done ++ [part.entry]) [part.name] (by simpa [Section.entry] using names)
    refine ⟨last, ?_⟩
    rw [List.flatMap_cons, List.foldlM_append, add_section header part (not_mem_of_nodup names)]
    simpa using later

end Drafts

/-- Sections with names of their own are read as the table of these sections. -/
theorem parse?_documentOf (parts : List Section) (names : (parts.map Section.name).Nodup) :
    parse? (String.ofList (documentOf parts)) = some (parts.map Section.entry) := by
  have skipped : skipMark (documentOf parts) = documentOf parts := by
    rw [skipMark]
    rintro rest marked
    match parts with
    | [] => cases marked
    | [part] => simp [documentOf, List.intercalate_singleton, Section.text] at marked
    | first :: second :: parts =>
      simp [documentOf, List.intercalate_cons_cons, Section.text] at marked
  obtain ⟨last, made⟩ := add_sections [] [] parts names
  rw [parse?, String.toList_ofList, skipped]
  simp [states_documentOf parts _ (Nat.lt_succ_self _), Draft.ofStatements, made]

end Courier.Toml
