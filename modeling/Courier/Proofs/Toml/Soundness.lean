import Courier.Toml.Document

/-! What every document that can be read holds. No table in it has two entries under one key,
however its entries were written: below a header, between braces, with dotted keys or below several
headers. And no integer in it is beyond 64 bits with a sign. -/
namespace Courier.Toml

/-- No two entries of a table in this value have the same key, and its integers fit. -/
inductive Value.Sound : Value → Prop where
  | text (value : String) : Sound (.text value)
  | integer {value : Int} (fits : -(largest + 1 : Int) ≤ value ∧ value ≤ largest) :
      Sound (.integer value)
  | real (written : String) : Sound (.real written)
  | moment (written : String) : Sound (.moment written)
  | flag (value : Bool) : Sound (.flag value)
  | list {elements : List Value} (all : ∀ element ∈ elements, Sound element) :
      Sound (.list elements)
  | table {form : Form} {entries : Entries} (distinct : (entries.map Prod.fst).Nodup)
      (all : ∀ entry ∈ entries, Sound entry.2) : Sound (.table form entries)
  | tables {elements : List Entries}
      (distinct : ∀ entries ∈ elements, (List.map Prod.fst entries).Nodup)
      (all : ∀ entries ∈ elements, ∀ entry ∈ entries, Sound entry.2) : Sound (.tables elements)

/-- The entries can be those of a table. -/
structure Entries.Sound (entries : Entries) : Prop where
  distinct : (entries.map Prod.fst).Nodup
  all : ∀ entry ∈ entries, entry.2.Sound

theorem Value.sound_table_iff {form : Form} {entries : Entries} :
    (Value.table form entries).Sound ↔ Entries.Sound entries := by
  constructor
  · intro sound
    cases sound with
    | table distinct all => exact ⟨distinct, all⟩
  · exact fun ⟨distinct, all⟩ => .table distinct all

theorem Value.sound_tables_iff {elements : List Entries} :
    (Value.tables elements).Sound ↔ ∀ entries ∈ elements, Entries.Sound entries := by
  constructor
  · intro sound entries member
    cases sound with
    | tables distinct all => exact ⟨distinct entries member, all entries member⟩
  · exact fun sound => .tables (fun entries member => (sound entries member).distinct)
      fun entries member => (sound entries member).all

namespace Entries

variable {entries : Entries} {name : String} {value : Value}

theorem sound_nil : Sound [] := ⟨.nil, nofun⟩

theorem find?_eq_none_iff : entries.find? name = none ↔ name ∉ entries.map Prod.fst := by
  simp only [find?, List.lookup_eq_none_iff, bne_iff_ne, List.mem_map, not_exists, not_and]
  exact ⟨fun free entry member same => free entry member same.symm,
    fun free entry member same => free entry member same.symm⟩

theorem Sound.of_find? (sound : entries.Sound) (found : entries.find? name = some value) :
    value.Sound := by
  obtain ⟨before, after, rfl, -⟩ := List.lookup_eq_some_iff.mp found
  exact sound.all (name, value) (by simp)

theorem Sound.table {form : Form} {fields : Entries} (sound : entries.Sound)
    (member : (name, .table form fields) ∈ entries) : fields.Sound :=
  Value.sound_table_iff.mp (sound.all _ member)

theorem Sound.push (sound : entries.Sound) (free : entries.find? name = none)
    (new : value.Sound) : (entries.push name value).Sound where
  distinct := by
    rw [Entries.push, List.map_append, List.nodup_append]
    refine ⟨sound.distinct, by simp, fun other member last single same => ?_⟩
    obtain rfl : last = name := by simpa using single
    exact find?_eq_none_iff.mp free (same ▸ member)
  all := List.forall_mem_append.mpr ⟨sound.all, List.forall_mem_singleton.mpr new⟩

theorem Sound.replace (sound : entries.Sound) (new : value.Sound) :
    (entries.replace name value).Sound where
  distinct := by
    rw [Entries.replace, List.map_map]
    exact sound.distinct
  all := by
    refine List.forall_mem_map.mpr fun entry member => ?_
    dsimp only
    split
    · exact new
    · exact sound.all entry member

theorem Sound.remove (sound : entries.Sound) : (entries.remove name).Sound where
  distinct := sound.distinct.sublist (List.filter_sublist.map _)
  all := fun entry member => sound.all entry (List.mem_filter.mp member).1

theorem find?_remove : (entries.remove name).find? name = none := by
  rw [find?_eq_none_iff]
  simp [Entries.remove]

end Entries

namespace Branch

def Sound (branch : Branch) : Prop := branch.entries.Sound

variable {branch next : Branch} {dotted : Bool} {change : Branch → Option Branch} {key : Key}
  {path : List String} {value : Value}

theorem Sound.toValue (sound : branch.Sound) : branch.toValue.Sound :=
  Value.sound_table_iff.mpr sound

/-- A change at the end of a path that leaves tables sound leaves the whole tree sound. -/
theorem Sound.modify
    (keeps : ∀ {target changed : Branch}, target.Sound → change target = some changed →
      changed.Sound)
    (sound : branch.Sound) (modified : branch.modify dotted change path = some next) :
    next.Sound := by
  induction path generalizing branch next with
  | nil => exact keeps sound modified
  | cons name path ih =>
    rw [Branch.modify] at modified
    split at modified
    · rename_i free
      obtain ⟨child, deeper, same⟩ := Option.bind_eq_some_iff.mp modified
      cases same
      have nothing : Branch.Sound ⟨if dotted then .dotted else .implied, []⟩ := Entries.sound_nil
      exact Entries.Sound.push sound free (ih nothing deeper).toValue
    · rename_i form entries found
      split at modified
      · cases modified
      · obtain ⟨child, deeper, same⟩ := Option.bind_eq_some_iff.mp modified
        cases same
        have inner : Branch.Sound ⟨form, entries⟩ :=
          Value.sound_table_iff.mp (Entries.Sound.of_find? sound found)
        exact Entries.Sound.replace sound (ih inner deeper).toValue
    · rename_i elements found
      obtain ⟨last, isLast, rest⟩ := Option.bind_eq_some_iff.mp modified
      obtain ⟨child, deeper, same⟩ := Option.bind_eq_some_iff.mp rest
      cases same
      have inner := Value.sound_tables_iff.mp (Entries.Sound.of_find? sound found)
      have opened : Branch.Sound ⟨.opened, last⟩ := inner last (List.mem_of_getLast? isLast)
      have changed : child.Sound := ih opened deeper
      refine Entries.Sound.replace sound (Value.sound_tables_iff.mpr ?_)
      exact List.forall_mem_append.mpr
        ⟨fun entries member => inner entries (List.dropLast_subset _ member),
          List.forall_mem_singleton.mpr changed⟩
    · cases modified

theorem Sound.assign (sound : branch.Sound) (new : value.Sound)
    (assigned : branch.assign key value = some next) : next.Sound := by
  refine sound.modify (fun {target changed} sound filled => ?_) assigned
  unfold assign.fill at filled
  split at filled
  · cases filled
  · split at filled
    · cases filled
    · rename_i free
      cases filled
      exact Entries.Sound.push sound (by simpa using free) new

theorem Sound.openTable (sound : branch.Sound) (opened : branch.openTable key = some next) :
    next.Sound := by
  refine sound.modify (fun {target changed} sound added => ?_) opened
  unfold openTable.add at added
  split at added
  · rename_i free
    cases added
    exact Entries.Sound.push sound free (Value.sound_table_iff.mpr Entries.sound_nil)
  · rename_i entries found
    cases added
    have inner := Value.sound_table_iff.mp (Entries.Sound.of_find? sound found)
    exact (Entries.Sound.remove sound).push Entries.find?_remove (Value.sound_table_iff.mpr inner)
  · cases added

theorem Sound.openElement (sound : branch.Sound) (opened : branch.openElement key = some next) :
    next.Sound := by
  refine sound.modify (fun {target changed} sound added => ?_) opened
  unfold openElement.add at added
  split at added
  · rename_i free
    cases added
    have new := List.forall_mem_singleton.mpr Entries.sound_nil
    exact Entries.Sound.push sound free (Value.sound_tables_iff.mpr new)
  · rename_i elements found
    cases added
    have inner := Value.sound_tables_iff.mp (Entries.Sound.of_find? sound found)
    refine Entries.Sound.replace sound (Value.sound_tables_iff.mpr ?_)
    exact List.forall_mem_append.mpr ⟨inner, List.forall_mem_singleton.mpr Entries.sound_nil⟩
  · cases added

theorem Sound.assignUnder {header : List String} (sound : branch.Sound) (new : value.Sound)
    (assigned : branch.assignUnder header key value = some next) : next.Sound :=
  sound.modify (fun sound assigned => sound.assign new assigned) assigned

theorem sound_ofPairs {pairs : List (Key × Value)} (all : ∀ pair ∈ pairs, pair.2.Sound)
    (made : ofPairs pairs = some branch) : branch.Sound := by
  have each (start : Branch) (sound : start.Sound) (pairs : List (Key × Value))
      (all : ∀ pair ∈ pairs, pair.2.Sound)
      (made : pairs.foldlM (fun branch pair => branch.assign pair.1 pair.2) start = some branch) : branch.Sound := by
    induction pairs generalizing start with
    | nil =>
      cases made
      exact sound
    | cons pair pairs ih =>
      obtain ⟨first, others⟩ := List.forall_mem_cons.mp all
      obtain ⟨next, assigned, rest⟩ := Option.bind_eq_some_iff.mp made
      exact ih next (sound.assign first assigned) others rest
  exact each { form := .inline } Entries.sound_nil pairs all made

end Branch

/-- Whatever value is read is sound. -/
def ReadsSound (read? : List Char → Option (Value × List Char)) : Prop :=
  ∀ ⦃text rest value⦄, read? text = some (value, rest) → value.Sound

section Reading

variable {read? : List Char → Option (Value × List Char)} {text rest : List Char} {fuel : Nat}

theorem sound_radixInteger? (radix : Nat) : ReadsSound (radixInteger? radix) := by
  intro text rest value read
  simp only [radixInteger?, Option.bind_eq_bind, Option.bind_eq_some_iff] at read
  obtain ⟨⟨digits, after⟩, -, read⟩ := read
  dsimp only at read
  split at read
  · cases read
    exact .integer (by omega)
  · cases read

theorem sound_decimalInteger? : ReadsSound decimalInteger? := by
  intro text rest value read
  simp only [decimalInteger?, Option.bind_eq_bind, Option.bind_eq_some_iff] at read
  obtain ⟨⟨digits, after⟩, -, read⟩ := read
  dsimp only at read
  split at read <;> split at read <;> cases read <;> exact .integer (by omega)

theorem sound_integer? : ReadsSound integer? := by
  intro text rest value read
  unfold integer? at read
  split at read
  · exact sound_radixInteger? 16 read
  · exact sound_radixInteger? 8 read
  · exact sound_radixInteger? 2 read
  · exact sound_decimalInteger? read

theorem sound_scalarValue? : ReadsSound scalarValue? := by
  intro text rest value read
  simp only [scalarValue?, real?, Option.orElse_eq_orElse, Option.orElse_eq_or,
    Option.or_eq_some_iff] at read
  rcases read with quoted | ⟨-, flag | ⟨-, moment | ⟨-, (finite | ⟨-, special⟩) | ⟨-, integer⟩⟩⟩⟩
  · obtain ⟨_, -, same⟩ := Option.map_eq_some_iff.mp quoted
    cases same
    exact .text _
  · unfold flag? at flag
    split at flag <;> cases flag <;> exact .flag _
  · obtain ⟨_, -, same⟩ := Option.bind_eq_some_iff.mp moment
    cases same
    exact .moment _
  · simp only [finiteReal?, Option.bind_eq_bind, Option.bind_eq_some_iff] at finite
    obtain ⟨_, -, finite⟩ := finite
    split at finite
    · cases finite
    · split at finite
      · cases finite
      · cases finite
        exact .real _
  · unfold special? at special
    split at special <;> cases special <;> exact .real _
  · exact sound_integer? integer

/-- The elements of an array are as sound as their reader makes them. -/
theorem sound_elements? (sound : ReadsSound read?) {values : List Value}
    (read : elements? read? fuel text = some (values, rest)) : ∀ value ∈ values, value.Sound := by
  induction fuel generalizing text values with
  | zero => cases read
  | succ fuel ih =>
    rw [elements?] at read
    split at read
    · cases read
      exact nofun
    · obtain ⟨⟨first, after⟩, head, read⟩ := Option.bind_eq_some_iff.mp read
      dsimp only at read
      split at read
      · obtain ⟨⟨more, last⟩, tail, same⟩ := Option.bind_eq_some_iff.mp read
        cases same
        exact List.forall_mem_cons.mpr ⟨sound head, ih tail⟩
      · cases read
        exact List.forall_mem_singleton.mpr (sound head)
      · cases read

theorem sound_pair? (sound : ReadsSound read?) {pair : Key × Value}
    (read : pair? read? text = some (pair, rest)) : pair.2.Sound := by
  simp only [pair?, Option.bind_eq_bind, Option.bind_eq_some_iff] at read
  obtain ⟨_, -, _, -, ⟨value, after⟩, found, same⟩ := read
  cases same
  exact sound found

theorem sound_pairs? (sound : ReadsSound read?) {pairs : List (Key × Value)}
    (read : pairs? read? fuel text = some (pairs, rest)) : ∀ pair ∈ pairs, pair.2.Sound := by
  induction fuel generalizing text pairs with
  | zero => cases read
  | succ fuel ih =>
    rw [pairs?] at read
    obtain ⟨⟨first, after⟩, head, read⟩ := Option.bind_eq_some_iff.mp read
    dsimp only at read
    split at read
    · obtain ⟨⟨more, last⟩, tail, same⟩ := Option.bind_eq_some_iff.mp read
      cases same
      exact List.forall_mem_cons.mpr ⟨sound_pair? sound head, ih tail⟩
    · cases read
      exact List.forall_mem_singleton.mpr (sound_pair? sound head)
    · cases read

theorem sound_inlineTable? (sound : ReadsSound read?) : ReadsSound (inlineTable? read?) := by
  intro text rest value read
  unfold inlineTable? at read
  split at read
  · cases read
    exact Value.sound_table_iff.mpr Entries.sound_nil
  · simp only [Option.bind_eq_bind, Option.bind_eq_some_iff] at read
    obtain ⟨⟨pairs, after⟩, found, branch, made, same⟩ := read
    cases same
    exact (Branch.sound_ofPairs (sound_pairs? sound found) made).toValue

theorem sound_value? (depth : Nat) : ReadsSound (value? depth) := by
  induction depth with
  | zero =>
    intro text rest value read
    rw [value?] at read
    · exact sound_scalarValue? read
    · exact nofun
    · exact nofun
  | succ depth ih =>
    intro text rest value read
    unfold value? at read
    split at read
    · rename_i same
      cases same
      obtain ⟨⟨values, after⟩, found, same⟩ := Option.map_eq_some_iff.mp read
      cases same
      exact .list (sound_elements? ih found)
    · rename_i same
      cases same
      exact sound_inlineTable? ih read
    · exact sound_scalarValue? read

end Reading

/-- The value that a statement gives, if it gives one, is sound. -/
def Statement.Sound : Statement → Prop
  | .table _ | .element _ => True
  | .pair _ value => value.Sound

theorem sound_statement? {text rest : List Char} {statement : Statement}
    (read : statement? text = some (statement, rest)) : statement.Sound := by
  unfold statement? at read
  split at read
  · unfold header? at read
    split at read
    · simp only [Option.bind_eq_bind, Option.bind_eq_some_iff] at read
      obtain ⟨_, -, _, -, _, -, same⟩ := read
      cases same
      trivial
    · simp only [Option.bind_eq_bind, Option.bind_eq_some_iff] at read
      obtain ⟨_, -, _, -, same⟩ := read
      cases same
      trivial
  · obtain ⟨⟨⟨key, value⟩, after⟩, found, same⟩ := Option.bind_eq_some_iff.mp read
    cases same
    exact sound_pair? (sound_value? depthLimit) found

theorem sound_statements? {fuel : Nat} {text : List Char} {statements : List Statement}
    (read : statements? fuel text = some statements) :
    ∀ statement ∈ statements, statement.Sound := by
  induction fuel generalizing text statements with
  | zero => cases read
  | succ fuel ih =>
    rw [statements?] at read
    split at read
    · cases read
      exact nofun
    · split at read
      · exact ih read
      · simp only [Option.bind_eq_bind, Option.bind_eq_some_iff] at read
        obtain ⟨⟨first, after⟩, head, _, -, more, tail, same⟩ := read
        cases same
        exact List.forall_mem_cons.mpr ⟨sound_statement? head, ih tail⟩

theorem Draft.sound_add {draft next : Draft} {statement : Statement} (sound : draft.root.Sound)
    (new : statement.Sound) (added : draft.add statement = some next) : next.root.Sound := by
  cases statement with
  | table key =>
    obtain ⟨root, opened, same⟩ := Option.bind_eq_some_iff.mp added
    cases same
    exact sound.openTable opened
  | element key =>
    obtain ⟨root, opened, same⟩ := Option.bind_eq_some_iff.mp added
    cases same
    exact sound.openElement opened
  | pair key value =>
    obtain ⟨root, assigned, same⟩ := Option.bind_eq_some_iff.mp added
    cases same
    exact sound.assignUnder new assigned

theorem Draft.sound_addAll {draft last : Draft} {statements : List Statement}
    (sound : draft.root.Sound) (all : ∀ statement ∈ statements, statement.Sound)
    (added : statements.foldlM Draft.add draft = some last) : last.root.Sound := by
  induction statements generalizing draft with
  | nil =>
    cases added
    exact sound
  | cons statement statements ih =>
    obtain ⟨first, others⟩ := List.forall_mem_cons.mp all
    obtain ⟨next, added, rest⟩ := Option.bind_eq_some_iff.mp added
    exact ih (sound_add sound first added) others rest

theorem sound_of_parse? {text : String} {entries : Entries} (parsed : parse? text = some entries) :
    entries.Sound := by
  simp only [parse?, Option.bind_eq_bind, Option.bind_eq_some_iff] at parsed
  obtain ⟨statements, read, draft, made, same⟩ := parsed
  cases same
  have start : ({} : Draft).root.Sound := Entries.sound_nil
  exact Draft.sound_addAll start (sound_statements? read) made

end Courier.Toml
