import Courier.Toml.Value

/-! Building a table out of keys, headers and values. A key is given once, a table is opened once,
and what a value or an inline table closed stays closed. -/
namespace Courier.Toml

/-- A key with dots: the tables on the way, and the last part. -/
structure Key where
  parents : List String
  name : String
  deriving DecidableEq, Repr

def Key.path (key : Key) : List String :=
  key.parents ++ [key.name]

namespace Entries

def find? (entries : Entries) (name : String) : Option Value :=
  entries.lookup name

def replace (entries : Entries) (name : String) (value : Value) : Entries :=
  entries.map fun (found, old) => (found, if found = name then value else old)

def remove (entries : Entries) (name : String) : Entries :=
  entries.filter (·.1 ≠ name)

def push (entries : Entries) (name : String) (value : Value) : Entries :=
  entries ++ [(name, value)]

end Entries

structure Branch where
  form : Form
  entries : Entries := []
  deriving Repr

namespace Branch

def toValue (branch : Branch) : Value :=
  .table branch.form branch.entries

/-- Change the table at the end of a path, on which missing tables are implied. Of an array of
tables the last element is meant. A dotted key does not enter a table that a header opened. -/
def modify (dotted : Bool) (change : Branch → Option Branch) :
    List String → Branch → Option Branch
  | [], branch => change branch
  | name :: path, branch =>
    match branch.entries.find? name with
    | none => do
      let child ← modify dotted change path { form := if dotted then .dotted else .implied }
      return { branch with entries := branch.entries.push name child.toValue }
    | some (.table form entries) =>
      if form = .inline ∨ (dotted ∧ form = .opened) then
        none
      else do
        let child ← modify dotted change path ⟨form, entries⟩
        return { branch with entries := branch.entries.replace name child.toValue }
    | some (.tables elements) => do
      let last ← elements.getLast?
      let child ← modify dotted change path ⟨.opened, last⟩
      return { branch with
        entries := branch.entries.replace name (.tables (elements.dropLast ++ [child.entries])) }
    | some _ => none

/-- Give a key its value. The table that a dotted key ends in must be one that dotted keys made,
and any other table is filled by plain keys only. -/
def assign (branch : Branch) (key : Key) (value : Value) : Option Branch :=
  modify true fill key.parents branch
where
  fill (target : Branch) : Option Branch :=
    if (target.form == .dotted) == key.parents.isEmpty then none
    else if (target.entries.find? key.name).isSome then none
    else some { target with entries := target.entries.push key.name value }

/-- Open a table by its header. One that was only implied moves to the end. -/
def openTable (branch : Branch) (key : Key) : Option Branch :=
  modify false add key.parents branch
where
  add (target : Branch) : Option Branch :=
    match target.entries.find? key.name with
    | none =>
      some { target with entries := target.entries.push key.name (.table .opened []) }
    | some (.table .implied entries) =>
      some { target with
        entries := (target.entries.remove key.name).push key.name (.table .opened entries) }
    | some _ => none

def openElement (branch : Branch) (key : Key) : Option Branch :=
  modify false add key.parents branch
where
  add (target : Branch) : Option Branch :=
    match target.entries.find? key.name with
    | none => some { target with entries := target.entries.push key.name (.tables [[]]) }
    | some (.tables elements) =>
      some { target with entries := target.entries.replace key.name (.tables (elements ++ [[]])) }
    | some _ => none

def assignUnder (branch : Branch) (header : List String) (key : Key) (value : Value) :
    Option Branch :=
  modify false (·.assign key value) header branch

/-- The table written between braces. -/
def ofPairs (pairs : List (Key × Value)) : Option Branch :=
  pairs.foldlM (fun branch (key, value) => branch.assign key value) { form := .inline }

end Branch
end Courier.Toml
