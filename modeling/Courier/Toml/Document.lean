import Courier.Toml.Statement

namespace Courier.Toml

/-- A table under construction and the header under which plain keys now fall. -/
structure Draft where
  root : Branch := { form := .opened }
  header : List String := []
  deriving Repr

def Draft.add (draft : Draft) : Statement → Option Draft
  | .table key => do return ⟨← draft.root.openTable key, key.path⟩
  | .element key => do return ⟨← draft.root.openElement key, key.path⟩
  | .pair key value => do
    return { draft with root := ← draft.root.assignUnder draft.header key value }

def Draft.ofStatements (statements : List Statement) : Option Draft :=
  statements.foldlM Draft.add {}

/-- A byte order mark in front of a document is not part of it. -/
def skipMark : List Char → List Char
  | '\ufeff' :: rest => rest
  | text => text

def parse? (text : String) : Option Entries := do
  let chars := skipMark text.toList
  let statements ← statements? (chars.length + 1) chars
  let draft ← Draft.ofStatements statements
  return draft.root.entries

end Courier.Toml
