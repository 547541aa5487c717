/-! The values of a TOML document. Reals and moments keep their written form. -/
namespace Courier.Toml

/-- How a table came to be, which decides what may still be added to it: written between braces,
opened by a header, implied by the header of a table inside it, or implied by a dotted key. -/
inductive Form where
  | inline
  | opened
  | implied
  | dotted
  deriving DecidableEq, Repr

inductive Value where
  | text (value : String)
  | integer (value : Int)
  | real (written : String)
  | moment (written : String)
  | flag (value : Bool)
  | list (elements : List Value)
  | table (form : Form) (entries : List (String × Value))
  /-- An array whose elements are opened one by one by headers in double brackets. -/
  | tables (elements : List (List (String × Value)))
  deriving Repr

abbrev Entries := List (String × Value)

end Courier.Toml
