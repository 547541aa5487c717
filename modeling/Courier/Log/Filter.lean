import Courier.Log
import Courier.Numeral.Real
import Courier.Pattern

/-! Log filters: directives separated by commas, each a level, a target, or both, for everything
or for the spans and fields named in brackets. What a filter lets through at most is decided by its
most verbose directive. -/
namespace Courier

/-- Up to which level records pass; `none` lets nothing pass. -/
abbrev LevelLimit := Option LogLevel

namespace LevelLimit

def verbosity (limit : LevelLimit) : Nat :=
  limit.elim 0 LogLevel.verbosity

def name : LevelLimit → String
  | none => "off"
  | some level => level.name

/-- A limit is written as a level, as `off`, or as the number of levels that pass; nothing at all
stands for errors. -/
def parse? (text : String) : Option LevelLimit :=
  match Numeral.parse (UInt64.size - 1) text with
  | .ok 0 => some none
  | .ok number => (LogLevel.all.find? (·.verbosity = number)).map some
  | .error _ =>
    if text = "" then some (some .error)
    else if LogLevel.sameWord text "off" then some none
    else (LogLevel.all.find? (LogLevel.sameWord ·.name text)).map some

def mostVerbose (left right : LevelLimit) : LevelLimit :=
  if left.verbosity < right.verbosity then right else left

end LevelLimit

structure LogDirective where
  limit : LevelLimit
  target : Option String := none
  span : Option String := none
  comparesValue : Bool := false
  deriving DecidableEq, Repr

namespace LogDirective

/-- How far into a directive its text has been read, with the position where the current part
begins. -/
inductive Stage where
  | start
  | word (start : Nat)
  | span (start : Nat)
  | field (start : Nat)
  | fields
  | target
  | level (start : Nat)
  deriving DecidableEq, Repr

def trim (text : List Char) : List Char :=
  ((text.dropWhile Unicode.isSpace).reverse.dropWhile Unicode.isSpace).reverse

def positions (start : Nat) : List Char → List (Nat × Char)
  | [] => []
  | char :: rest => (start, char) :: positions (start + char.utf8Size) rest

/-- What is left of a text behind a position, unless that lies inside a character. -/
def cutFront? (text : List Char) (count : Nat) : Option (List Char) :=
  match text with
  | [] => if count = 0 then some [] else none
  | char :: rest =>
    if count = 0 then some text
    else if count < char.utf8Size then none
    else cutFront? rest (count - char.utf8Size)

def cut? (text : List Char) (start stop : Nat) : Option (List Char) := do
  let front ← cutFront? text start
  let back ← cutFront? text stop
  return front.take (front.length - back.length)

def addField (directive : LogDirective) (field : List Char) : Option LogDirective :=
  if field.isEmpty then none
  else
    match field.dropWhile (· != '=') with
    | [] => some directive
    | _ :: rest =>
      let value := rest.takeWhile (· != '=')
      if Numeral.isReal value || Pattern.isValid value then
        some { directive with comparesValue := true }
      else none

def begins (char : Char) : Bool :=
  Unicode.isAlphanumeric char || char == '-' || char == ':' || char == '_'

/-- Read one character at its position; parts are cut out of `text`. -/
def step (text : List Char) :
    LogDirective × Stage → Nat × Char → Option (LogDirective × Stage)
  | (directive, .start), (position, '[') => some (directive, .span (position + 1))
  | (directive, .start), (position, char) =>
    if begins char then some (directive, .word position) else none
  | (directive, .word start), (position, '=') => do
    let target := String.ofList (← cut? text start position)
    return ({ directive with target := some target }, .level (position + 1))
  | (directive, .word start), (position, '[') => do
    let target := String.ofList (← cut? text start position)
    return ({ directive with target := some target }, .span (position + 1))
  | (directive, .word start), _ => some (directive, .word start)
  | (directive, .target), (position, '=') => some (directive, .level (position + 1))
  | (directive, .span start), (position, ']') => do
    let span := String.ofList (← cut? text start position)
    return ({ directive with span := some span }, .target)
  | (directive, .span start), (position, '\x7b') => do
    let span := String.ofList (← cut? text start position)
    return ({ directive with span := if span = "" then none else some span },
      .field (position + 1))
  | (directive, .span start), _ => some (directive, .span start)
  | (directive, .field start), (position, '\x7d') => do
    return (← directive.addField (← cut? text start position), .fields)
  | (directive, .field start), _ => some (directive, .field start)
  | (directive, .fields), (_, ']') => some (directive, .target)
  | (directive, .level start), _ => some (directive, .level start)
  | _, _ => none

def finish (text : List Char) : LogDirective × Stage → Option LogDirective
  | (directive, .word start) => do
    let word := String.ofList (← cutFront? text start)
    match LevelLimit.parse? word with
    | some limit => return { directive with limit }
    | none => return { directive with limit := some .trace, target := some word }
  | (directive, .level start) => do
    let level := String.ofList (← cutFront? text start)
    if level = "" then return { directive with limit := some .trace }
    else return { directive with limit := ← LevelLimit.parse? level }
  | (directive, .target) => some directive
  | _ => none

/-- Read the directive within white space. Its parts are cut out of the whole text at positions
counted from where the directive begins, so a level is recognised only without white space. -/
def parse? (text : List Char) : Option LogDirective := do
  let start : LogDirective × Stage := ({ limit := some .trace }, .start)
  finish text (← (positions 0 (trim text)).foldlM (step text) start)

end LogDirective

structure LogFilter where
  directives : List LogDirective
  deriving DecidableEq, Repr

namespace LogFilter

def splitAtCommas : List Char → List (List Char)
  | [] => [[]]
  | ',' :: rest => [] :: splitAtCommas rest
  | char :: rest =>
    match splitAtCommas rest with
    | [] => [[char]]
    | part :: parts => (char :: part) :: parts

/-- All directives of a text; empty ones are skipped, a bad one spoils the filter. -/
def parse? (text : String) : Option LogFilter := do
  let parts := (splitAtCommas text.toList).filter (· ≠ [])
  return ⟨← parts.mapM LogDirective.parse?⟩

/-- The most verbose level that some record can pass at. Spans that are told apart by the values
of their fields may all turn out to match, so they let everything pass. -/
def maxLevel (filter : LogFilter) : LevelLimit :=
  if filter.directives.any (·.comparesValue) then some .trace
  else (filter.directives.map (·.limit)).foldl LevelLimit.mostVerbose none

def choose (requested : Option String) (configured : LogLevel) : LogFilter :=
  (requested.bind parse?).getD ⟨[{ limit := some configured }]⟩

end LogFilter
end Courier
