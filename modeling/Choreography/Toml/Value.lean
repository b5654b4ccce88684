/-!
# TOML values and the tables they are put into

A document is built statement by statement. A table remembers how it came about, because that
decides what may still be added to it: a header opens a table once, a dotted key only adds to tables
that no header has opened, and an inline table is closed.
-/

namespace Choreography

namespace Toml

/-- How a table came about. -/
inductive Origin where
  /-- It lies on the way to another table's header. -/
  | implied
  /-- It has a header of its own. -/
  | header
  /-- It lies on the way of a dotted key. -/
  | dotted
  /-- It was written in braces. -/
  | inline
  deriving DecidableEq, Repr

/-- A value. Of numbers and times only the kind is kept, and whether the number can be read. -/
inductive Value where
  | text (s : String)
  | boolean (b : Bool)
  | number (readable : Bool)
  | time
  | list (items : List Value)
  | table (origin : Origin) (entries : List (String × Value))
  /-- Tables that share a header in double brackets, the newest one first. -/
  | tables (newestFirst : List Value)

/-- The entries of a table, in order of appearance. -/
abbrev Entries := List (String × Value)

/-! ## Values that can be read -/

mutual

/-- All numbers in the value can be read. -/
def Value.isReadable : Value → Bool
  | .number readable => readable
  | .list items | .tables items => areReadable items
  | .table _ entries => entriesReadable entries
  | .text _ | .boolean _ | .time => true

/-- All numbers in the values can be read. -/
def areReadable : List Value → Bool
  | [] => true
  | v :: rest => v.isReadable && areReadable rest

/-- All numbers in the entries can be read. -/
def entriesReadable : List (String × Value) → Bool
  | [] => true
  | (_, v) :: rest => v.isReadable && entriesReadable rest

end

/-! ## Tables of headers -/

/-- The entries of the table that a header path leads to; none if it is still missing. Of tables
that share a header, the newest one is meant. -/
def entriesAt? : (path : List String) → Entries → Option Entries
  | [], entries => some entries
  | key :: path, entries =>
    match entries.lookup key with
    | none => some []
    | some (.table .inline _) => none
    | some (.table _ inner) | some (.tables (.table _ inner :: _)) => entriesAt? path inner
    | some _ => none

/-- The entries with which the table of a header begins. It may have been implied, but not opened
before. -/
def opened? (key : String) (entries : Entries) : Option Entries :=
  match entries.lookup key with
  | none => some []
  | some (.table .implied inner) => some inner
  | some _ => none

/-- Replaces the value of a key, or appends the key. -/
def put (key : String) (value : Value) : Entries → Entries
  | [] => [(key, value)]
  | (k, v) :: rest => if k = key then (key, value) :: rest else (k, v) :: put key value rest

/-- Puts the table of a header under its key. -/
def putTable (key : String) (body entries : Entries) : Entries :=
  put key (.table .header body) entries

/-- Puts one more of the tables that share a header under their key. -/
def putElement? (key : String) (body entries : Entries) : Option Entries :=
  match entries.lookup key with
  | none => some (put key (.tables [.table .header body]) entries)
  | some (.tables older) => some (put key (.tables (.table .header body :: older)) entries)
  | some _ => none

/-- Changes the table that a header path leads to. Missing tables on the way are implied. -/
def atHeader? (change : Entries → Option Entries) : (path : List String) → Entries → Option Entries
  | [], entries => change entries
  | key :: path, entries =>
    match entries.lookup key with
    | none => do return put key (.table .implied (← atHeader? change path [])) entries
    | some (.table .inline _) => none
    | some (.table origin inner) => do
      return put key (.table origin (← atHeader? change path inner)) entries
    | some (.tables (.table origin inner :: older)) => do
      return put key (.tables (.table origin (← atHeader? change path inner) :: older)) entries
    | some _ => none

/-! ## Dotted keys -/

/-- Puts a value under a dotted key: a path of tables and the last key, which is new. Missing tables
on the way are made, and one that was implied counts as made by the dotted key from then on. The
path may pass through the newest of the tables that share a header, but not end there. -/
def assign? (key : String) (value : Value) : (path : List String) → Entries → Option Entries
  | [], entries =>
    if (entries.lookup key).isSome then none else some (entries ++ [(key, value)])
  | step :: path, entries =>
    match entries.lookup step with
    | none => do return put step (.table .dotted (← assign? key value path [])) entries
    | some (.table origin inner) =>
      if origin = .dotted || origin = .implied then do
        return put step (.table .dotted (← assign? key value path inner)) entries
      else none
    | some (.tables (.table origin inner :: older)) =>
      if path.isEmpty then none
      else do
        return put step (.tables (.table origin (← assign? key value path inner) :: older)) entries
    | some _ => none

end Toml

end Choreography
