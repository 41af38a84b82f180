import FormatBridge.Toml.Quoted

set_option autoImplicit false

/-! # Tables while they are written

A document mentions a table many times: in headers, in headers of tables within it, in dotted keys.
What may still be added to a table depends on how it came to be, so every table keeps its `Origin`
until the whole document is read. No mention may define anything a second time. -/

namespace FormatBridge.Toml

/-- How a table came to be. -/
inductive Origin where
  /-- By a header of its own; the whole document counts as such a table. -/
  | header
  /-- By a header of a table within it. -/
  | within
  /-- By a dotted key. -/
  | dotted
  deriving DecidableEq, Repr

/-- What a key stands for so far. -/
inductive Entry where
  /-- A value that is complete. -/
  | value (v : Value)
  | table (origin : Origin) (entries : List (String × Entry))
  /-- An array of tables, which headers made. -/
  | tables (items : List (List (String × Entry)))
  deriving Repr

/-- What the keys of a table stand for, in the order of their first mention. -/
abbrev Entries := List (String × Entry)

namespace Entries

/-- Sets what a key stands for. -/
def set (key : String) (e : Entry) : Entries → Entries
  | [] => [(key, e)]
  | (k, old) :: rest => if k = key then (key, e) :: rest else (k, old) :: set key e rest

/-- Acts on the entries of the table at `path`, told that table's origin; `how` is the way in which
    the path is mentioned, and tables that it mentions first get that origin. A path leads through
    tables and through the last item of arrays of tables, and a dotted key not through a table that
    a header made. -/
def actAt? (how : Origin) (act : Origin → Entries → Option Entries) :
    List String → Origin → Entries → Option Entries
  | [], origin, entries => act origin entries
  | key :: path, _, entries =>
    match entries.lookup key with
    | none => do
      let inner ← actAt? how act path how []
      return set key (.table how inner) entries
    | some (.table origin inner) =>
      if how = .dotted && origin = .header then none
      else do
        let inner ← actAt? how act path origin inner
        return set key (.table origin inner) entries
    | some (.tables items) =>
      match items.getLast? with
      | none => none
      | some inner => do
        let inner ← actAt? how act path .header inner
        return set key (.tables (items.dropLast ++ [inner])) entries
    | some (.value _) => none

/-- Gives a value to the key `key` of the table that the dotted path leads to. A key is given a
    value once, and a table gets all its keys in one way: by dotted keys or not. -/
def assign? (path : List String) (key : String) (v : Value) (entries : Entries) :
    Option Entries :=
  actAt? .dotted
    (fun origin entries =>
      if decide (origin = .dotted) = path.isEmpty then none
      else
        match entries.lookup key with
        | some _ => none
        | none => some (entries ++ [(key, .value v)]))
    path .header entries

/-- Opens the table `key` in the table at `path`: a new one, or one that was mentioned only by
    headers of tables within it. -/
def openTable? (path : List String) (key : String) (entries : Entries) : Option Entries :=
  actAt? .within
    (fun _ entries =>
      match entries.lookup key with
      | none => some (entries ++ [(key, .table .header [])])
      | some (.table .within inner) => some (set key (.table .header inner) entries)
      | some _ => none)
    path .header entries

/-- Adds a table to the array of tables `key` in the table at `path`. -/
def addItem? (path : List String) (key : String) (entries : Entries) : Option Entries :=
  actAt? .within
    (fun _ entries =>
      match entries.lookup key with
      | none => some (entries ++ [(key, .tables [[]])])
      | some (.tables items) => some (set key (.tables (items ++ [[]])) entries)
      | some _ => none)
    path .header entries

/-! ## Complete tables -/

mutual

/-- The value that a key stands for in the end. -/
def valueOf : Entry → Value
  | .value v => v
  | .table _ entries => .table (valuesOf entries)
  | .tables items => .array (itemsOf items)

/-- The members of a table in the end. -/
def valuesOf : List (String × Entry) → List (String × Value)
  | [] => []
  | (k, e) :: rest => (k, valueOf e) :: valuesOf rest

/-- The tables of an array in the end. -/
def itemsOf : List (List (String × Entry)) → List Value
  | [] => []
  | entries :: rest => .table (valuesOf entries) :: itemsOf rest

end

/-- The members of a table in the end. -/
def values (entries : Entries) : List (String × Value) := valuesOf entries

end Entries

end FormatBridge.Toml
