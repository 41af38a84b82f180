import FormatBridge.Toml.Statement

set_option autoImplicit false

/-! # TOML documents

The table that the statements of a document define. Assignments go into the table that the last
header opened, and into the document itself before the first header. -/

namespace FormatBridge.Toml

/-- What the statements so far define. -/
structure Draft where
  entries : Entries
  /-- The path of the table that is open. -/
  current : List String
  deriving Repr

namespace Draft

/-- Nothing is defined. -/
def empty : Draft := ⟨[], []⟩

/-- Adds what a statement defines. -/
def add? (d : Draft) : Statement → Option Draft
  | .table path key =>
    (Entries.openTable? path key d.entries).map fun entries => ⟨entries, path ++ [key]⟩
  | .arrayItem path key =>
    (Entries.addItem? path key d.entries).map fun entries => ⟨entries, path ++ [key]⟩
  | .assign path key v =>
    (Entries.actAt? .within (fun _ entries => Entries.assign? path key v entries)
      d.current .header d.entries).map fun entries => ⟨entries, d.current⟩

end Draft

/-- The mark that may stand before a text. -/
def byteOrderMark : Char := '\uFEFF'

/-- The members of the table that a document's text defines. -/
def parse? (text : String) : Option (List (String × Value)) := do
  let s :=
    match text.toList with
    | c :: rest => if c = byteOrderMark then rest else c :: rest
    | [] => []
  let draft ← (← statements? s).foldlM Draft.add? .empty
  return Entries.values draft.entries

end FormatBridge.Toml
