set_option autoImplicit false

/-! # Putting runs in order

What happens to many at once happens in no particular order; a report lists it by name. `sortRuns`
puts each run of consecutive items of such a kind in order and leaves all other items where they
are. -/

namespace FormatBridge.Text

/-- The items of a list, each longest run of items with `inRun` ordered by `key`; `run` holds the
    items of the run that is going on (last first). -/
def sortRunsFrom {α : Type} (inRun : α → Bool) (key : α → String) (run : List α) :
    List α → List α
  | [] => ordered run
  | a :: rest =>
    if inRun a then sortRunsFrom inRun key (a :: run) rest
    else ordered run ++ a :: sortRunsFrom inRun key [] rest
where
  /-- A finished run in order. -/
  ordered (run : List α) : List α := run.reverse.mergeSort fun a b => key a ≤ key b

/-- The items of a list, each longest run of items with `inRun` ordered by `key`. -/
def sortRuns {α : Type} (inRun : α → Bool) (key : α → String) (items : List α) : List α :=
  sortRunsFrom inRun key [] items

end FormatBridge.Text
