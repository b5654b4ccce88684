import Choreography.Command

/-!
# Drawing a step with two clicks

The first click on a diagram's grid picks the cell from which a step starts, the second one the
cell at which it ends; a second click on the same cell takes the first one back. The step is
inserted at the row of the second click.
-/

namespace Choreography

/-- A cell of a diagram's grid: the column of an environment and a row. -/
structure Cell where
  environment : EnvironmentId
  row : Nat
  deriving DecidableEq, Repr

/-- How far the gesture has come on one diagram. -/
inductive Selection where
  /-- No click is pending. -/
  | idle
  /-- The cell from which a step is to start has been clicked. -/
  | origin (cell : Cell)
  deriving DecidableEq, Repr

instance : Inhabited Selection := ⟨.idle⟩

namespace Selection

/-- The clicked cell that waits for its second click. -/
def pending? : Selection → Option Cell
  | .idle => none
  | .origin cell => some cell

/-- The selection after a click, and the command that the click completes. -/
def click (diagram : DiagramId) (cell : Cell) : Selection → Selection × Option Command
  | .idle => (.origin cell, none)
  | .origin start =>
    if start = cell then (.idle, none)
    else (.idle, some (.addStep diagram start.environment cell.environment cell.row))

end Selection

end Choreography
