import Choreography.Save

/-!
# Saves one after the other

Saves are submitted to a queue and carried out by a worker, one at a time and in the order of
submission. Each submission gives a ticket, with which the result of that save is picked up, before
or after the queue is closed. Closing stops submissions only: what was submitted is still saved, and
the worker ends when nothing waits any more.
-/

namespace Choreography

/-- What a save answers with. -/
abbrev SaveResult := Except Failure SaveReport

/-- The receipt of a submitted save. -/
structure Ticket where
  number : Nat
  deriving DecidableEq, Repr

/-- A submitted save. The result goes to the holder of the ticket. -/
structure Job where
  ticket : Ticket
  database : Database
  deriving DecidableEq

/-- What the worker is doing. -/
inductive Worker where
  /-- It waits for a job. -/
  | idle
  | saving (job : Job)
  /-- It has saved, and sends the result. -/
  | reporting (ticket : Ticket) (result : SaveResult)
  | stopped

namespace Worker

/-- The ticket whose result is on its way. -/
def owed : Worker → List Ticket
  | .saving job => [job.ticket]
  | .reporting ticket _ => [ticket]
  | .idle | .stopped => []

/-- How many steps lead from here to the end if nothing waits. -/
def stepsLeft : Worker → Nat
  | .saving _ => 3
  | .reporting .. => 2
  | .idle => 1
  | .stopped => 0

end Worker

/-- Saves that wait, the worker, and the results of saves that are done. -/
structure SaveQueue where
  /-- Submissions are accepted. -/
  isOpen : Bool := true
  /-- The number of tickets given out. -/
  issued : Nat := 0
  /-- Oldest first. -/
  waiting : List Job := []
  worker : Worker := .idle
  /-- The tickets that have been neither used nor given back. -/
  held : List Ticket := []
  /-- The results that can still be picked up. -/
  results : List (Ticket × SaveResult) := []

namespace SaveQueue

/-- Submits a database. A closed queue drops it. -/
def submit (q : SaveQueue) (db : Database) : Ticket × SaveQueue :=
  let ticket : Ticket := ⟨q.issued⟩
  let waiting := if q.isOpen then q.waiting ++ [⟨ticket, db⟩] else q.waiting
  (ticket, { q with issued := q.issued + 1, waiting, held := ticket :: q.held })

/-- Stops submissions. -/
def close (q : SaveQueue) : SaveQueue :=
  { q with isOpen := false }

/-- The tickets whose results are still to come. -/
def owed (q : SaveQueue) : List Ticket :=
  q.worker.owed ++ q.waiting.map (·.ticket)

/-- The result of a save. None while it is still to come; a ticket whose save will never run is told
that the queue is closed. -/
def pickUp? (q : SaveQueue) (ticket : Ticket) : Option SaveResult :=
  match q.results.lookup ticket with
  | some result => some result
  | none => if ticket ∈ q.owed then none else some (.error .queueClosed)

/-- Gives a ticket back, used or not. Its save still runs, but nobody can pick up the result any
more. -/
def discard (q : SaveQueue) (ticket : Ticket) : SaveQueue :=
  { q with
    held := q.held.filter (· ≠ ticket)
    results := q.results.filter (·.1 ≠ ticket) }

/-- Sends a result to the holder of its ticket. It is lost if nobody holds the ticket. -/
def deliver (q : SaveQueue) (ticket : Ticket) (result : SaveResult) : SaveQueue :=
  { q with results := if ticket ∈ q.held then q.results ++ [(ticket, result)] else q.results }

variable {m : Type → Type} [Monad m]

/-- One step of the worker: it takes the oldest job, saves it, or sends the result. With nothing to
do it waits while the queue is open, and stops otherwise. -/
def work (q : SaveQueue) (run : Database → m SaveResult) : m SaveQueue := do
  match q.worker, q.waiting with
  | .idle, job :: waiting => return { q with worker := .saving job, waiting }
  | .idle, [] => return if q.isOpen then q else { q with worker := .stopped }
  | .saving job, _ =>
    let result ← run job.database
    return { q with worker := .reporting job.ticket result }
  | .reporting ticket result, _ => return { q.deliver ticket result with worker := .idle }
  | .stopped, _ => return q

/-- How many steps the worker has to take until it stops, if nothing more is submitted. -/
def stepsLeft (q : SaveQueue) : Nat :=
  3 * q.waiting.length + q.worker.stepsLeft

/-- Lets the worker go on for as long as there is something to do. -/
def drain (q : SaveQueue) (run : Database → m SaveResult) : m SaveQueue :=
  go q.stepsLeft q
where
  /-- Some steps of the worker. -/
  go : Nat → SaveQueue → m SaveQueue
    | 0, q => return q
    | n + 1, q => do go n (← q.work run)

end SaveQueue

end Choreography
