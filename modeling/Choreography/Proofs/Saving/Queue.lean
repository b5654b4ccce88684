import Choreography.Proofs.Saving.Failure
import Choreography.SaveQueue

/-!
# Queued saves are saves in turn

Users of a queue and its worker take turns in any order. An `Event` is one turn; a `Schedule` is a
sequence of turns that the queue admits. A queue runs any computation, here `run`, that answers a
database and changes a state.

- `Transition`: what each event asks of the queue, and what it does.
- `InOrder`, `TicketsKept`, `Answers`: what every schedule preserves. The worker is behind the
  submissions by what it has at hand and what waits; a ticket stays with its holder; a result goes
  to its own ticket.
- `Schedule.stepsLeft`: the worker takes three steps for every save and one to stop.
- `Schedule.drained`: left alone, the worker gets to the end.
- `queued_saves_in_turn`: a queue of saves does what calls one after the other do.
-/

namespace Choreography

/-- The save that has begun and not ended. -/
def Worker.atHand : Worker → List Job
  | .saving job => [job]
  | .idle | .reporting .. | .stopped => []

namespace SaveQueue

variable {σ : Type}

/-! ## Schedules -/

/-- One turn of a user or of the worker. -/
inductive Event where
  | submitted (job : Job)
  | closed
  /-- A wait for a result has returned. -/
  | answered (ticket : Ticket) (result : SaveResult)
  /-- A ticket is given back unused. -/
  | returned (ticket : Ticket)
  | started (job : Job)
  | finished (job : Job) (result : SaveResult)
  | reported (ticket : Ticket)
  | stopped

/-- What an event does to a queue and to the state that saves work on. A closed queue is out of
reach, so that nothing is submitted to it, and a ticket is used once. -/
inductive Transition (run : Database → StateM σ SaveResult) :
    SaveQueue × σ → Event → SaveQueue × σ → Prop where
  | submit {q : SaveQueue} {s : σ} (db : Database) (hopen : q.isOpen) :
    Transition run (q, s) (.submitted ⟨(q.submit db).1, db⟩) ((q.submit db).2, s)
  | close {q : SaveQueue} {s : σ} (hopen : q.isOpen) : Transition run (q, s) .closed (q.close, s)
  | answer {q : SaveQueue} {s : σ} {ticket : Ticket} {result : SaveResult}
    (hheld : ticket ∈ q.held) (hresult : q.pickUp? ticket = some result) :
    Transition run (q, s) (.answered ticket result) (q.discard ticket, s)
  | giveBack {q : SaveQueue} {s : σ} {ticket : Ticket} (hheld : ticket ∈ q.held) :
    Transition run (q, s) (.returned ticket) (q.discard ticket, s)
  | start {q : SaveQueue} {s : σ} {job : Job} {waiting : List Job} (hworker : q.worker = .idle)
    (hwaiting : q.waiting = job :: waiting) :
    Transition run (q, s) (.started job) ((q.work run).run s)
  | finish {q : SaveQueue} {s : σ} {job : Job} (hworker : q.worker = .saving job) :
    Transition run (q, s) (.finished job ((run job.database).run s).1) ((q.work run).run s)
  | report {q : SaveQueue} {s : σ} {ticket : Ticket} {result : SaveResult}
    (hworker : q.worker = .reporting ticket result) :
    Transition run (q, s) (.reported ticket) ((q.work run).run s)
  | stop {q : SaveQueue} {s : σ} (hworker : q.worker = .idle) (hwaiting : q.waiting = [])
    (hclosed : q.isOpen = false) : Transition run (q, s) .stopped ((q.work run).run s)

/-- Events in a row. -/
inductive Schedule (run : Database → StateM σ SaveResult) :
    SaveQueue × σ → List Event → SaveQueue × σ → Prop where
  | nil (x : SaveQueue × σ) : Schedule run x [] x
  | snoc {x y z : SaveQueue × σ} {events : List Event} {e : Event}
    (before : Schedule run x events y) (last : Transition run y e z) :
    Schedule run x (events ++ [e]) z

variable {run : Database → StateM σ SaveResult} {q : SaveQueue} {s s₀ : σ}
variable {x y z : SaveQueue × σ} {e : Event} {events rest : List Event}

theorem Schedule.append (h : Schedule run x events y) (h' : Schedule run y rest z) :
    Schedule run x (events ++ rest) z := by
  induction h' with
  | nil => rwa [List.append_nil]
  | snoc _ last ih =>
    rw [← List.append_assoc]
    exact ih.snoc last

theorem Schedule.cons (first : Transition run x e y) (h : Schedule run y events z) :
    Schedule run x (e :: events) z :=
  ((Schedule.nil x).snoc first).append h

/-! ## Steps of the worker -/

theorem run_work_start {job : Job} {waiting : List Job} (hworker : q.worker = .idle)
    (hwaiting : q.waiting = job :: waiting) :
    (q.work run).run s = ({ q with worker := .saving job, waiting }, s) := by
  simp only [work, hworker, hwaiting]
  rfl

theorem run_work_finish {job : Job} (hworker : q.worker = .saving job) :
    (q.work run).run s =
      let after := (run job.database).run s
      ({ q with worker := .reporting job.ticket after.1 }, after.2) := by
  simp only [work, hworker]
  rfl

theorem run_work_report {ticket : Ticket} {result : SaveResult}
    (hworker : q.worker = .reporting ticket result) :
    (q.work run).run s = ({ q.deliver ticket result with worker := .idle }, s) := by
  simp only [work, hworker]
  rfl

theorem run_work_stop (hworker : q.worker = .idle) (hwaiting : q.waiting = [])
    (hclosed : q.isOpen = false) :
    (q.work run).run s = ({ q with worker := .stopped }, s) := by
  simp only [work, hworker, hwaiting, hclosed]
  rfl

/-! ## What has happened -/

namespace Event

/-- The save that an event submits. -/
def submission? : Event → Option Job
  | .submitted job => some job
  | _ => none

/-- The save that an event ends, with its result. -/
def completion? : Event → Option (Job × SaveResult)
  | .finished job result => some (job, result)
  | _ => none

/-- A save begins or ends. -/
def isSave : Event → Bool
  | .started _ | .finished .. => true
  | _ => false

/-- The worker takes a turn. -/
def isWork : Event → Bool
  | .started _ | .finished .. | .reported _ | .stopped => true
  | .submitted _ | .closed | .answered .. | .returned _ => false

theorem submission?_of_isWork {e : Event} (h : e.isWork = true) : e.submission? = none := by
  cases e with
  | submitted => cases h
  | closed | answered | returned | started | finished | reported | stopped => rfl

end Event

/-- The submitted saves. -/
def submissions (events : List Event) : List Job :=
  events.filterMap Event.submission?

/-- The saves that have been carried out, with their results. -/
def completed (events : List Event) : List (Job × SaveResult) :=
  events.filterMap Event.completion?

/-- The save of a ticket has been carried out and has this result. -/
def ResultOf (events : List Event) (ticket : Ticket) (result : SaveResult) : Prop :=
  ∃ db, (⟨ticket, db⟩, result) ∈ completed events

@[simp] theorem submissions_concat (events : List Event) (e : Event) :
    submissions (events ++ [e]) = submissions events ++ e.submission?.toList := by
  cases h : e.submission? <;> simp [submissions, h]

@[simp] theorem completed_concat (events : List Event) (e : Event) :
    completed (events ++ [e]) = completed events ++ e.completion?.toList := by
  cases h : e.completion? <;> simp [completed, h]

theorem ResultOf.mono {ticket : Ticket} {result : SaveResult} (h : ResultOf events ticket result)
    (hsub : events ⊆ rest) : ResultOf rest ticket result :=
  let ⟨db, hdb⟩ := h
  ⟨db, List.filterMap_subset _ hsub hdb⟩

/-! ## The order of saves -/

/-- The beginning of a save and its end. -/
def bothEnds (save : Job × SaveResult) : List Event :=
  [.started save.1, .finished save.1 save.2]

/-- The worker takes saves from the front of the queue, one at a time. -/
structure InOrder (run : Database → StateM σ SaveResult) (s₀ : σ) (events : List Event)
    (x : SaveQueue × σ) : Prop where
  /-- What has been submitted is done, at hand or waiting. -/
  submitted : submissions events =
    (completed events).map (·.1) ++ x.1.worker.atHand ++ x.1.waiting
  /-- Saves end before others begin. -/
  alone : events.filter Event.isSave =
    (completed events).flatMap bothEnds ++ x.1.worker.atHand.map .started
  /-- The state and the results are those of calls one after the other. -/
  sequential : (((completed events).map (·.1)).mapM (run ·.database)).run s₀ =
    ((completed events).map (·.2), x.2)
  /-- The worker ends when nothing is left to do. -/
  ended : x.1.worker = .stopped → x.1.isOpen = false ∧ x.1.waiting = []

/-- One more call behind others. -/
theorem run_mapM_concat {jobs : List Job} {results : List SaveResult}
    (h : (jobs.mapM (run ·.database)).run s₀ = (results, s)) (job : Job) :
    ((jobs ++ [job]).mapM (run ·.database)).run s₀ =
      let after := (run job.database).run s
      (results ++ [after.1], after.2) := by
  rw [List.mapM_append, StateT.run_bind, h, List.mapM_cons, List.mapM_nil]
  rfl

/-- An event that neither submits nor saves keeps the order. -/
theorem InOrder.silent (h : InOrder run s₀ events (q, s)) {q' : SaveQueue}
    (hsubmission : e.submission? = none) (hcompletion : e.completion? = none)
    (hsave : e.isSave = false) (hworker : q'.worker.atHand = q.worker.atHand)
    (hwaiting : q'.waiting = q.waiting)
    (hended : q'.worker = .stopped → q'.isOpen = false ∧ q'.waiting = []) :
    InOrder run s₀ (events ++ [e]) (q', s) where
  submitted := by simpa [hsubmission, hcompletion, hworker, hwaiting] using h.submitted
  alone := by simpa [hsave, hcompletion, hworker] using h.alone
  sequential := by simpa [hcompletion] using h.sequential
  ended := hended

theorem InOrder.step (h : InOrder run s₀ events x) (ht : Transition run x e y) :
    InOrder run s₀ (events ++ [e]) y := by
  -- a submission joins the end of the order, a start and its finish take a job off the front
  cases ht with
  | @submit q s db hopen =>
    exact
      { submitted := by
          simp [submit, hopen, Event.submission?, Event.completion?, h.submitted]
        alone := by simpa [submit, Event.isSave, Event.completion?] using h.alone
        sequential := by simpa [submit, Event.completion?] using h.sequential
        ended := fun hstopped => by simpa [hopen] using h.ended hstopped }
  | close hopen => exact h.silent rfl rfl rfl rfl rfl fun hstopped => ⟨rfl, (h.ended hstopped).2⟩
  | answer | giveBack => exact h.silent rfl rfl rfl rfl rfl h.ended
  | @start q s job waiting hworker hwaiting =>
    rw [run_work_start hworker hwaiting]
    have hsubmitted := h.submitted
    have halone := h.alone
    simp only [hworker, hwaiting, Worker.atHand] at hsubmitted halone
    exact
      { submitted := by
          simpa [Worker.atHand, Event.submission?, Event.completion?] using hsubmitted
        alone := by simp [Worker.atHand, Event.isSave, Event.completion?, halone]
        sequential := by simpa [Event.completion?] using h.sequential
        ended := nofun }
  | @finish q s job hworker =>
    rw [run_work_finish hworker]
    have hsubmitted := h.submitted
    have halone := h.alone
    simp only [hworker, Worker.atHand] at hsubmitted halone
    exact
      { submitted := by
          simpa [Worker.atHand, Event.submission?, Event.completion?] using hsubmitted
        alone := by simp [Worker.atHand, Event.isSave, Event.completion?, bothEnds, halone]
        sequential := by simpa [Event.completion?] using run_mapM_concat h.sequential job
        ended := nofun }
  | report hworker =>
    rw [run_work_report hworker]
    exact h.silent rfl rfl rfl (by rw [hworker]; rfl) rfl nofun
  | stop hworker hwaiting hclosed =>
    rw [run_work_stop hworker hwaiting hclosed]
    exact h.silent rfl rfl rfl (by rw [hworker]; rfl) rfl fun _ => ⟨hclosed, hwaiting⟩

/-! ## The holders of tickets -/

variable {ticket : Ticket} {result : SaveResult}

/-- The holder of a ticket has used it or given it back. -/
def UsedUp (events : List Event) (ticket : Ticket) : Prop :=
  (∃ result, .answered ticket result ∈ events) ∨ .returned ticket ∈ events

theorem UsedUp.mono (h : UsedUp events ticket) (hsub : events ⊆ rest) : UsedUp rest ticket :=
  h.imp (fun ⟨result, hmem⟩ => ⟨result, hsub hmem⟩) (hsub ·)

/-- The worker neither closes the queue nor does it give out or take back tickets. -/
theorem work_keeps (run : Database → StateM σ SaveResult) (q : SaveQueue) (s : σ) :
    let after := ((q.work run).run s).1
    after.isOpen = q.isOpen ∧ after.issued = q.issued ∧ after.held = q.held := by
  unfold work
  split
  case h_2 => split <;> exact ⟨rfl, rfl, rfl⟩
  all_goals exact ⟨rfl, rfl, rfl⟩

theorem mem_held_discard {ticket' : Ticket} (hheld : ticket' ∈ q.held) (hne : ticket' ≠ ticket) :
    ticket' ∈ (q.discard ticket).held :=
  List.mem_filter.2 ⟨hheld, by simpa using hne⟩

/-- A ticket stays with its holder until it is used up. -/
theorem Transition.held (ht : Transition run x e y) (hheld : ticket ∈ x.1.held) :
    ticket ∈ y.1.held ∨ UsedUp [e] ticket := by
  cases ht with
  | submit => exact .inl (List.mem_cons_of_mem _ hheld)
  | close => exact .inl hheld
  | @answer q s ticket' result hheld' hresult =>
    by_cases heq : ticket = ticket'
    · subst heq
      exact .inr (.inl ⟨result, List.mem_singleton_self _⟩)
    · exact .inl (mem_held_discard hheld heq)
  | @giveBack q s ticket' hheld' =>
    by_cases heq : ticket = ticket'
    · subst heq
      exact .inr (.inr (List.mem_singleton_self _))
    · exact .inl (mem_held_discard hheld heq)
  | @start q s | @finish q s | @report q s | @stop q s =>
    exact .inl ((work_keeps run q s).2.2.symm ▸ hheld)

/-- A submission is given the next ticket. -/
theorem Transition.issued (ht : Transition run x e y) :
    (∃ db, e.submission? = some ⟨⟨x.1.issued⟩, db⟩ ∧ y.1.issued = x.1.issued + 1 ∧
      ⟨x.1.issued⟩ ∈ y.1.held) ∨ e.submission? = none ∧ y.1.issued = x.1.issued := by
  cases ht with
  | submit db => exact .inl ⟨db, rfl, rfl, List.mem_cons_self⟩
  | close | answer | giveBack => exact .inr ⟨rfl, rfl⟩
  | @start q s | @finish q s | @report q s | @stop q s => exact .inr ⟨rfl, (work_keeps run q s).2.1⟩

/-- Every submission has a ticket of its own, which stays with its holder until it is used up. -/
structure TicketsKept (events : List Event) (q : SaveQueue) : Prop where
  issued : ∀ job ∈ submissions events, job.ticket.number < q.issued
  distinct : ((submissions events).map (·.ticket)).Nodup
  kept : ∀ job ∈ submissions events, job.ticket ∈ q.held ∨ UsedUp events job.ticket

theorem TicketsKept.step (h : TicketsKept events x.1) (ht : Transition run x e y) :
    TicketsKept (events ++ [e]) y.1 := by
  have hkept : ∀ job ∈ submissions events,
      job.ticket ∈ y.1.held ∨ UsedUp (events ++ [e]) job.ticket := by
    intro job hjob
    rcases h.kept job hjob with hheld | hused
    · exact (ht.held hheld).imp_right (·.mono (List.subset_append_right ..))
    · exact .inr (hused.mono (List.subset_append_left ..))
  rcases ht.issued with ⟨db, hsubmission, hissued, hheld⟩ | ⟨hsubmission, hissued⟩
  · have hjobs : submissions (events ++ [e]) = submissions events ++ [⟨⟨x.1.issued⟩, db⟩] := by
      simp [hsubmission]
    refine ⟨?_, ?_, ?_⟩ <;> rw [hjobs]
    · simp only [hissued, List.mem_append, List.mem_singleton]
      rintro job (hjob | rfl)
      · exact Nat.lt_succ_of_lt (h.issued job hjob)
      · exact Nat.lt_succ_self _
    · rw [List.map_append, List.map_singleton]
      refine List.nodup_append.2 ⟨h.distinct, List.nodup_singleton _, ?_⟩
      -- an earlier ticket has a smaller number
      intro ticket hmem ticket' hnew heq
      obtain ⟨job, hjob, rfl⟩ := List.mem_map.1 hmem
      rw [List.mem_singleton.1 hnew] at heq
      exact absurd (h.issued job hjob) (by simp [heq])
    · simp only [List.mem_append, List.mem_singleton]
      rintro job (hjob | rfl)
      · exact hkept job hjob
      · exact .inl hheld
  · have hjobs : submissions (events ++ [e]) = submissions events := by simp [hsubmission]
    exact ⟨by rw [hjobs, hissued]; exact h.issued, by rw [hjobs]; exact h.distinct,
      by rw [hjobs]; exact hkept⟩

/-! ## Results and their tickets -/

/-- A result is with the worker, or waits for the holder of the ticket. -/
def OnItsWay (q : SaveQueue) (ticket : Ticket) (result : SaveResult) : Prop :=
  q.worker = .reporting ticket result ∨ (ticket, result) ∈ q.results

/-- Whoever holds a ticket can pick up a result or will get one. -/
def AllDue (q : SaveQueue) : Prop :=
  ∀ ticket ∈ q.held, (∃ result, (ticket, result) ∈ q.results) ∨ ticket ∈ q.owed

/-- Results come from saves that end. -/
theorem Transition.onItsWay (ht : Transition run x e y) (h : y.1.OnItsWay ticket result) :
    x.1.OnItsWay ticket result ∨ ResultOf [e] ticket result := by
  -- only the end of a save makes a result; the other events move one or let one go
  cases ht with
  | submit | close => exact .inl h
  | answer | giveBack => exact .inl (h.imp_right fun hmem => (List.mem_filter.1 hmem).1)
  | start hworker hwaiting =>
    rw [run_work_start hworker hwaiting] at h
    exact .inl (.inr (h.resolve_left nofun))
  | @finish q s job hworker =>
    rw [run_work_finish hworker] at h
    rcases h with hreporting | hmem
    · obtain ⟨rfl, rfl⟩ := Worker.reporting.inj hreporting
      exact .inr ⟨job.database, List.mem_singleton_self _⟩
    · exact .inl (.inr hmem)
  | @report q s ticket' result' hworker =>
    rw [run_work_report hworker] at h
    have hmem : (ticket, result) ∈ (q.deliver ticket' result').results := h.resolve_left nofun
    unfold deliver at hmem
    split at hmem
    case isTrue =>
      rcases List.mem_append.1 hmem with hmem | hnew
      · exact .inl (.inr hmem)
      · obtain ⟨rfl, rfl⟩ := Prod.mk.inj (List.mem_singleton.1 hnew)
        exact .inl (.inl hworker)
    case isFalse => exact .inl (.inr hmem)
  | stop hworker hwaiting hclosed =>
    rw [run_work_stop hworker hwaiting hclosed] at h
    exact .inl (.inr (h.resolve_left nofun))

theorem AllDue.congr (h : q.AllDue) {q' : SaveQueue} (hheld : q'.held = q.held)
    (hresults : q'.results = q.results) (howed : q'.owed = q.owed) : q'.AllDue := by
  unfold AllDue
  rw [hheld, hresults, howed]
  exact h

theorem AllDue.discard (h : q.AllDue) (ticket : Ticket) : (q.discard ticket).AllDue := by
  intro ticket' hheld
  obtain ⟨hheld, hne⟩ := List.mem_filter.1 hheld
  exact (h ticket' hheld).imp_left fun ⟨result, hmem⟩ => ⟨result, List.mem_filter.2 ⟨hmem, hne⟩⟩

theorem mem_results_deliver {p : Ticket × SaveResult} (h : p ∈ q.results) :
    p ∈ (q.deliver ticket result).results := by
  unfold deliver
  split
  case isTrue => exact List.mem_append_left _ h
  case isFalse => exact h

/-- A result gets lost on no way but with its ticket. -/
theorem AllDue.step (h : x.1.AllDue) (ht : Transition run x e y) : y.1.AllDue := by
  -- the job of a holder waits, is being saved, or is being reported; each step moves it on
  cases ht with
  | @submit q s db hopen =>
    intro ticket hheld
    rcases List.mem_cons.1 hheld with rfl | hheld
    · exact .inr (by simp [submit, owed, hopen])
    · refine (h ticket hheld).imp_right fun howed => ?_
      simp only [submit, owed, hopen, if_pos, List.map_append, List.mem_append] at howed ⊢
      exact howed.imp_right .inl
  | close => exact h
  | answer | giveBack => exact h.discard _
  | start hworker hwaiting =>
    rw [run_work_start hworker hwaiting]
    exact h.congr rfl rfl (by simp [owed, Worker.owed, hworker, hwaiting])
  | finish hworker =>
    rw [run_work_finish hworker]
    exact h.congr rfl rfl (by simp [owed, Worker.owed, hworker])
  | @report q s ticket' result' hworker =>
    rw [run_work_report hworker]
    intro ticket (hheld : ticket ∈ q.held)
    have howed : q.owed = ticket' :: q.waiting.map (·.ticket) := by
      simp only [owed, Worker.owed, hworker, List.singleton_append]
    rcases h ticket hheld with ⟨result, hmem⟩ | hmem
    · exact .inl ⟨result, mem_results_deliver hmem⟩
    · rcases List.mem_cons.1 (howed ▸ hmem) with rfl | hmem
      · exact .inl ⟨result', by simp [deliver, hheld]⟩
      · exact .inr hmem
  | stop hworker hwaiting hclosed =>
    rw [run_work_stop hworker hwaiting hclosed]
    exact h.congr rfl rfl (by simp [owed, Worker.owed, hworker])

/-- Every result goes to the ticket of its own save, and every holder of a ticket gets one. -/
structure Answers (events : List Event) (q : SaveQueue) : Prop where
  answered : ∀ ticket result, .answered ticket result ∈ events → ResultOf events ticket result
  onItsWay : ∀ ticket result, q.OnItsWay ticket result → ResultOf events ticket result
  due : q.AllDue

/-- The result that a holder picks up is the one of the ticket's own save. -/
theorem Answers.resultOf (h : Answers events q) (hheld : ticket ∈ q.held)
    (hresult : q.pickUp? ticket = some result) : ResultOf events ticket result := by
  unfold pickUp? at hresult
  cases hlookup : q.results.lookup ticket with
  | some stored =>
    obtain rfl : stored = result := by simpa [hlookup] using hresult
    obtain ⟨before, after, hsplit, -⟩ := List.lookup_eq_some_iff.1 hlookup
    exact h.onItsWay _ _ (.inr (by simp [hsplit]))
  | none =>
    have howed : ticket ∈ q.owed := by
      refine (h.due ticket hheld).resolve_left fun ⟨stored, hmem⟩ => ?_
      simpa using List.lookup_eq_none_iff.1 hlookup _ hmem
    simp [hlookup, howed] at hresult

theorem Answers.step (h : Answers events x.1) (ht : Transition run x e y) :
    Answers (events ++ [e]) y.1 where
  answered := by
    intro ticket result hmem
    rcases List.mem_append.1 hmem with hmem | hlast
    · exact (h.answered ticket result hmem).mono (List.subset_append_left ..)
    · obtain rfl := List.mem_singleton.1 hlast
      cases ht with
      | answer hheld hresult => exact (h.resultOf hheld hresult).mono (List.subset_append_left ..)
  onItsWay := by
    intro ticket result hway
    rcases ht.onItsWay hway with hway | hresult
    · exact (h.onItsWay ticket result hway).mono (List.subset_append_left ..)
    · exact hresult.mono (List.subset_append_right ..)
  due := h.due.step ht

/-- Once nothing is owed, every holder can pick up the result of the ticket's own save. -/
theorem Answers.pickUp? (h : Answers events q) (hheld : ticket ∈ q.held) (howed : q.owed = []) :
    ∃ result, q.pickUp? ticket = some result ∧ ResultOf events ticket result := by
  obtain ⟨result, hresult⟩ : ∃ result, q.pickUp? ticket = some result := by
    unfold SaveQueue.pickUp?
    cases q.results.lookup ticket with
    | some stored => exact ⟨stored, rfl⟩
    | none => exact ⟨.error .queueClosed, by simp [howed]⟩
  exact ⟨result, hresult, h.resultOf hheld hresult⟩

/-! ## Whole schedules -/

/-- What every event preserves holds behind every schedule. -/
theorem Schedule.invariant {P : List Event → SaveQueue × σ → Prop} (h : Schedule run x events y)
    (initial : P [] x)
    (step : ∀ {events e y z}, P events y → Transition run y e z → P (events ++ [e]) z) :
    P events y := by
  induction h with
  | nil => exact initial
  | snoc _ last ih => exact step ih last

theorem Schedule.inOrder (h : Schedule run ({}, s₀) events y) : InOrder run s₀ events y :=
  h.invariant (P := InOrder run s₀) ⟨rfl, rfl, rfl, nofun⟩ InOrder.step

theorem Schedule.ticketsKept (h : Schedule run ({}, s₀) events y) : TicketsKept events y.1 :=
  h.invariant (P := fun events y => TicketsKept events y.1) ⟨nofun, .nil, nofun⟩ TicketsKept.step

theorem Schedule.answers (h : Schedule run ({}, s₀) events y) : Answers events y.1 :=
  h.invariant (P := fun events y => Answers events y.1)
    ⟨nofun, fun _ _ hway => absurd hway (by simp [OnItsWay]), nofun⟩ Answers.step

/-- What holds of all results of the computation holds of all results of a schedule. -/
theorem Schedule.results {P : SaveResult → Prop} (hrun : ∀ db s, P ((run db).run s).1)
    (h : Schedule run x events y) : ∀ save ∈ completed events, P save.2 := by
  refine h.invariant (P := fun events _ => ∀ save ∈ completed events, P save.2) nofun ?_
  intro events e y z ih last save hsave
  rw [completed_concat] at hsave
  rcases List.mem_append.1 hsave with hsave | hsave
  · exact ih save hsave
  · cases last with
    | finish =>
      obtain rfl := List.mem_singleton.1 hsave
      exact hrun _ _
    | submit | close | answer | giveBack | start | report | stop => exact absurd hsave nofun

/-! ## Getting to the end -/

/-- Every turn of the worker is a step towards the end, and every submission adds three. -/
theorem Transition.stepsLeft (ht : Transition run x e y) :
    y.1.stepsLeft + e.isWork.toNat = x.1.stepsLeft + 3 * e.submission?.toList.length := by
  -- a job is worth three steps: to start, to finish and to report
  cases ht with
  | @submit q s db hopen =>
    have hwaiting : (q.submit db).2.waiting.length = q.waiting.length + 1 := by
      simp [SaveQueue.submit, hopen]
    have hworker : (q.submit db).2.worker = q.worker := rfl
    simp only [SaveQueue.stepsLeft, hwaiting, hworker, Event.isWork, Event.submission?,
      Bool.toNat_false, Option.toList_some, List.length_singleton]
    omega
  | close | answer | giveBack => rfl
  | start hworker hwaiting =>
    rw [run_work_start hworker hwaiting]
    simp only [SaveQueue.stepsLeft, Worker.stepsLeft, hworker, hwaiting, Event.isWork,
      Event.submission?, Bool.toNat_true, Option.toList_none, List.length_cons, List.length_nil]
    omega
  | finish hworker =>
    rw [run_work_finish hworker]
    simp [SaveQueue.stepsLeft, Worker.stepsLeft, hworker, Event.isWork, Event.submission?]
  | report hworker =>
    rw [run_work_report hworker]
    simp [SaveQueue.stepsLeft, Worker.stepsLeft, hworker, deliver, Event.isWork, Event.submission?]
  | stop hworker hwaiting hclosed =>
    rw [run_work_stop hworker hwaiting hclosed]
    simp [SaveQueue.stepsLeft, Worker.stepsLeft, hworker, Event.isWork, Event.submission?]

/-- The worker takes three steps for every save, and one to stop. -/
theorem Schedule.stepsLeft (h : Schedule run x events y) :
    y.1.stepsLeft + events.countP Event.isWork =
      x.1.stepsLeft + 3 * (submissions events).length := by
  refine h.invariant (P := fun events y => y.1.stepsLeft + events.countP Event.isWork =
    x.1.stepsLeft + 3 * (submissions events).length) rfl ?_
  intro events e y z ih last
  have hlast := last.stepsLeft
  have hcount : [e].countP Event.isWork = e.isWork.toNat := by
    cases h : e.isWork <;> simp [h]
  rw [List.countP_append, hcount, submissions_concat, List.length_append]
  omega

/-- The worker has nothing to do. -/
def AtRest (q : SaveQueue) : Prop :=
  q.worker = .stopped ∨ q.worker = .idle ∧ q.waiting = [] ∧ q.isOpen = true

theorem run_work_atRest (h : q.AtRest) : (q.work run).run s = (q, s) := by
  rcases h with hworker | ⟨hworker, hwaiting, hopen⟩
  · simp only [work, hworker]
    rfl
  · simp only [work, hworker, hwaiting, hopen]
    rfl

/-- Unless it has nothing to do, the worker can take a turn. -/
theorem exists_transition_work (h : ¬ q.AtRest) (run : Database → StateM σ SaveResult) (s : σ) :
    ∃ e, e.isWork = true ∧ Transition run (q, s) e ((q.work run).run s) := by
  cases hworker : q.worker with
  | saving job => exact ⟨_, rfl, .finish hworker⟩
  | reporting ticket result => exact ⟨_, rfl, .report hworker⟩
  | stopped => exact absurd (.inl hworker) h
  | idle =>
    cases hwaiting : q.waiting with
    | cons job waiting => exact ⟨_, rfl, .start hworker hwaiting⟩
    | nil =>
      cases hopen : q.isOpen with
      | true => exact absurd (.inr ⟨hworker, hwaiting, hopen⟩) h
      | false => exact ⟨_, rfl, .stop hworker hwaiting hopen⟩

theorem run_go_atRest (h : q.AtRest) (n : Nat) : (drain.go run n q).run s = (q, s) := by
  induction n with
  | zero => rfl
  | succ n ih => rwa [drain.go, StateT.run_bind, run_work_atRest h]

theorem atRest_of_stepsLeft_eq_zero (h : q.stepsLeft = 0) : q.AtRest := by
  have hworker : q.worker.stepsLeft = 0 := (Nat.add_eq_zero_iff.1 h).2
  cases hq : q.worker with
  | stopped => exact .inl hq
  | idle | saving | reporting => simp [hq, Worker.stepsLeft] at hworker

theorem go_keeps (run : Database → StateM σ SaveResult) (n : Nat) (q : SaveQueue) (s : σ) :
    let after := ((drain.go run n q).run s).1
    after.isOpen = q.isOpen ∧ after.held = q.held := by
  induction n generalizing q s with
  | zero => exact ⟨rfl, rfl⟩
  | succ n ih =>
    obtain ⟨hopen, -, hheld⟩ := work_keeps run q s
    obtain ⟨ihopen, ihheld⟩ := ih ((q.work run).run s).1 ((q.work run).run s).2
    exact ⟨ihopen.trans hopen, ihheld.trans hheld⟩

/-- Left alone for long enough, the worker gets to rest. -/
theorem schedule_go {n : Nat} (hn : q.stepsLeft ≤ n) (run : Database → StateM σ SaveResult)
    (s : σ) :
    ∃ rest, Schedule run (q, s) rest ((drain.go run n q).run s) ∧
      (∀ e ∈ rest, e.isWork = true) ∧ ((drain.go run n q).run s).1.AtRest := by
  induction n generalizing q s with
  | zero => exact ⟨[], .nil _, nofun, atRest_of_stepsLeft_eq_zero (Nat.le_zero.1 hn)⟩
  | succ n ih =>
    by_cases hrest : q.AtRest
    · rw [run_go_atRest hrest]
      exact ⟨[], .nil _, nofun, hrest⟩
    · obtain ⟨e, hwork, ht⟩ := exists_transition_work hrest run s
      have hstep : ((q.work run).run s).1.stepsLeft + 1 = q.stepsLeft := by
        simpa [hwork, Event.submission?_of_isWork hwork] using ht.stepsLeft
      rw [drain.go, StateT.run_bind]
      obtain ⟨rest, hrest, hall, hend⟩ := ih (q := ((q.work run).run s).1)
        (by omega) ((q.work run).run s).2
      exact ⟨e :: rest, hrest.cons ht, by simpa [hwork] using hall, hend⟩

theorem owed_eq_nil (h : InOrder run s₀ events (q, s)) (hrest : q.AtRest) : q.owed = [] := by
  rcases hrest with hworker | ⟨hworker, hwaiting, -⟩
  · have hwaiting : q.waiting = [] := (h.ended hworker).2
    simp [owed, Worker.owed, hworker, hwaiting]
  · simp [owed, Worker.owed, hworker, hwaiting]

/-- Left alone, the worker gets to rest. By then every holder of a ticket can pick up the result of
its own save, and the worker of a closed queue has stopped. -/
theorem Schedule.drained (h : Schedule run ({}, s₀) events (q, s)) :
    ∃ rest, Schedule run (q, s) rest ((q.drain run).run s) ∧ (∀ e ∈ rest, e.isWork = true) ∧
      let after := ((q.drain run).run s).1
      (q.isOpen = false → after.worker = .stopped) ∧
      ∀ ticket ∈ q.held, ∃ result, after.pickUp? ticket = some result ∧
        ResultOf (events ++ rest) ticket result := by
  obtain ⟨rest, hrest, hwork, hend⟩ := schedule_go (Nat.le_refl q.stepsLeft) run s
  have hall := h.append hrest
  obtain ⟨hopen, hheld⟩ := go_keeps run q.stepsLeft q s
  refine ⟨rest, hrest, hwork, fun hclosed => ?_, fun ticket hmem => ?_⟩
  · exact hend.resolve_right fun ⟨_, _, hstill⟩ => nomatch hstill.symm.trans (hopen.trans hclosed)
  · exact hall.answers.pickUp? (hheld.symm ▸ hmem) (owed_eq_nil hall.inOrder hend)

/-! ## The queue of saves -/

/-- A schedule at whose end the worker has stopped is the submitted saves in turn. -/
structure InTurn (run : Database → StateM σ SaveResult) (s₀ : σ) (events : List Event)
    (q : SaveQueue) (s : σ) : Prop where
  /-- Every submitted save has been carried out once, in the order of submission. -/
  order : (completed events).map (·.1) = submissions events
  /-- No save begins before the one in front of it has ended. -/
  alone : events.filter Event.isSave = (completed events).flatMap bothEnds
  /-- The last state and all results are those of calls one after the other. -/
  sequential : ((submissions events).mapM (run ·.database)).run s₀ =
    ((completed events).map (·.2), s)
  /-- No two submissions share a ticket. -/
  tickets : ((submissions events).map (·.ticket)).Nodup
  /-- A ticket is used up or still held. -/
  kept : ∀ job ∈ submissions events, job.ticket ∈ q.held ∨ UsedUp events job.ticket
  /-- Every wait has returned the result of the ticket's own save. -/
  answered : ∀ ticket result, .answered ticket result ∈ events → ResultOf events ticket result
  /-- So does every wait from now on. -/
  ready : ∀ ticket ∈ q.held, ∃ result, q.pickUp? ticket = some result ∧
    ResultOf events ticket result

theorem Schedule.inTurn (h : Schedule run ({}, s₀) events (q, s)) (hstopped : q.worker = .stopped) :
    InTurn run s₀ events q s := by
  have hwaiting : q.waiting = [] := (h.inOrder.ended hstopped).2
  have horder : submissions events = (completed events).map (·.1) := by
    simpa [hstopped, hwaiting, Worker.atHand] using h.inOrder.submitted
  exact
    { order := horder.symm
      alone := by simpa [hstopped, Worker.atHand] using h.inOrder.alone
      sequential := horder ▸ h.inOrder.sequential
      tickets := h.ticketsKept.distinct
      kept := h.ticketsKept.kept
      answered := h.answers.answered
      ready := fun ticket hheld =>
        h.answers.pickUp? hheld (owed_eq_nil h.inOrder (.inl hstopped)) }

theorem save_ne_queueClosed (w : Writer) (adapter : Adapter) (db : Database) (t : FileTree) :
    ((w.save FileTree.storage adapter db).run t).1 ≠ .error .queueClosed := by
  cases houtputs : w.outputs adapter db with
  | error failure =>
    rw [Writer.run_save_refused houtputs]
    rintro heq
    obtain rfl := Except.error.inj heq
    rcases Writer.outputs_refusal houtputs with ⟨e, he⟩ | ⟨e, he⟩ <;> cases he
  | ok outputs =>
    rw [Writer.run_save houtputs]
    intro heq
    cases (Writer.report_eq_error_iff.1 heq).2

/-- When the worker of a queue has stopped, whatever its users have done in the meantime, the tree
is the one that calls one after the other leave behind, and every wait returns what the call of its
own save returns. It gets there: the worker takes at most three turns for every save and one to
stop, and whenever it goes on alone, all results that are still waited for arrive. -/
theorem queued_saves_in_turn {w : Writer} {adapter : Adapter} {t t' : FileTree}
    (h : Schedule (w.save FileTree.storage adapter) ({}, t) events (q, t')) :
    (q.worker = .stopped → InTurn (w.save FileTree.storage adapter) t events q t' ∧
      ∀ ticket result, ResultOf events ticket result → result ≠ .error .queueClosed) ∧
    events.countP Event.isWork ≤ 3 * (submissions events).length + 1 ∧
    ∃ rest, Schedule (w.save FileTree.storage adapter) (q, t') rest
        ((q.drain (w.save FileTree.storage adapter)).run t') ∧
      (∀ e ∈ rest, e.isWork = true) ∧
      let after := ((q.drain (w.save FileTree.storage adapter)).run t').1
      (q.isOpen = false → after.worker = .stopped) ∧
      ∀ ticket ∈ q.held, ∃ result, after.pickUp? ticket = some result ∧
        ResultOf (events ++ rest) ticket result := by
  refine ⟨fun hstopped => ⟨h.inTurn hstopped, ?_⟩, ?_, h.drained⟩
  -- a result comes from a save, and no save answers that the queue is closed
  · rintro ticket result ⟨db, hmem⟩
    exact h.results (P := (· ≠ .error .queueClosed)) (save_ne_queueClosed w adapter) _ hmem
  · have hsteps : q.stepsLeft + events.countP Event.isWork =
        1 + 3 * (submissions events).length := h.stepsLeft
    omega

/-- Three saves. The first result is waited for at once, the second ticket is given back during its
save, and the third result is picked up at the end. -/
def sampleEvents (first second third : Job) (r₁ r₂ r₃ : SaveResult) : List Event :=
  [ .submitted first, .submitted second, .started first, .submitted third, .finished first r₁
  , .reported first.ticket, .answered first.ticket r₁, .started second, .returned second.ticket
  , .finished second r₂, .closed, .reported second.ticket, .started third, .finished third r₃
  , .reported third.ticket, .stopped, .answered third.ticket r₃ ]

theorem sample_schedule {a b c : Database} {r₁ r₂ r₃ : SaveResult}
    (ha : ((run a).run s).1 = r₁) (hb : ((run b).run ((run a).run s).2).1 = r₂)
    (hc : ((run c).run ((run b).run ((run a).run s).2).2).1 = r₃) :
    ∃ s', Schedule run ({}, s) (sampleEvents ⟨⟨0⟩, a⟩ ⟨⟨1⟩, b⟩ ⟨⟨2⟩, c⟩ r₁ r₂ r₃)
      (⟨false, 3, [], .stopped, [], []⟩, s') := by
  subst ha hb hc
  refine ⟨((run c).run ((run b).run ((run a).run s).2).2).2, ?_⟩
  -- the states in between are written out, so that they do not grow with the schedule
  refine .cons (.submit a rfl) (.cons (.submit b rfl) (.cons (.start rfl rfl) ?_))
  change Schedule run (⟨true, 2, [⟨⟨1⟩, b⟩], .saving ⟨⟨0⟩, a⟩, [⟨1⟩, ⟨0⟩], []⟩, s) _ _
  refine .cons (.submit c rfl) (.cons (.finish rfl) (.cons (.report rfl) ?_))
  change Schedule run (⟨true, 3, [⟨⟨1⟩, b⟩, ⟨⟨2⟩, c⟩], .idle, [⟨2⟩, ⟨1⟩, ⟨0⟩],
    [(⟨0⟩, ((run a).run s).1)]⟩, ((run a).run s).2) _ _
  refine .cons (.answer (by simp) rfl) (.cons (.start rfl rfl) ?_)
  change Schedule run (⟨true, 3, [⟨⟨2⟩, c⟩], .saving ⟨⟨1⟩, b⟩, [⟨2⟩, ⟨1⟩], []⟩,
    ((run a).run s).2) _ _
  refine .cons (.giveBack (by simp)) (.cons (.finish rfl) (.cons (.close rfl)
    (.cons (.report rfl) ?_)))
  change Schedule run (⟨false, 3, [⟨⟨2⟩, c⟩], .idle, [⟨2⟩], []⟩, _) _ _
  refine .cons (.start rfl rfl) (.cons (.finish rfl) (.cons (.report rfl)
    (.cons (.stop rfl rfl rfl) ?_)))
  change Schedule run (⟨false, 3, [], .stopped, [⟨2⟩], [(⟨2⟩, _)]⟩, _) _ _
  exact .cons (.answer (by simp) rfl) (.nil _)

/-- A first save, a save of another database, and that one again. -/
theorem queued_saves_in_turn_sample :
    let run := Writer.save ⟨⟨"out"⟩, "database.json"⟩ FileTree.storage
      (.canned (.ok Writer.sampleFiles))
    let snapshot : Path := ⟨"out/database.json"⟩
    let file : Path := ⟨"out/x.txt"⟩
    ∃ events q t', Schedule run ({}, Writer.sampleTree) events (q, t') ∧ q.worker = .stopped ∧
      .answered ⟨0⟩ (.ok ⟨[snapshot, file], []⟩) ∈ events ∧ .returned ⟨1⟩ ∈ events ∧
      .answered ⟨2⟩ (.ok ⟨[], [snapshot, file]⟩) ∈ events ∧
      InTurn run Writer.sampleTree events q t' := by
  intro run snapshot file
  let other : Database := (({} : Database).addEnvironment "Shop").2
  have ha : ((run {}).run Writer.sampleTree).1 = .ok ⟨[snapshot, file], []⟩ := by decide +kernel
  have hb : ((run other).run ((run {}).run Writer.sampleTree).2).1 = .ok ⟨[snapshot], [file]⟩ := by
    decide +kernel
  have hc : ((run other).run ((run other).run ((run {}).run Writer.sampleTree).2).2).1 =
      .ok ⟨[], [snapshot, file]⟩ := by decide +kernel
  obtain ⟨t', h⟩ := sample_schedule ha hb hc
  exact ⟨_, _, t', h, rfl, by simp [sampleEvents], by simp [sampleEvents], by simp [sampleEvents],
    ((queued_saves_in_turn h).1 rfl).1⟩

end SaveQueue

end Choreography
