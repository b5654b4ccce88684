import Choreography.Proofs.Consistency
import Choreography.Service
import Mathlib.Data.List.Induction
import Mathlib.Tactic.SplitIfs

/-!
# What the services of a database declare

`Service.ofSteps` says it without going through the steps one by one: a service declares the events
of the steps that it receives and of those that it sends, each event at its first place.

- `Service.declare_ofSteps`: one more step, on top of the steps that are declared already. From it
  follow all steps of a diagram (`declareSteps_ofSteps`) and all diagrams
  (`declareDiagrams_ofSteps`).
- `Database.Consistent.services_eq`: so a consistent database, which has no dangling step, is always
  turned into services, and these are its environments with the events of all its steps.
- `services_read_off_steps`: the same, with what it means for single steps and events.
-/

namespace Choreography

/-! ## First places -/

/-- One more event is listed unless it has been listed before. -/
theorem eraseDups_concat {α : Type} [DecidableEq α] (l : List α) (a : α) :
    (l ++ [a]).eraseDups = appendNew l.eraseDups a := by
  rw [List.eraseDups_append, appendNew]
  by_cases h : a ∈ l <;> simp [h, List.removeAll, List.eraseDups_cons]

theorem nodup_eraseDups {α : Type} [DecidableEq α] (l : List α) : l.eraseDups.Nodup := by
  induction l using List.reverseRecOn with
  | nil => exact List.nodup_nil
  | append_singleton l a ih =>
    rw [eraseDups_concat]
    exact nodup_appendNew ih a

/-! ## Services of steps -/

/-- The events of the steps that an environment receives. -/
def receivedEvents (steps : List Step) (id : EnvironmentId) : List String :=
  (steps.filter (·.receiver = id)).map (·.event)

/-- The events of the steps that an environment sends. -/
def sentEvents (steps : List Step) (id : EnvironmentId) : List String :=
  (steps.filter (·.sender = id)).map (·.event)

namespace Service

/-- What a service takes over from its environment. -/
def environment (s : Service) : Environment := ⟨s.id, s.name⟩

/-- The service of an environment between some steps. Of equal events the first one is kept. -/
def ofSteps (steps : List Step) (e : Environment) : Service where
  id := e.id
  name := e.name
  operations := (receivedEvents steps e.id).eraseDups
  calls := (sentEvents steps e.id).eraseDups

@[simp] theorem ofSteps_id (steps : List Step) (e : Environment) :
    (ofSteps steps e).id = e.id := rfl

theorem mem_operations_ofSteps {steps : List Step} {e : Environment} {event : String} :
    event ∈ (ofSteps steps e).operations ↔ ∃ s ∈ steps, s.receiver = e.id ∧ s.event = event := by
  simp [ofSteps, receivedEvents, and_assoc]

theorem mem_calls_ofSteps {steps : List Step} {e : Environment} {event : String} :
    event ∈ (ofSteps steps e).calls ↔ ∃ s ∈ steps, s.sender = e.id ∧ s.event = event := by
  simp [ofSteps, sentEvents, and_assoc]

variable {environments : List Environment} {s : Step}

/-- Both ends of a step belong to environments. -/
def StepKnown (environments : List Environment) (s : Step) : Prop :=
  s.sender ∈ environments.map (·.id) ∧ s.receiver ∈ environments.map (·.id)

theorem update?_map {g : Environment → Service} (hg : ∀ e, (g e).id = e.id) {id : EnvironmentId}
    (hid : id ∈ environments.map (·.id)) (f : Service → Service) :
    update? (environments.map g) id f =
      some (environments.map fun e => if e.id = id then f (g e) else g e) := by
  have hany : (environments.map g).any (·.id = id) = true := by
    simpa [hg] using hid
  rw [update?, if_pos hany, List.map_map]
  simp [Function.comp_def, hg]

/-- Of one more step, the receiver declares the event as received and the sender as sent. -/
theorem ofSteps_concat (past : List Step) (s : Step) (e : Environment) :
    ofSteps (past ++ [s]) e =
      let received :=
        if e.id = s.receiver then (ofSteps past e).receives s.event else ofSteps past e
      if e.id = s.sender then received.sends s.event else received := by
  obtain ⟨id, name⟩ := e
  -- one more step adds an event at the end of a list, unless the list has it
  have hreceived : (receivedEvents (past ++ [s]) id).eraseDups =
      if id = s.receiver then appendNew (receivedEvents past id).eraseDups s.event
      else (receivedEvents past id).eraseDups := by
    rw [← eraseDups_concat]
    by_cases h : id = s.receiver <;> simp [receivedEvents, h, Ne.symm]
  have hsent : (sentEvents (past ++ [s]) id).eraseDups =
      if id = s.sender then appendNew (sentEvents past id).eraseDups s.event
      else (sentEvents past id).eraseDups := by
    rw [← eraseDups_concat]
    by_cases h : id = s.sender <;> simp [sentEvents, h, Ne.symm]
  simp only [ofSteps, hreceived, hsent]
  split_ifs <;> rfl

/-- Declaring a step on top of some steps gives the services of all of them. -/
theorem declare_ofSteps (past : List Step) (diagram : DiagramId) (index : Nat)
    (hs : StepKnown environments s) :
    declare diagram index (environments.map (ofSteps past)) s =
      .ok (environments.map (ofSteps (past ++ [s]))) := by
  obtain ⟨hsender, hreceiver⟩ := hs
  have hreceived := update?_map (ofSteps_id past) hreceiver (·.receives s.event)
  have hsent := update?_map (g := fun e => if e.id = s.receiver then
    (ofSteps past e).receives s.event else ofSteps past e) (fun e => by split <;> rfl) hsender
    (·.sends s.event)
  simp only [declare, hreceived, hsent]
  exact congrArg _ (List.map_congr_left fun e _ => (ofSteps_concat past s e).symm)

theorem declareSteps_ofSteps (past : List Step) (diagram : DiagramId) (index : Nat)
    {steps : List Step} (hsteps : ∀ s ∈ steps, StepKnown environments s) :
    declareSteps diagram index steps (environments.map (ofSteps past)) =
      .ok (environments.map (ofSteps (past ++ steps))) := by
  induction steps generalizing index past with
  | nil => rw [List.append_nil, declareSteps]
  | cons s steps ih =>
    obtain ⟨hs, hsteps⟩ := List.forall_mem_cons.1 hsteps
    have hrest := ih (past ++ [s]) (index + 1) hsteps
    rw [List.append_assoc, List.singleton_append] at hrest
    simp only [declareSteps, declare_ofSteps past diagram index hs, bind, Except.bind]
    exact hrest

theorem declareDiagrams_ofSteps (past : List Step) {diagrams : List Diagram}
    (hdiagrams : ∀ d ∈ diagrams, ∀ s ∈ d.steps, StepKnown environments s) :
    declareDiagrams diagrams (environments.map (ofSteps past)) =
      .ok (environments.map (ofSteps (past ++ diagrams.flatMap (·.steps)))) := by
  induction diagrams generalizing past with
  | nil => rw [List.flatMap_nil, List.append_nil, declareDiagrams]
  | cons d diagrams ih =>
    obtain ⟨hd, hdiagrams⟩ := List.forall_mem_cons.1 hdiagrams
    have hrest := ih (past ++ d.steps) hdiagrams
    rw [List.append_assoc, ← List.flatMap_cons] at hrest
    simp only [declareDiagrams, declareSteps_ofSteps past d.id 0 hd, bind, Except.bind]
    exact hrest

end Service

/-! ## Services of databases -/

namespace Database

variable {db : Database}

/-- The steps of all diagrams, in order of creation and then by position. -/
def allSteps (db : Database) : List Step :=
  db.diagrams.flatMap (·.steps)

theorem mem_allSteps {s : Step} : s ∈ db.allSteps ↔ ∃ d ∈ db.diagrams, s ∈ d.steps :=
  List.mem_flatMap

theorem exists_mem_allSteps {P : Step → Prop} :
    (∃ s ∈ db.allSteps, P s) ↔ ∃ d ∈ db.diagrams, ∃ s ∈ d.steps, P s := by
  constructor
  · rintro ⟨s, hs, h⟩
    obtain ⟨d, hd, hs⟩ := mem_allSteps.1 hs
    exact ⟨d, hd, s, hs, h⟩
  · rintro ⟨d, hd, s, hs, h⟩
    exact ⟨s, mem_allSteps.2 ⟨d, hd, hs⟩, h⟩

/-- The ends of all steps of a consistent database are known. -/
theorem Consistent.stepKnown (h : db.Consistent) {d : Diagram} (hd : d ∈ db.diagrams) {s : Step}
    (hs : s ∈ d.steps) : Service.StepKnown db.environments s := by
  obtain ⟨-, hsender, hreceiver⟩ := (h.sound d hd).steps s hs
  exact ⟨hasEnvironment_iff.1 hsender, hasEnvironment_iff.1 hreceiver⟩

/-- No step of a consistent database dangles. Its services are those of its environments, in their
order, between all its steps. -/
theorem Consistent.services_eq (h : db.Consistent) :
    db.services = .ok (db.environments.map (Service.ofSteps db.allSteps)) :=
  Service.declareDiagrams_ofSteps [] fun _ hd _ hs => h.stepKnown hd hs

/-- The receiver of a step declares its event as received. -/
theorem Consistent.exists_receiver (h : db.Consistent) {d : Diagram} (hd : d ∈ db.diagrams)
    {s : Step} (hs : s ∈ d.steps) :
    ∃ e ∈ db.environments, e.id = s.receiver ∧
      s.event ∈ (Service.ofSteps db.allSteps e).operations := by
  obtain ⟨e, he, hid⟩ := List.mem_map.1 (h.stepKnown hd hs).2
  exact ⟨e, he, hid,
    Service.mem_operations_ofSteps.2 ⟨s, mem_allSteps.2 ⟨d, hd, hs⟩, hid.symm, rfl⟩⟩

/-- The sender of a step declares its event as sent. -/
theorem Consistent.exists_sender (h : db.Consistent) {d : Diagram} (hd : d ∈ db.diagrams)
    {s : Step} (hs : s ∈ d.steps) :
    ∃ e ∈ db.environments, e.id = s.sender ∧ s.event ∈ (Service.ofSteps db.allSteps e).calls := by
  obtain ⟨e, he, hid⟩ := List.mem_map.1 (h.stepKnown hd hs).1
  exact ⟨e, he, hid,
    Service.mem_calls_ofSteps.2 ⟨s, mem_allSteps.2 ⟨d, hd, hs⟩, hid.symm, rfl⟩⟩

theorem Consistent.services (h : db.Consistent) :
    ∃ services, db.services = .ok services ∧
      services.map (·.environment) = db.environments := by
  refine ⟨_, h.services_eq, ?_⟩
  rw [List.map_map]
  exact List.map_id _

/-- Each environment of a consistent database becomes a service. Its operations are the events of
the steps that it receives and its calls those of the steps that it sends, diagram by diagram and
step by step; of equal events only the first one is listed. So every step is declared on both
sides, nothing else is declared, and nothing is declared twice. -/
theorem services_read_off_steps (h : db.Consistent) :
    ∃ services, db.services = .ok services ∧
      services = db.environments.map (Service.ofSteps db.allSteps) ∧
      (∀ d ∈ db.diagrams, ∀ s ∈ d.steps,
        (∃ receiver ∈ services, receiver.id = s.receiver ∧ s.event ∈ receiver.operations) ∧
          ∃ sender ∈ services, sender.id = s.sender ∧ s.event ∈ sender.calls) ∧
      ∀ service ∈ services, service.operations.Nodup ∧ service.calls.Nodup ∧
        (∀ event, event ∈ service.operations ↔
          ∃ d ∈ db.diagrams, ∃ s ∈ d.steps, s.receiver = service.id ∧ s.event = event) ∧
        ∀ event, event ∈ service.calls ↔
          ∃ d ∈ db.diagrams, ∃ s ∈ d.steps, s.sender = service.id ∧ s.event = event := by
  refine ⟨_, h.services_eq, rfl, fun d hd s hs => ?_, ?_⟩
  · obtain ⟨receiver, hmem, hreceiver, hoperation⟩ := h.exists_receiver hd hs
    obtain ⟨sender, hmem', hsender, hcall⟩ := h.exists_sender hd hs
    exact ⟨⟨_, List.mem_map_of_mem hmem, hreceiver, hoperation⟩,
      _, List.mem_map_of_mem hmem', hsender, hcall⟩
  · intro service hservice
    obtain ⟨e, -, rfl⟩ := List.mem_map.1 hservice
    refine ⟨nodup_eraseDups _, nodup_eraseDups _, fun event => ?_, fun event => ?_⟩
    · exact Service.mem_operations_ofSteps.trans exists_mem_allSteps
    · exact Service.mem_calls_ofSteps.trans exists_mem_allSteps

/-- An event that is sent again in a later diagram and by another environment, one that has not been
typed, and an environment without steps. -/
def sampleDiagrams : Contents where
  environments := [⟨⟨"shop"⟩, "Shop"⟩, ⟨⟨"bank"⟩, "Bank"⟩, ⟨⟨"post"⟩, "Post"⟩, ⟨⟨"idle"⟩, "Idle"⟩]
  diagrams :=
    [ ⟨⟨"order"⟩, "", ∅, [⟨⟨"shop"⟩, ⟨"bank"⟩, "pay"⟩, ⟨⟨"bank"⟩, ⟨"shop"⟩, "paid"⟩,
        ⟨⟨"shop"⟩, ⟨"post"⟩, "pay"⟩]⟩
    , ⟨⟨"refund"⟩, "", ∅, [⟨⟨"shop"⟩, ⟨"bank"⟩, ""⟩, ⟨⟨"post"⟩, ⟨"bank"⟩, "pay"⟩]⟩ ]

theorem services_read_off_steps_sample :
    let db := sampleDiagrams.database
    db.Consistent ∧
      db.services = .ok
        [ ⟨⟨"shop"⟩, "Shop", ["paid"], ["pay", ""]⟩, ⟨⟨"bank"⟩, "Bank", ["pay", ""], ["paid"]⟩
        , ⟨⟨"post"⟩, "Post", ["pay"], ["pay"]⟩, ⟨⟨"idle"⟩, "Idle", [], []⟩ ] := by
  intro db
  have hload : ofContents sampleDiagrams = .ok db := by decide
  have h : db.Consistent := (ofContents_eq_ok_iff.1 hload).1
  obtain ⟨services, hservices, heq, -⟩ := services_read_off_steps h
  refine ⟨h, ?_⟩
  rw [hservices, heq]
  decide

end Database

end Choreography
