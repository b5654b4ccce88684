import Choreography.Proofs.RoundTrip
import Choreography.Service

/-!
# Equal models behave alike

Databases are the same model if they list the same things in the same order, even if they have come
about in different ways and count on from different numbers.

- `sameModel_iff_print`: they are exactly the databases that are saved as the same text.
- `Database.services_congr`: and they ask the same services for the same events.
- `apply_withCounters`: a command that creates nothing does not see the counters.
- `SameModel.run`: so equal models answer alike and stay equal, command after command.
- `sameModel_congruence`: all of it, also for a database and what is loaded from its contents.
-/

namespace Choreography

/-- The command asks for a new identifier. -/
def Command.Creates : Command → Prop
  | .addEnvironment _ | .addDiagram _ | .duplicateDiagram _ => True
  | .renameEnvironment .. | .deleteEnvironment _ | .renameDiagram .. | .deleteDiagram _
  | .attachEnvironment .. | .addStep .. | .editStepEvent .. | .deleteStep .. => False

instance : DecidablePred Command.Creates
  | .addEnvironment _ | .addDiagram _ | .duplicateDiagram _ => .isTrue trivial
  | .renameEnvironment .. | .deleteEnvironment _ | .renameDiagram .. | .deleteDiagram _
  | .attachEnvironment .. | .addStep .. | .editStepEvent .. | .deleteStep .. => .isFalse id

variable {a b : Database}

/-! ## Texts and services -/

theorem Snapshot.print_congr (h : a.SameModel b) : print a = print b := by
  rw [print, print, show a.contents = b.contents from h]

/-- A text determines the model, as it is read as what was printed. -/
theorem Snapshot.sameModel_iff_print : a.SameModel b ↔ print a = print b := by
  refine ⟨print_congr, fun h => ?_⟩
  have hread : Except.ok a.contents = Except.ok b.contents :=
    calc Except.ok a.contents = parseContents (print a) := (parseContents_print a).symm
      _ = parseContents (print b) := by rw [h]
      _ = .ok b.contents := parseContents_print b
  exact Except.ok.inj hread

namespace Database

theorem services_congr (h : a.SameModel b) : a.services = b.services := by
  have henvironments : a.environments = b.environments := congrArg Contents.environments h
  have hdiagrams : a.diagrams = b.diagrams := congrArg Contents.diagrams h
  rw [services, services, henvironments, hdiagrams]

/-! ## Counters -/

/-- The same model, with other numbers to count on from. -/
def withCounters (db : Database) (environment diagram : Nat) : Database :=
  { db with lastEnvironment := environment, lastDiagram := diagram }

section

variable (db : Database) (m n : Nat)

theorem sameModel_withCounters : db.SameModel (db.withCounters m n) := rfl

@[simp] theorem requireEnvironment_withCounters (id : EnvironmentId) :
    (db.withCounters m n).requireEnvironment id = db.requireEnvironment id := rfl

@[simp] theorem diagram_withCounters (id : DiagramId) :
    (db.withCounters m n).diagram id = db.diagram id := rfl

@[simp] theorem step_withCounters (id : DiagramId) (index : Nat) :
    (db.withCounters m n).step id index = db.step id index := rfl

@[simp] theorem endpointViolation?_withCounters (sender receiver : EnvironmentId) :
    (db.withCounters m n).endpointViolation? sender receiver =
      db.endpointViolation? sender receiver := rfl

/-- A command that creates nothing does not see the counters, and leaves them as they are. -/
theorem apply_withCounters {c : Command} (h : ¬ c.Creates) :
    (db.withCounters m n).apply c =
      (db.apply c).map fun (outcome, after) => (outcome, after.withCounters m n) := by
  -- every check and every edit reads environments and diagrams only; the counters ride along
  cases c with
  | addEnvironment | addDiagram | duplicateDiagram => exact (h trivial).elim
  | renameEnvironment id name =>
    simp only [apply, renameEnvironment, requireEnvironment_withCounters]
    cases db.requireEnvironment id <;> rfl
  | deleteEnvironment id =>
    simp only [apply, deleteEnvironment, requireEnvironment_withCounters]
    cases db.requireEnvironment id <;> rfl
  | renameDiagram id title =>
    simp only [apply, renameDiagram, diagram_withCounters]
    cases db.diagram id <;> rfl
  | deleteDiagram id =>
    simp only [apply, deleteDiagram, diagram_withCounters]
    cases db.diagram id <;> rfl
  | attachEnvironment id environment =>
    simp only [apply, attachEnvironment, requireEnvironment_withCounters, diagram_withCounters]
    cases db.requireEnvironment environment with
    | error e => rfl
    | ok _ => cases db.diagram id <;> rfl
  | addStep id sender receiver index =>
    simp only [apply, addStep, endpointViolation?_withCounters, diagram_withCounters]
    cases db.endpointViolation? sender receiver with
    | some e => rfl
    | none =>
      cases db.diagram id with
      | error e => rfl
      | ok d =>
        by_cases hindex : index > d.steps.length
        · simp only [bind, Except.bind, if_pos hindex]
          rfl
        · simp only [bind, Except.bind, if_neg hindex]
          rfl
  | editStepEvent id index event =>
    simp only [apply, editStepEvent, step_withCounters]
    cases db.step id index <;> rfl
  | deleteStep id index =>
    simp only [apply, deleteStep, step_withCounters]
    cases db.step id index <;> rfl

end

/-! ## Commands -/

namespace SameModel

theorem eq_withCounters (h : a.SameModel b) :
    a.withCounters b.lastEnvironment b.lastDiagram = b := by
  have henvironments : a.environments = b.environments := congrArg Contents.environments h
  have hdiagrams : a.diagrams = b.diagrams := congrArg Contents.diagrams h
  rw [withCounters, henvironments, hdiagrams]

/-- Equal models answer a command that creates nothing alike, and stay equal. -/
theorem perform {c : Command} (h : a.SameModel b) (hc : ¬ c.Creates) :
    (a.perform (.apply c)).1 = (b.perform (.apply c)).1 ∧
      (a.perform (.apply c)).2.SameModel (b.perform (.apply c)).2 := by
  rw [← h.eq_withCounters, Database.perform, Database.perform, apply_withCounters a _ _ hc]
  cases a.apply c with
  | error e => exact ⟨rfl, sameModel_withCounters a _ _⟩
  | ok r => exact ⟨rfl, sameModel_withCounters r.2 _ _⟩

/-- So they do under any number of such commands, accepted or refused. -/
theorem run {commands : List Command} (h : a.SameModel b) (hc : ∀ c ∈ commands, ¬ c.Creates) :
    a.answers (commands.map .apply) = b.answers (commands.map .apply) ∧
      List.Forall₂ SameModel (a.states (commands.map .apply))
        (b.states (commands.map .apply)) := by
  induction commands generalizing a b with
  | nil => exact ⟨rfl, .cons h .nil⟩
  | cons c commands ih =>
    obtain ⟨hfirst, hrest⟩ := List.forall_mem_cons.1 hc
    obtain ⟨hanswer, hafter⟩ := h.perform hfirst
    obtain ⟨hanswers, hstates⟩ := ih hafter hrest
    constructor
    · rw [List.map_cons, answers_cons, answers_cons, hanswer, hanswers]
    · exact .cons h hstates

end SameModel

/-- Databases are the same model exactly if they are saved as the same text. They then ask for the
same services. They give the same answers to any commands that create nothing, and are the same
model after each of them. The contents of a reachable database load, and as the same model. -/
theorem sameModel_congruence :
    (∀ a b : Database, (a.SameModel b ↔ Snapshot.print a = Snapshot.print b) ∧
      (a.SameModel b → a.services = b.services ∧
        ∀ commands : List Command, (∀ c ∈ commands, ¬ c.Creates) →
          a.answers (commands.map .apply) = b.answers (commands.map .apply) ∧
            List.Forall₂ SameModel (a.states (commands.map .apply))
              (b.states (commands.map .apply)))) ∧
    ∀ db : Database, db.Reachable →
      ∃ loaded, ofContents db.contents = .ok loaded ∧ loaded.Reachable ∧ loaded.SameModel db := by
  refine ⟨fun a b => ⟨Snapshot.sameModel_iff_print, fun h => ⟨services_congr h, fun _ => h.run⟩⟩,
    fun db hdb => ?_⟩
  have hloads := hdb.consistent.ofContents_contents
  exact ⟨_, hloads, (IsStart.of_ofContents hloads).reachable, rfl⟩

/-- The first command is refused. -/
def sampleCommands : List Command :=
  [ .renameDiagram ⟨"diagram-9"⟩ "Refunds"
  , .deleteEnvironment ⟨"bank"⟩
  , .editStepEvent ⟨"diagram-2"⟩ 0 "Paid" ]

theorem sameModel_congruence_sample :
    let db := sampleContents.database.run (sampleOperations ++ [.deleteEnvironment ⟨"env-9"⟩])
    let loaded := db.contents.database
    db.Reachable ∧ loaded.lastEnvironment ≠ db.lastEnvironment ∧ loaded.SameModel db ∧
      Snapshot.print loaded = Snapshot.print db ∧
      (∀ c ∈ sampleCommands, ¬ c.Creates) ∧
      loaded.answers (sampleCommands.map .apply) = db.answers (sampleCommands.map .apply) ∧
      ∃ reloaded, ofContents db.contents = .ok reloaded ∧ reloaded.Reachable ∧
        reloaded.SameModel db := by
  intro db loaded
  have hdb : db.Reachable := ⟨_, isStart_sampleContents, _, rfl⟩
  have hsame : loaded.SameModel db := rfl
  have hcommands : ∀ c ∈ sampleCommands, ¬ c.Creates := by decide
  obtain ⟨hprint, hrun⟩ := sameModel_congruence.1 loaded db
  exact ⟨hdb, by decide, hsame, hprint.1 hsame, hcommands, ((hrun hsame).2 _ hcommands).1,
    sameModel_congruence.2 db hdb⟩

end Database

end Choreography
