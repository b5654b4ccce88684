import Choreography.Proofs.Cascade
import Choreography.Proofs.Growth
import Choreography.Proofs.Rows

/-!
# What commands change in the services

The services show the environments, and of the steps each event once. Titles, attached environments
and diagrams without steps are not shown, and neither is a copy of steps that are there already.

- `Service.ofSteps_append_of_subset`: repeating steps behind all others declares nothing.
- `Service.sameDeclarations_ofSteps`: moving steps declares the same, perhaps in another order.
- `Consistent.services_of_unseen`, `Consistent.services_renameEnvironment`: the services after a
  command, with `Consistent.services_addEnvironment` for a new environment.
- `delete_copy` and `Consistent.delete_original`: what a deletion leaves of a diagram and its copy,
  which are the steps as they were or with some of them moved.
- `services_after_commands`: all of them, and the deletion of a diagram that has just been copied.
-/

namespace Choreography

/-! ## Repeated and moved steps -/

theorem eraseDups_append_of_subset {α : Type} [DecidableEq α] {l more : List α} (h : more ⊆ l) :
    (l ++ more).eraseDups = l.eraseDups := by
  have hnew : more.removeAll l = [] := by
    rw [List.removeAll, List.filter_eq_nil_iff]
    intro a ha
    simpa using h ha
  rw [List.eraseDups_append, hnew, List.eraseDups_nil, List.append_nil]

theorem perm_eraseDups {α : Type} [DecidableEq α] {l l' : List α} (h : l.Perm l') :
    l.eraseDups.Perm l'.eraseDups := by
  rw [List.perm_ext_iff_of_nodup (nodup_eraseDups l) (nodup_eraseDups l')]
  intro a
  rw [List.mem_eraseDups, List.mem_eraseDups, h.mem_iff]

namespace Service

variable {steps more : List Step}

/-- Steps that are repeated behind all others declare nothing new. -/
theorem ofSteps_append_of_subset (h : more ⊆ steps) (e : Environment) :
    ofSteps (steps ++ more) e = ofSteps steps e := by
  have hreceived : (receivedEvents (steps ++ more) e.id).eraseDups =
      (receivedEvents steps e.id).eraseDups := by
    rw [receivedEvents, List.filter_append, List.map_append]
    exact eraseDups_append_of_subset (List.map_subset _ (List.filter_subset _ h))
  have hsent : (sentEvents (steps ++ more) e.id).eraseDups =
      (sentEvents steps e.id).eraseDups := by
    rw [sentEvents, List.filter_append, List.map_append]
    exact eraseDups_append_of_subset (List.map_subset _ (List.filter_subset _ h))
  rw [ofSteps, hreceived, hsent, ofSteps]

/-- The services declare the same events, perhaps in another order. -/
structure SameDeclarations (s s' : Service) : Prop where
  id_eq : s'.id = s.id
  name_eq : s'.name = s.name
  operations : s'.operations.Perm s.operations
  calls : s'.calls.Perm s.calls

/-- The order of the steps decides about the order of the declarations only. -/
theorem sameDeclarations_ofSteps (h : more.Perm steps) (e : Environment) :
    SameDeclarations (ofSteps steps e) (ofSteps more e) where
  id_eq := rfl
  name_eq := rfl
  operations := perm_eraseDups ((h.filter _).map _)
  calls := perm_eraseDups ((h.filter _).map _)

end Service

/-- The command shows in no service: it changes no environment, and at most repeats steps. -/
def Command.Unseen : Command → Prop
  | .renameDiagram .. | .attachEnvironment .. | .addDiagram _ | .duplicateDiagram _ => True
  | .addEnvironment _ | .renameEnvironment .. | .deleteEnvironment _ | .deleteDiagram _
  | .addStep .. | .editStepEvent .. | .deleteStep .. => False

namespace Database

variable {db db' : Database}

/-! ## All steps after a change -/

/-- A change that leaves the steps of a diagram alone. -/
theorem allSteps_updateDiagram (id : DiagramId) {f : Diagram → Diagram}
    (hf : ∀ d, (f d).steps = d.steps) : (db.updateDiagram id f).allSteps = db.allSteps := by
  have hsteps : ∀ d : Diagram, (if d.id = id then f d else d).steps = d.steps := by
    intro d
    split
    · exact hf d
    · rfl
  simp only [allSteps, updateDiagram, List.flatMap_map, hsteps]

theorem allSteps_appendDiagram (db : Database) (d : Diagram) (last : Nat) :
    allSteps { db with diagrams := db.diagrams ++ [d], lastDiagram := last } =
      db.allSteps ++ d.steps := by
  simp [allSteps]

/-! ## The services after a change -/

theorem Consistent.services_congr (h : db.Consistent) (h' : db'.Consistent)
    (henvironments : db'.environments = db.environments)
    (hsteps : ∀ e, Service.ofSteps db'.allSteps e = Service.ofSteps db.allSteps e) :
    db'.services = db.services := by
  rw [h.services_eq, h'.services_eq, henvironments]
  exact congrArg _ (List.map_congr_left fun e _ => hsteps e)

/-- Moved steps are declared as before, perhaps in another order. -/
theorem Consistent.services_of_moved (h' : db'.Consistent)
    (henvironments : db'.environments = db.environments) (hsteps : db'.allSteps.Perm db.allSteps) :
    ∃ services', db'.services = .ok services' ∧ List.Forall₂ Service.SameDeclarations
      (db.environments.map (Service.ofSteps db.allSteps)) services' := by
  refine ⟨_, h'.services_eq, ?_⟩
  rw [henvironments]
  refine List.forall₂_map_left_iff.2 (List.forall₂_map_right_iff.2 (List.forall₂_same.2 ?_))
  exact fun e _ => Service.sameDeclarations_ofSteps hsteps e

/-- A change of titles, attached environments or diagrams, which repeats steps at most. -/
theorem Consistent.services_of_unseen (h : db.Consistent) {c : Command} {a : Answer}
    (hc : c.Unseen) (ht : Transition db c a db') : db'.services = db.services := by
  have h' := h.transition ht
  cases ht with
  | refused => rfl
  | diagramAdded title =>
    refine h.services_congr h' rfl fun e => ?_
    rw [addDiagram, allSteps_appendDiagram, List.append_nil]
  | diagramRenamed title | environmentAttached =>
    refine h.services_congr h' rfl fun e => congrArg (Service.ofSteps · e) ?_
    exact allSteps_updateDiagram _ fun _ => rfl
  | diagramCopied found =>
    refine h.services_congr h' rfl fun e => ?_
    rw [allSteps_appendDiagram]
    -- the steps of a copy repeat steps that are there, and declarations are counted once
    refine Service.ofSteps_append_of_subset (fun s hs => ?_) e
    exact mem_allSteps.2 ⟨_, diagram?_mem found, hs⟩
  | environmentAdded | environmentRenamed | environmentDeleted | diagramDeleted | stepAdded
  | eventEdited | stepDeleted => exact hc.elim

theorem Consistent.services_renameEnvironment (h : db.Consistent) {services : List Service}
    (hservices : db.services = .ok services) (id : EnvironmentId) (name : String) :
    (db.updateEnvironment id ({ · with name })).services =
      .ok (services.map fun s => if s.id = id then { s with name } else s) := by
  have hsteps : (db.updateEnvironment id ({ · with name })).allSteps = db.allSteps := rfl
  rw [h.services_eq] at hservices
  rw [(h.renameEnvironment id name).services_eq, ← Except.ok.inj hservices, hsteps,
    updateEnvironment, List.map_map, List.map_map]
  refine congrArg _ (List.map_congr_left fun e _ => ?_)
  by_cases he : e.id = id <;> simp [Service.ofSteps, he]

/-! ## A copy and its original -/

section Copied

variable {id : DiagramId} {d : Diagram}

/-- The database with a copy of a diagram under a new identifier. -/
def withCopy (db : Database) (d : Diagram) : Database :=
  { db with
    diagrams := db.diagrams ++ [{ d with id := db.freshDiagram.1 }]
    lastDiagram := db.freshDiagram.2 }

theorem apply_deleteDiagram_found (found : db.diagram? id = some d) :
    db.apply (.deleteDiagram id) =
      .ok (.applied, { db with diagrams := db.diagrams.filter (·.id ≠ id) }) := by
  rw [apply, deleteDiagram_found found]
  rfl

/-- Deleting the copy leaves nothing of it but its number. -/
theorem delete_copy (db : Database) (d : Diagram) :
    (db.withCopy d).apply (.deleteDiagram db.freshDiagram.1) =
      .ok (.applied, { db with lastDiagram := db.freshDiagram.2 }) := by
  have hnew : db.freshDiagram.1 ∉ db.diagrams.map (·.id) := not_mem_freshDiagram
  have hfound : (db.withCopy d).diagram? db.freshDiagram.1 =
      some { d with id := db.freshDiagram.1 } := by
    have hmissing := diagram?_eq_none_iff.2 hnew
    rw [diagram?] at hmissing ⊢
    rw [withCopy, List.find?_append, hmissing]
    simp
  have hleft : (db.withCopy d).diagrams.filter (·.id ≠ db.freshDiagram.1) = db.diagrams := by
    rw [withCopy, List.filter_append, filter_key_of_not_mem hnew]
    simp
  rw [apply_deleteDiagram_found hfound, hleft]
  rfl

/-- Deleting the original moves its steps behind all others. -/
theorem Consistent.delete_original (h : db.Consistent) (found : db.diagram? id = some d) :
    ∃ after, (db.withCopy d).apply (.deleteDiagram id) = .ok (.applied, after) ∧
      after.environments = db.environments ∧ after.allSteps.Perm db.allSteps := by
  have hfound : (db.withCopy d).diagram? id = some d := diagram?_append _ _ found
  refine ⟨_, apply_deleteDiagram_found hfound, rfl, ?_⟩
  obtain rfl := diagram?_id found
  have hcopy : db.freshDiagram.1 ≠ d.id := fun heq =>
    not_mem_freshDiagram (List.mem_map.2 ⟨d, diagram?_mem found, heq.symm⟩)
  obtain ⟨before, rest, hplace, hleft⟩ := exists_split_of_key h.diagrams_nodup (diagram?_mem found)
  have hmoved : (db.withCopy d).diagrams.filter (·.id ≠ d.id) =
      before ++ rest ++ [{ d with id := db.freshDiagram.1 }] := by
    rw [withCopy, List.filter_append, hleft, List.filter_cons_of_pos (by simpa using hcopy),
      List.filter_nil]
  rw [allSteps, allSteps, hmoved, hplace]
  simp only [List.flatMap_append, List.flatMap_cons, List.flatMap_nil, List.append_nil,
    List.append_assoc]
  exact List.perm_append_comm.append_left _

end Copied

/-- For a reachable database: what the services are after an accepted command. Commands that only
deal with titles, attached environments, empty diagrams or copies change nothing. A new name shows
in the service that it was given to, and a new environment is one more service without
declarations. If a diagram is deleted right after it has been copied, then it does not matter for
what is declared which of the two is deleted. -/
theorem services_after_commands (h : db.Reachable) :
    ∃ services, db.services = .ok services ∧ (services.map (·.id)).Nodup ∧
      (∀ c outcome db', c.Unseen → db.apply c = .ok (outcome, db') →
        db'.services = .ok services) ∧
      (∀ id name outcome db', db.apply (.renameEnvironment id name) = .ok (outcome, db') →
        id ∈ services.map (·.id) ∧
          db'.services = .ok (services.map fun s => if s.id = id then { s with name } else s)) ∧
      (∀ name outcome db', db.apply (.addEnvironment name) = .ok (outcome, db') →
        ∃ id, outcome = .environmentCreated id ∧ db'.services =
          .ok (services ++ [{ id, name, operations := [], calls := [] }])) ∧
      ∀ id copy copied, db.apply (.duplicateDiagram id) = .ok (.diagramCreated copy, copied) →
        (∃ after, copied.apply (.deleteDiagram copy) = .ok (.applied, after) ∧
          after.services = .ok services) ∧
        ∃ after services', copied.apply (.deleteDiagram id) = .ok (.applied, after) ∧
          after.services = .ok services' ∧
            List.Forall₂ Service.SameDeclarations services services' := by
  have hdb := h.consistent
  have hservices := hdb.services_eq
  have hids : (db.environments.map (Service.ofSteps db.allSteps)).map (·.id) =
      db.environments.map (·.id) := by
    rw [List.map_map]
    rfl
  refine ⟨_, hservices, hids ▸ hdb.environments_nodup, ?unseen, ?renamed, ?added, ?copied⟩
  case unseen =>
    intro c outcome db' hc happly
    rw [hdb.services_of_unseen hc (transition_apply happly), hservices]
  case renamed =>
    intro id name outcome db' happly
    cases transition_apply happly with
    | environmentRenamed _ known =>
      exact ⟨hids ▸ hasEnvironment_iff.1 known, hdb.services_renameEnvironment hservices id name⟩
  case added =>
    intro name outcome db' happly
    cases transition_apply happly with
    | environmentAdded =>
      exact ⟨_, rfl, hdb.services_addEnvironment hservices name⟩
  case copied =>
    intro id copy copied happly
    have hcopied := hdb.transition (transition_apply happly)
    cases transition_apply happly with
    | diagramCopied found =>
      refine ⟨⟨_, delete_copy db _, hservices⟩, ?_⟩
      -- the steps of the copy take the place of the deleted ones, but at the end
      obtain ⟨after, hdeleted, henvironments, hsteps⟩ := hdb.delete_original found
      have hafter := hcopied.transition (transition_apply hdeleted)
      obtain ⟨services', hservices', hsame⟩ := hafter.services_of_moved henvironments hsteps
      exact ⟨after, services', hdeleted, hservices', hsame⟩

/-- Two diagrams that send one event each. -/
def sampleRequests : Contents where
  environments := [⟨⟨"env-1"⟩, "Shop"⟩, ⟨⟨"env-2"⟩, "Bank"⟩]
  diagrams :=
    [ ⟨⟨"order"⟩, "Order", .ofList [⟨"env-1"⟩], [⟨⟨"env-1"⟩, ⟨"env-2"⟩, "pay"⟩]⟩
    , ⟨⟨"refund"⟩, "Refund", ∅, [⟨⟨"env-1"⟩, ⟨"env-2"⟩, "claim"⟩]⟩ ]

/-- Deleting a copied original can change the order of the declarations. -/
theorem services_after_commands_sample :
    let db := sampleRequests.database
    let services : List Service :=
      [⟨⟨"env-1"⟩, "Shop", [], ["pay", "claim"]⟩, ⟨⟨"env-2"⟩, "Bank", ["pay", "claim"], []⟩]
    let moved : List Service :=
      [⟨⟨"env-1"⟩, "Shop", [], ["claim", "pay"]⟩, ⟨⟨"env-2"⟩, "Bank", ["claim", "pay"], []⟩]
    db.Reachable ∧ db.services = .ok services ∧
    (∃ db', db.apply (.attachEnvironment ⟨"order"⟩ ⟨"env-2"⟩) = .ok (.applied, db') ∧
      db'.services = .ok services) ∧
    (∃ db', db.apply (.renameEnvironment ⟨"env-2"⟩ "Post") = .ok (.applied, db') ∧
      db'.services = .ok
        [⟨⟨"env-1"⟩, "Shop", [], ["pay", "claim"]⟩, ⟨⟨"env-2"⟩, "Post", ["pay", "claim"], []⟩]) ∧
    (∃ db', db.apply (.addEnvironment "Post") = .ok (.environmentCreated ⟨"env-3"⟩, db') ∧
      db'.services = .ok (services ++ [⟨⟨"env-3"⟩, "Post", [], []⟩])) ∧
    ∃ copied after, db.apply (.duplicateDiagram ⟨"order"⟩) =
        .ok (.diagramCreated ⟨"diagram-1"⟩, copied) ∧
      copied.apply (.deleteDiagram ⟨"order"⟩) = .ok (.applied, after) ∧
      after.services = .ok moved ∧ List.Forall₂ Service.SameDeclarations services moved := by
  intro db services moved
  have hdb : db.Reachable :=
    (IsStart.of_ofContents (by decide : ofContents sampleRequests = .ok db)).reachable
  obtain ⟨found, hfound, -, hunseen, hrenamed, hadded, hcopied⟩ := services_after_commands hdb
  have hservices : db.services = .ok services := by decide
  rw [hservices] at hfound
  cases hfound
  refine ⟨hdb, hservices, ?attached, ?renamed, ?added, ?copied⟩
  case attached =>
    exact ⟨_, rfl, hunseen (.attachEnvironment ⟨"order"⟩ ⟨"env-2"⟩) .applied _ trivial rfl⟩
  case renamed => exact ⟨_, rfl, (hrenamed ⟨"env-2"⟩ "Post" .applied _ rfl).2⟩
  case added =>
    have happly : db.apply (.addEnvironment "Post") = .ok (.environmentCreated ⟨"env-3"⟩,
        { db with
          environments := db.environments ++ [⟨⟨"env-3"⟩, "Post"⟩]
          lastEnvironment := 3 }) := by
      decide
    obtain ⟨id, houtcome, hgrown⟩ := hadded "Post" (.environmentCreated ⟨"env-3"⟩) _ happly
    cases houtcome
    exact ⟨_, happly, hgrown⟩
  case copied =>
    let copy : Diagram :=
      ⟨⟨"diagram-1"⟩, "Order", .ofList [⟨"env-1"⟩], [⟨⟨"env-1"⟩, ⟨"env-2"⟩, "pay"⟩]⟩
    have happly : db.apply (.duplicateDiagram ⟨"order"⟩) = .ok (.diagramCreated ⟨"diagram-1"⟩,
        { db with diagrams := db.diagrams ++ [copy], lastDiagram := 1 }) := by
      decide
    obtain ⟨-, after, left, hdeleted, hleft, hsame⟩ := hcopied ⟨"order"⟩ ⟨"diagram-1"⟩ _ happly
    have hmoved : after.services = .ok moved := by
      cases hdeleted
      decide
    rw [hmoved] at hleft
    cases hleft
    exact ⟨_, after, happly, hdeleted, hmoved, hsame⟩

end Database

end Choreography
