import Choreography.Proofs.Attachment

/-!
# Edits of steps can be undone

- `Database.Edited`: the steps of one diagram are changed as a list is, and the ends of a new step
  are attached to it. All else in the database is where and as it was.
- `edited_addStep`, `edited_editStepEvent`, `edited_deleteStep`: what each accepted command does.
- `Diagram.eraseStep_insertStep` and `Diagram.restore_eraseStep`: an added step is deleted again,
  and a deleted one is put back.
- `step_edits_undone`: the same for databases.
-/

namespace Choreography

/-! ## Diagrams -/

/-- Of two ends, those that are new are attached, in their order. -/
theorem OrderedSet.toList_insert_insert {α : Type} [DecidableEq α] (s : OrderedSet α) {a b : α}
    (h : a ≠ b) : ((s.insert a).insert b).toList = s.toList ++ [a, b].filter (· ∉ s) := by
  have hb : [b].filter (· ∉ s.insert a) = [b].filter (· ∉ s) := by
    refine List.filter_congr fun x hx => ?_
    simp [List.mem_singleton.1 hx, h.symm]
  rw [toList_insert, toList_insert, hb, List.append_assoc, ← List.filter_append]
  rfl

namespace Diagram

/-- The steps of a diagram are changed, and some environments are attached, unless they were
before. -/
structure Edited (change : List Step → List Step) (ends : List EnvironmentId) (d d' : Diagram) :
    Prop where
  same_id : d'.id = d.id
  same_title : d'.title = d.title
  steps : d'.steps = change d.steps
  /-- The order of those that were attached before stays. -/
  environments : d'.environments.toList =
    d.environments.toList ++ ends.filter (· ∉ d.environments)

variable {d : Diagram}

theorem steps_insertStep (d : Diagram) (index : Nat) (s : Step) :
    (d.insertStep index s).steps = d.steps.insertIdx index s := rfl

theorem edited_insertStep {s : Step} (index : Nat) (h : s.sender ≠ s.receiver) :
    Edited (·.insertIdx index s) [s.sender, s.receiver] d (d.insertStep index s) where
  same_id := rfl
  same_title := rfl
  steps := rfl
  environments := d.environments.toList_insert_insert h

theorem edited_setEvent (index : Nat) (event : String) :
    Edited (·.modify index ({ · with event })) [] d (d.setEvent index event) where
  same_id := rfl
  same_title := rfl
  steps := rfl
  environments := (List.append_nil _).symm

theorem edited_eraseStep (index : Nat) :
    Edited (·.eraseIdx index) [] d (d.eraseStep index) where
  same_id := rfl
  same_title := rfl
  steps := rfl
  environments := (List.append_nil _).symm

/-- Of an added step that is deleted again, the attached ends stay. -/
theorem eraseStep_insertStep (d : Diagram) (index : Nat) (s : Step) :
    (d.insertStep index s).eraseStep index = (d.attach s.sender).attach s.receiver := by
  simp only [eraseStep, insertStep, List.eraseIdx_insertIdx_self]

theorem edited_attach {sender receiver : EnvironmentId} (h : sender ≠ receiver) :
    Edited (fun steps => steps) [sender, receiver] d ((d.attach sender).attach receiver) where
  same_id := rfl
  same_title := rfl
  steps := rfl
  environments := d.environments.toList_insert_insert h

/-- A deleted step is put back without its event, and then gets it. -/
theorem restore_eraseStep {index : Nat} {s : Step} (hs : d.steps[index]? = some s)
    (hsender : s.sender ∈ d.environments) (hreceiver : s.receiver ∈ d.environments) :
    ((d.eraseStep index).insertStep index { s with event := "" }).setEvent index s.event = d := by
  obtain ⟨hi, rfl⟩ := List.getElem?_eq_some_iff.1 hs
  -- the ends are attached still, so the insertion attaches nothing
  have hattached : (d.environments.insert d.steps[index].sender).insert d.steps[index].receiver =
      d.environments := by
    rw [OrderedSet.insert_of_mem hsender, OrderedSet.insert_of_mem hreceiver]
  have hsteps : ((d.steps.eraseIdx index).insertIdx index
      { d.steps[index] with event := "" }).modify index
        ({ · with event := d.steps[index].event }) = d.steps := by
    rw [List.insertIdx_eraseIdx_self (Nat.ne_of_lt hi)]
    apply List.ext_getElem
    · simp
    · intro i _ _
      rw [List.getElem_modify, List.getElem_set]
      by_cases h : index = i
      · subst h
        simp
      · simp [h]
  simp only [setEvent, insertStep, attach, eraseStep, hattached, hsteps]

end Diagram

/-! ## Databases -/

namespace Database

variable {db db' : Database} {id : DiagramId} {d : Diagram} {change : List Step → List Step}
variable {ends : List EnvironmentId} {sender receiver : EnvironmentId} {index : Nat}
variable {outcome : Outcome}

/-- The steps of one diagram are changed and the ends attached, and nothing else: all other
diagrams, the environments, the counters and every order stay. -/
def Edited (id : DiagramId) (change : List Step → List Step) (ends : List EnvironmentId)
    (db db' : Database) : Prop :=
  ∃ d d' before rest, d.id = id ∧ db.diagrams = before ++ d :: rest ∧
    db' = { db with diagrams := before ++ d' :: rest } ∧ Diagram.Edited change ends d d'

/-- Where identifiers do not repeat, a change of a diagram happens at one place. -/
theorem Consistent.exists_updateDiagram (h : db.Consistent) (hd : db.diagram? id = some d) :
    ∃ before rest, db.diagrams = before ++ d :: rest ∧ ∀ f : Diagram → Diagram,
      db.updateDiagram id f = { db with diagrams := before ++ f d :: rest } := by
  obtain ⟨before, rest, hsplit⟩ := List.append_of_mem (diagram?_mem hd)
  have hid := diagram?_id hd
  have hnodup := h.diagrams_nodup
  rw [hsplit, List.map_append, List.map_cons, List.nodup_middle, List.nodup_cons,
    ← List.map_append, hid] at hnodup
  have hothers : ∀ f : Diagram → Diagram, ∀ x ∈ before ++ rest,
      (if x.id = id then f x else x) = x := fun f x hx =>
    if_neg fun heq => hnodup.1 (List.mem_map.2 ⟨x, hx, heq⟩)
  refine ⟨before, rest, hsplit, fun f => ?_⟩
  obtain ⟨hbefore, hrest⟩ := List.forall_mem_append.1 (hothers f)
  rw [Database.updateDiagram, hsplit, List.map_append, List.map_cons, if_pos hid,
    List.map_congr_left hbefore, List.map_congr_left hrest, List.map_id', List.map_id']

theorem Consistent.edited_updateDiagram (h : db.Consistent) (hd : db.diagram? id = some d)
    {f : Diagram → Diagram} (hf : Diagram.Edited change ends d (f d)) :
    Edited id change ends db (db.updateDiagram id f) := by
  obtain ⟨before, rest, hsplit, hupdate⟩ := h.exists_updateDiagram hd
  exact ⟨d, f d, before, rest, diagram?_id hd, hsplit, hupdate f, hf⟩

theorem Consistent.updateDiagram_eq_self (h : db.Consistent) (hd : db.diagram? id = some d)
    {f : Diagram → Diagram} (hf : f d = d) : db.updateDiagram id f = db := by
  obtain ⟨before, rest, hsplit, hupdate⟩ := h.exists_updateDiagram hd
  rw [hupdate, hf, ← hsplit]

/-! ## Accepted commands -/

theorem Consistent.edited_addStep (h : db.Consistent)
    (happly : db.apply (.addStep id sender receiver index) = .ok (outcome, db')) :
    Edited id (·.insertIdx index ⟨sender, receiver, ""⟩) [sender, receiver] db db' := by
  cases transition_apply happly with
  | stepAdded found allowed =>
    have hne := (endpointViolation?_eq_none_iff.1 allowed).1
    exact h.edited_updateDiagram found (Diagram.edited_insertStep index hne)

theorem Consistent.edited_editStepEvent (h : db.Consistent) {event : String}
    (happly : db.apply (.editStepEvent id index event) = .ok (outcome, db')) :
    Edited id (·.modify index ({ · with event })) [] db db' := by
  cases transition_apply happly with
  | eventEdited _ found => exact h.edited_updateDiagram found (Diagram.edited_setEvent index event)

theorem Consistent.edited_deleteStep (h : db.Consistent)
    (happly : db.apply (.deleteStep id index) = .ok (outcome, db')) :
    Edited id (·.eraseIdx index) [] db db' := by
  cases transition_apply happly with
  | stepDeleted found => exact h.edited_updateDiagram found (Diagram.edited_eraseStep index)

theorem apply_addStep (h : db.addStep id sender receiver index = .ok db') :
    db.apply (.addStep id sender receiver index) = .ok (.applied, db') := by
  rw [apply, h]
  rfl

theorem apply_editStepEvent {event : String} (h : db.editStepEvent id index event = .ok db') :
    db.apply (.editStepEvent id index event) = .ok (.applied, db') := by
  rw [apply, h]
  rfl

theorem apply_deleteStep {s : Step} (h : db.deleteStep id index = .ok (s, db')) :
    db.apply (.deleteStep id index) = .ok (.applied, db') := by
  rw [apply, h]
  rfl

/-- An added step is deleted again. -/
theorem Consistent.deleteStep_addStep (h : db.Consistent)
    (happly : db.apply (.addStep id sender receiver index) = .ok (outcome, db')) :
    ∃ undone, db'.deleteStep id index = .ok (⟨sender, receiver, ""⟩, undone) ∧
      Edited id (fun steps => steps) [sender, receiver] db undone := by
  cases transition_apply happly with
  | @stepAdded _ d _ _ _ found allowed inside =>
    have hne := (endpointViolation?_eq_none_iff.1 allowed).1
    have hadded := diagram?_updateDiagram_self found
      (f := (·.insertStep index ⟨sender, receiver, ""⟩)) fun _ => rfl
    -- the deletion finds the new step at its index, and what is left of it are the attached ends
    have hlength : index < (d.insertStep index ⟨sender, receiver, ""⟩).steps.length := by
      rw [Diagram.steps_insertStep, List.length_insertIdx_of_le_length inside]
      exact Nat.lt_succ_of_le inside
    have hstep : (d.insertStep index ⟨sender, receiver, ""⟩).steps[index] =
        ⟨sender, receiver, ""⟩ := List.getElem_insertIdx_self hlength
    have hdeleted := deleteStep_found hadded hlength
    rw [hstep] at hdeleted
    refine ⟨_, hdeleted, ?_⟩
    rw [updateDiagram_updateDiagram (f := (·.insertStep index _)) fun _ => rfl]
    refine h.edited_updateDiagram found ?_
    rw [Diagram.eraseStep_insertStep]
    exact Diagram.edited_attach hne

section Restored

variable {s : Step}

/-- The ends of a deleted step are allowed as before, and its place is there. -/
theorem Consistent.addStep_eraseStep (h : db.Consistent) (found : db.diagram? id = some d)
    (hs : d.steps[index]? = some s) :
    (db.updateDiagram id (·.eraseStep index)).addStep id s.sender s.receiver index =
      .ok (db.updateDiagram id fun d =>
        (d.eraseStep index).insertStep index { s with event := "" }) := by
  obtain ⟨inside, rfl⟩ := List.getElem?_eq_some_iff.1 hs
  have hends := (h.sound d (diagram?_mem found)).steps _ (List.getElem_mem inside)
  have hfound := diagram?_updateDiagram_self found (f := (·.eraseStep index)) fun _ => rfl
  have hinside : index ≤ (d.steps.eraseIdx index).length := by
    rw [List.length_eraseIdx_of_lt inside]
    exact Nat.le_sub_one_of_lt inside
  rw [addStep_allowed hfound (endpointViolation?_eq_none_iff.2 hends) hinside,
    updateDiagram_updateDiagram (f := (·.eraseStep index)) fun _ => rfl]

/-- Its event makes up for the change, if its ends have been attached all the time. -/
theorem Consistent.editStepEvent_insertStep (h : db.Consistent) (hends : db.EndsAttached)
    (found : db.diagram? id = some d) (hs : d.steps[index]? = some s) :
    (db.updateDiagram id fun d =>
      (d.eraseStep index).insertStep index { s with event := "" }).editStepEvent
        id index s.event = .ok db := by
  obtain ⟨inside, -⟩ := List.getElem?_eq_some_iff.1 hs
  have hfound := diagram?_updateDiagram_self found
    (f := fun d => (d.eraseStep index).insertStep index { s with event := "" }) fun _ => rfl
  have hinside :
      index < ((d.steps.eraseIdx index).insertIdx index { s with event := "" }).length := by
    have hlength := List.length_eraseIdx_of_lt inside
    rw [List.length_insertIdx_of_le_length (by omega)]
    omega
  obtain ⟨hsender, hreceiver⟩ := hends d (diagram?_mem found) s (List.mem_of_getElem? hs)
  have hrestored := Diagram.restore_eraseStep hs hsender hreceiver
  rw [editStepEvent_found s.event hfound hinside, updateDiagram_updateDiagram
    (f := fun d => (d.eraseStep index).insertStep index { s with event := "" }) fun _ => rfl,
    h.updateDiagram_eq_self found hrestored]

end Restored

/-- In every consistent database, as all reachable ones are: an accepted command on the steps of a
diagram changes them as it would change a list, and attaches the ends of a new step behind the
environments that are attached already; nothing else changes. An added step is deleted again by the
next command, which answers with it, and of both only the new attached ends stay. A deleted step is
put back by two commands, if the ends of steps are attached: the database is then the same. -/
theorem step_edits_undone (h : db.Consistent) :
    (∀ id sender receiver index outcome added,
      db.apply (.addStep id sender receiver index) = .ok (outcome, added) →
      Edited id (·.insertIdx index ⟨sender, receiver, ""⟩) [sender, receiver] db added ∧
      ∃ undone, added.deleteStep id index = .ok (⟨sender, receiver, ""⟩, undone) ∧
        added.apply (.deleteStep id index) = .ok (.applied, undone) ∧
        Edited id (fun steps => steps) [sender, receiver] db undone) ∧
    (∀ id index outcome deleted, db.apply (.deleteStep id index) = .ok (outcome, deleted) →
      Edited id (·.eraseIdx index) [] db deleted ∧
      (db.EndsAttached → ∃ d s added, db.diagram? id = some d ∧ d.steps[index]? = some s ∧
        db.deleteStep id index = .ok (s, deleted) ∧
        deleted.apply (.addStep id s.sender s.receiver index) = .ok (.applied, added) ∧
        added.apply (.editStepEvent id index s.event) = .ok (.applied, db))) ∧
    ∀ id index event outcome edited,
      db.apply (.editStepEvent id index event) = .ok (outcome, edited) →
      Edited id (·.modify index ({ · with event })) [] db edited := by
  refine ⟨?added, ?deleted, fun id index event outcome edited => h.edited_editStepEvent⟩
  case added =>
    intro id sender receiver index outcome added happly
    obtain ⟨undone, hdeleted, hundone⟩ := h.deleteStep_addStep happly
    exact ⟨h.edited_addStep happly, undone, hdeleted, apply_deleteStep hdeleted, hundone⟩
  case deleted =>
    intro id index outcome deleted happly
    refine ⟨h.edited_deleteStep happly, fun hends => ?_⟩
    cases transition_apply happly with
    | stepDeleted found inside =>
      have hs := List.getElem?_eq_getElem inside
      -- the step is put back without its event, which the edit restores; its ends are attached
      -- still
      exact ⟨_, _, _, found, hs, deleteStep_found found inside,
        apply_addStep (h.addStep_eraseStep found hs),
        apply_editStepEvent (h.editStepEvent_insertStep hends found hs)⟩

/-- A step is added behind the last one, from an environment that the diagram did not show; and the
last step is deleted and put back. -/
theorem step_edits_undone_sample :
    let db := (sampleDelivery.database.addEnvironment "Mail").2
    let order : DiagramId := ⟨"order"⟩
    let environments : List EnvironmentId := [⟨"env-2"⟩, ⟨"env-3"⟩, ⟨"env-1"⟩]
    let steps : List Step := [⟨⟨"env-1"⟩, ⟨"env-2"⟩, "pay"⟩, ⟨⟨"env-2"⟩, ⟨"env-3"⟩, "send"⟩]
    let showing (environments : List EnvironmentId) (steps : List Step) : Database :=
      { db with diagrams := [⟨order, "Order", .ofList environments, steps⟩] }
    (db.Consistent ∧ db.EndsAttached ∧ db = showing environments steps) ∧
    (∃ added undone, db.apply (.addStep order ⟨"env-4"⟩ ⟨"env-1"⟩ 2) = .ok (.applied, added) ∧
      added.deleteStep order 2 = .ok (⟨⟨"env-4"⟩, ⟨"env-1"⟩, ""⟩, undone) ∧
      undone = showing (environments ++ [⟨"env-4"⟩]) steps) ∧
    ∃ deleted added, db.deleteStep order 1 = .ok (⟨⟨"env-2"⟩, ⟨"env-3"⟩, "send"⟩, deleted) ∧
      deleted = showing environments (steps.take 1) ∧
      deleted.apply (.addStep order ⟨"env-2"⟩ ⟨"env-3"⟩ 1) = .ok (.applied, added) ∧
      added = showing environments (steps.take 1 ++ [⟨⟨"env-2"⟩, ⟨"env-3"⟩, ""⟩]) ∧
      added.apply (.editStepEvent order 1 "send") = .ok (.applied, db) := by
  intro db order environments steps showing
  have hstart : ofContents sampleDelivery = .ok sampleDelivery.database := by decide
  have h : db.Consistent := (IsStart.of_ofContents hstart).consistent.addEnvironment "Mail"
  have hattached : db.EndsAttached := by decide
  let grown := showing (environments ++ [⟨"env-4"⟩]) (steps ++ [⟨⟨"env-4"⟩, ⟨"env-1"⟩, ""⟩])
  let left := showing environments (steps.take 1)
  have hadd : db.apply (.addStep order ⟨"env-4"⟩ ⟨"env-1"⟩ 2) = .ok (.applied, grown) := by decide
  have hdelete : db.apply (.deleteStep order 1) = .ok (.applied, left) := by decide
  obtain ⟨hadded, hdeleted, -⟩ := step_edits_undone h
  obtain ⟨-, undone, hundone, -, -⟩ := hadded _ _ _ _ _ _ hadd
  obtain ⟨-, hrestored⟩ := hdeleted _ _ _ _ hdelete
  obtain ⟨d, s, added, hd, hs, hanswer, hagain, hevent⟩ := hrestored hattached
  cases hd
  cases hs
  refine ⟨⟨h, hattached, by decide⟩, ⟨grown, undone, hadd, hundone, ?_⟩,
    left, added, hanswer, rfl, hagain, ?_, hevent⟩
  · have heq : grown.deleteStep order 2 = .ok (⟨⟨"env-4"⟩, ⟨"env-1"⟩, ""⟩,
      showing (environments ++ [⟨"env-4"⟩]) steps) := by decide
    exact (Prod.mk.inj (Except.ok.inj (hundone.symm.trans heq))).2
  · have heq : left.apply (.addStep order ⟨"env-2"⟩ ⟨"env-3"⟩ 1) = .ok (.applied,
      showing environments (steps.take 1 ++ [⟨⟨"env-2"⟩, ⟨"env-3"⟩, ""⟩])) := by decide
    exact (Prod.mk.inj (Except.ok.inj (hagain.symm.trans heq))).2

end Database

end Choreography
