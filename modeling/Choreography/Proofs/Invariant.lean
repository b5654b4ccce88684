import Choreography.Proofs.Consistency
import Choreography.Proofs.History
import Choreography.Proofs.Numbering

/-!
# Operations keep a database consistent

- `Consistent.transition`: one case for each kind of operation. Changing one diagram, adding one
  and dropping some are handled once each (`Consistent.updateDiagram`, `Consistent.addDiagram`,
  `Consistent.deleteDiagram`).
- `rules_hold_in_runs`: all states of all runs.
-/

namespace Choreography

namespace Database

variable {db : Database}

/-! ## Identifiers after a change -/

theorem environment_ids_updateEnvironment (id : EnvironmentId) (name : String) :
    (db.updateEnvironment id ({ · with name })).environments.map (·.id) =
      db.environments.map (·.id) := by
  simp only [updateEnvironment, List.map_map]
  refine List.map_congr_left fun e _ => ?_
  simp only [Function.comp]
  split <;> rfl

theorem diagram_ids_updateDiagram {id : DiagramId} {f : Diagram → Diagram}
    (hf : ∀ d, (f d).id = d.id) :
    (db.updateDiagram id f).diagrams.map (·.id) = db.diagrams.map (·.id) := by
  simp only [updateDiagram, List.map_map]
  refine List.map_congr_left fun d _ => ?_
  simp only [Function.comp]
  split
  · exact hf d
  · rfl

theorem hasEnvironment_congr {db' : Database}
    (h : db'.environments.map (·.id) = db.environments.map (·.id)) (id : EnvironmentId) :
    db'.hasEnvironment id = db.hasEnvironment id := by
  rw [Bool.eq_iff_iff, hasEnvironment_iff, hasEnvironment_iff, h]

theorem not_mem_freshDiagram : db.freshDiagram.1 ∉ db.diagrams.map (·.id) :=
  Identifier.fresh_not_mem _ _

/-! ## What each change keeps -/

namespace Consistent

theorem empty : Consistent {} where
  environments_nodup := List.nodup_nil
  diagrams_nodup := List.nodup_nil
  sound _ hd := nomatch hd

theorem addEnvironment (h : db.Consistent) (name : String) :
    (db.addEnvironment name).2.Consistent where
  environments_nodup := by
    have hfresh := Identifier.fresh_not_mem db.lastEnvironment (db.environments.map (·.id))
    simp only [Database.addEnvironment, List.map_append, List.map_cons, List.map_nil]
    rw [← List.concat_eq_append]
    exact .concat hfresh h.environments_nodup
  diagrams_nodup := h.diagrams_nodup
  sound d hd := (h.sound d hd).mono fun id hid => by
    rw [hasEnvironment_iff] at hid ⊢
    simp only [Database.addEnvironment, List.map_append, List.mem_append]
    exact .inl hid

theorem renameEnvironment (h : db.Consistent) (id : EnvironmentId) (name : String) :
    (db.updateEnvironment id ({ · with name })).Consistent where
  environments_nodup := by
    rw [environment_ids_updateEnvironment]
    exact h.environments_nodup
  diagrams_nodup := h.diagrams_nodup
  sound d hd := (h.sound d hd).mono fun x hx => by
    rw [hasEnvironment_congr (environment_ids_updateEnvironment id name)]
    exact hx

theorem deleteEnvironment (h : db.Consistent) (id : EnvironmentId) :
    Consistent { db with
      environments := db.environments.filter (·.id ≠ id)
      diagrams := db.diagrams.map (·.purge id) } where
  environments_nodup := h.environments_nodup.sublist (List.filter_sublist.map _)
  diagrams_nodup := by
    rw [List.map_map]
    exact h.diagrams_nodup
  sound d hd := by
    obtain ⟨old, hold, rfl⟩ := List.mem_map.1 hd
    refine ((h.sound old hold).purge id).mono fun x hx => ?_
    obtain ⟨hx, hne⟩ := hx
    obtain ⟨e, he, rfl⟩ := List.mem_map.1 (hasEnvironment_iff.1 hx)
    exact hasEnvironment_iff.2 (List.mem_map.2 ⟨e, List.mem_filter.2 ⟨he, by simpa using hne⟩, rfl⟩)

/-- A new diagram has to be sound, and its identifier new. -/
theorem appendDiagram (h : db.Consistent) {d : Diagram} (last : Nat)
    (hnew : d.id ∉ db.diagrams.map (·.id)) (hd : d.Sound (db.hasEnvironment ·)) :
    Consistent { db with diagrams := db.diagrams ++ [d], lastDiagram := last } where
  environments_nodup := h.environments_nodup
  diagrams_nodup := by
    simp only [List.map_append, List.map_cons, List.map_nil]
    rw [← List.concat_eq_append]
    exact .concat hnew h.diagrams_nodup
  sound x hx := by
    rcases List.mem_append.1 hx with hx | hx
    · exact h.sound x hx
    · rw [List.mem_singleton.1 hx]
      exact hd

theorem deleteDiagram (h : db.Consistent) (id : DiagramId) :
    Consistent { db with diagrams := db.diagrams.filter (·.id ≠ id) } where
  environments_nodup := h.environments_nodup
  diagrams_nodup := h.diagrams_nodup.sublist (List.filter_sublist.map _)
  sound d hd := h.sound d (List.mem_of_mem_filter hd)

/-- A changed diagram has to stay sound, and to keep its identifier. -/
theorem updateDiagram (h : db.Consistent) (id : DiagramId) {f : Diagram → Diagram}
    (hid : ∀ d, (f d).id = d.id)
    (hf : ∀ d : Diagram, d.Sound (db.hasEnvironment ·) → (f d).Sound (db.hasEnvironment ·)) :
    (db.updateDiagram id f).Consistent where
  environments_nodup := h.environments_nodup
  diagrams_nodup := by
    rw [diagram_ids_updateDiagram hid]
    exact h.diagrams_nodup
  sound d hd := by
    obtain ⟨old, hold, rfl⟩ := List.mem_map.1 hd
    split
    · exact hf old (h.sound old hold)
    · exact h.sound old hold

/-- Every operation keeps a database consistent. -/
theorem transition {db' : Database} {c : Command} {a : Answer} (h : db.Consistent)
    (ht : Transition db c a db') : db'.Consistent := by
  cases ht with
  | refused => exact h
  | environmentAdded name => exact h.addEnvironment name
  | environmentRenamed name => exact h.renameEnvironment _ name
  | environmentDeleted => exact h.deleteEnvironment _
  | diagramAdded title => exact h.appendDiagram _ not_mem_freshDiagram (.blank _ title)
  | diagramDeleted => exact h.deleteDiagram _
  | diagramCopied found =>
    exact h.appendDiagram _ not_mem_freshDiagram ((h.sound _ (diagram?_mem found)).congr rfl rfl)
  | diagramRenamed title => exact h.updateDiagram _ (fun _ => rfl) fun d hd => hd.congr rfl rfl
  | environmentAttached _ known =>
    exact h.updateDiagram _ (fun _ => rfl) fun d hd => hd.attach known
  | stepAdded _ allowed =>
    obtain ⟨hne, hsender, hreceiver⟩ := endpointViolation?_eq_none_iff.1 allowed
    exact h.updateDiagram _ (fun _ => rfl) fun d hd => hd.insertStep _ hne hsender hreceiver
  | eventEdited event => exact h.updateDiagram _ (fun _ => rfl) fun d hd => hd.setEvent _ event
  | stepDeleted => exact h.updateDiagram _ (fun _ => rfl) fun d hd => hd.eraseStep _

theorem perform (h : db.Consistent) (op : Operation) : (db.perform op).2.Consistent :=
  h.transition (transition_perform db op)

theorem run (h : db.Consistent) (ops : List Operation) : (db.run ops).Consistent :=
  run_induction (fun _ op h => h.perform op) h ops

end Consistent

/-! ## Reachable databases -/

theorem IsStart.consistent (h : db.IsStart) : db.Consistent := by
  rcases h with rfl | ⟨c, hc⟩
  · exact .empty
  · obtain ⟨h, rfl⟩ := ofContents_eq_ok_iff.1 hc
    exact h

theorem Reachable.consistent (h : db.Reachable) : db.Consistent := by
  obtain ⟨start, hs, ops, rfl⟩ := h
  exact hs.consistent.run ops

/-- The rules of the model hold in every state of every run: identifiers do not repeat and find
what they belong to, and the references of each diagram are sound. So validation accepts every
state. -/
theorem rules_hold_in_runs {start db : Database} {ops : List Operation} (hs : start.IsStart)
    (hdb : db ∈ start.states ops) :
    ((db.environments.map (·.id)).Nodup ∧
      ∀ id e, db.environment? id = some e ↔ e ∈ db.environments ∧ e.id = id) ∧
    ((db.diagrams.map (·.id)).Nodup ∧
      ∀ id d, db.diagram? id = some d ↔ d ∈ db.diagrams ∧ d.id = id) ∧
    (∀ d ∈ db.diagrams, d.environments.toList.Nodup ∧
      (∀ id ∈ d.environments, db.hasEnvironment id = true) ∧
      ∀ s ∈ d.steps, db.hasEnvironment s.sender = true ∧ db.hasEnvironment s.receiver = true ∧
        s.sender ≠ s.receiver) ∧
    db.validate = .ok () := by
  obtain ⟨before, -, rfl⟩ := mem_states_iff.1 hdb
  have h := hs.consistent.run before
  refine ⟨⟨h.environments_nodup, fun id e => h.environment?_eq_some_iff⟩,
    ⟨h.diagrams_nodup, fun id d => h.diagram?_eq_some_iff⟩, fun d hd => ?_,
    validate_eq_ok_iff.2 h.sound⟩
  refine ⟨d.environments.nodup, (h.sound d hd).attached, fun s hs => ?_⟩
  obtain ⟨hne, hsender, hreceiver⟩ := (h.sound d hd).steps s hs
  exact ⟨hsender, hreceiver, hne⟩

/-- Identifiers in spellings that are not generated, and a diagram with a step. -/
def sampleContents : Contents where
  environments := [⟨⟨"env-007"⟩, "Shop"⟩, ⟨⟨"env-+5"⟩, "Shop"⟩, ⟨⟨"bank"⟩, "Bank"⟩]
  diagrams := [⟨⟨"diagram-2"⟩, "Order", .ofList [⟨"bank"⟩], [⟨⟨"bank"⟩, ⟨"env-007"⟩, "paid"⟩]⟩]

/-- An environment is created and deleted, and missed by the last operation. -/
def sampleOperations : List Operation :=
  [ .addEnvironment "Mail"
  , .duplicateDiagram ⟨"diagram-2"⟩
  , .apply (.deleteEnvironment ⟨"env-8"⟩)
  , .addEnvironment "Mail"
  , .renameEnvironment ⟨"env-8"⟩ "Post" ]

theorem isStart_sampleContents : sampleContents.database.IsStart :=
  .of_ofContents (by decide : ofContents sampleContents = .ok sampleContents.database)

theorem rules_hold_in_runs_sample :
    let start := sampleContents.database
    start.IsStart ∧ start.run sampleOperations ∈ start.states sampleOperations ∧
      (start.run sampleOperations).validate = .ok () := by
  intro start
  have hmem : start.run sampleOperations ∈ start.states sampleOperations :=
    run_mem_states (List.prefix_refl _)
  exact ⟨isStart_sampleContents, hmem, (rules_hold_in_runs isStart_sampleContents hmem).2.2.2⟩

end Database

end Choreography
