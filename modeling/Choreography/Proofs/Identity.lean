import Choreography.Proofs.Invariant

/-!
# Identifiers are never reused

What is said here of environments and of diagrams is said once, for both kinds: `Database.ids` are
the identifiers of a kind, `Database.last` is its counter.

- `Transition.idsStep`: an operation keeps or drops identifiers of a kind, or it creates exactly
  one, numbered above the counter.
- `Tracks seen db`: no identifier that was ever seen carries a number above the counter. A run keeps
  it (`Tracks.run`), with what it creates added to what was seen.
- `apply_missing`: how a command is refused that targets an identifier which is not there.
- `ids_never_reused`: created identifiers are new, and deleted ones are missed for ever.
-/

namespace Choreography

/-! ## Both kinds at once -/

/-- The outcome that reports a new identifier. -/
def Outcome.created : (kind : Kind) → Identifier kind → Outcome
  | .environment, id => .environmentCreated id
  | .diagram, id => .diagramCreated id

/-- The command that deletes what an identifier stands for. -/
def Command.deletion : (kind : Kind) → Identifier kind → Command
  | .environment, id => .deleteEnvironment id
  | .diagram, id => .deleteDiagram id

/-- The identifiers that a command needs to be there. -/
def Command.targets : Command → (kind : Kind) → List (Identifier kind)
  | .renameEnvironment id _, .environment => [id]
  | .deleteEnvironment id, .environment => [id]
  | .attachEnvironment _ environment, .environment => [environment]
  | .addStep _ sender receiver _, .environment => [sender, receiver]
  | .renameDiagram id _, .diagram => [id]
  | .deleteDiagram id, .diagram => [id]
  | .duplicateDiagram id, .diagram => [id]
  | .attachEnvironment diagram _, .diagram => [diagram]
  | .addStep diagram _ _ _, .diagram => [diagram]
  | .editStepEvent diagram _ _, .diagram => [diagram]
  | .deleteStep diagram _, .diagram => [diagram]
  | _, _ => []

/-- The error says that the identifier is not there: it was not found, or it is an unknown
endpoint. -/
def ModelError.Misses (e : ModelError) : {kind : Choreography.Kind} → Identifier kind → Prop
  | .environment, id => e = .environmentNotFound id ∨ e = .unknownEndpoint id
  | .diagram, id => e = .diagramNotFound id

namespace Database

/-- The identifiers of a kind. -/
def ids (db : Database) : (kind : Kind) → List (Identifier kind)
  | .environment => db.environments.map (·.id)
  | .diagram => db.diagrams.map (·.id)

/-- The counter of a kind. -/
def last (db : Database) : Kind → Nat
  | .environment => db.lastEnvironment
  | .diagram => db.lastDiagram

variable {kind : Kind}

/-- The databases have the same identifiers, but for the given one. -/
def AgreeBut (id : Identifier kind) (a b : Database) : Prop :=
  ∀ (k : Kind) (x : Identifier k), (⟨k, x⟩ : Σ k, Identifier k) ≠ ⟨kind, id⟩ →
    (x ∈ a.ids k ↔ x ∈ b.ids k)

/-- The command is refused with this error whether or not the identifier is there: the fault lies
with its other arguments. -/
def RefusedAnyway (db : Database) (c : Command) (id : Identifier kind) (e : ModelError) : Prop :=
  ∀ db', AgreeBut id db db' → db'.apply c = .error e

variable {db db' : Database}

/-! ## What an operation does to the identifiers of a kind -/

theorem ids_updateEnvironment (id : EnvironmentId) (name : String) (kind : Kind) :
    (db.updateEnvironment id ({ · with name })).ids kind = db.ids kind := by
  cases kind with
  | environment => exact environment_ids_updateEnvironment id name
  | diagram => rfl

theorem ids_updateDiagram {f : Diagram → Diagram} (id : DiagramId) (hf : ∀ d, (f d).id = d.id)
    (kind : Kind) : (db.updateDiagram id f).ids kind = db.ids kind := by
  cases kind with
  | environment => rfl
  | diagram => exact diagram_ids_updateDiagram hf

/-- How the identifiers of a kind develop in one operation. -/
inductive IdsStep (kind : Kind) (db : Database) (a : Answer) (db' : Database) : Prop where
  /-- Identifiers stay, or are dropped. -/
  | kept (counter : db'.last kind = db.last kind) (ids : db'.ids kind ⊆ db.ids kind)
      (answer : ∀ id, a ≠ .ok (.created kind id))
  /-- One identifier is new. -/
  | created (n : Nat) (above : db.last kind < n) (counter : db'.last kind = n)
      (ids : db'.ids kind = db.ids kind ++ [.numbered kind n])
      (answer : a = .ok (.created kind (.numbered kind n)))

theorem IdsStep.same {a : Answer} (counter : db'.last kind = db.last kind)
    (ids : db'.ids kind = db.ids kind) (answer : ∀ id, a ≠ .ok (.created kind id)) :
    IdsStep kind db a db' :=
  .kept counter (ids ▸ List.Subset.refl _) answer

theorem Transition.idsStep {c : Command} {a : Answer} (ht : Transition db c a db')
    (kind : Kind) : IdsStep kind db a db' := by
  have hout : ∀ id : Identifier kind, (Except.ok .applied : Answer) ≠ .ok (.created kind id) := by
    cases kind <;> nofun
  -- only an addition or a copy makes an identifier, and only of its own kind
  cases ht with
  | refused => exact .same rfl rfl nofun
  | environmentAdded name =>
    cases kind with
    | environment => exact .created _ (Identifier.lt_fresh _ _) rfl (List.map_append ..) rfl
    | diagram => exact .same rfl rfl nofun
  | environmentRenamed name =>
    exact .same (by cases kind <;> rfl) (ids_updateEnvironment _ name kind) hout
  | environmentDeleted =>
    cases kind with
    | environment => exact .kept rfl (List.map_subset _ (List.filter_subset_self _)) hout
    | diagram => exact .same rfl List.map_map hout
  | diagramAdded title =>
    cases kind with
    | environment => exact .same rfl rfl nofun
    | diagram => exact .created _ (Identifier.lt_fresh _ _) rfl (List.map_append ..) rfl
  | diagramDeleted =>
    cases kind with
    | environment => exact .same rfl rfl hout
    | diagram => exact .kept rfl (List.map_subset _ (List.filter_subset_self _)) hout
  | diagramCopied =>
    cases kind with
    | environment => exact .same rfl rfl nofun
    | diagram => exact .created _ (Identifier.lt_fresh _ _) rfl (List.map_append ..) rfl
  | diagramRenamed | environmentAttached | stepAdded | eventEdited | stepDeleted =>
    refine .same (by cases kind <;> rfl) (ids_updateDiagram _ ?_ kind) hout
    exact fun _ => rfl

/-! ## What was ever seen -/

/-- All present identifiers have been seen, and none that was ever seen carries a number above the
counter. -/
structure Tracks (kind : Kind) (seen : Identifier kind → Prop) (db : Database) : Prop where
  present : ∀ id ∈ db.ids kind, seen id
  numbers : ∀ id n, seen id → id.number? = some n → n ≤ db.last kind

theorem created_injective {x y : Identifier kind}
    (h : (Except.ok (.created kind x) : Answer) = .ok (.created kind y)) : x = y := by
  cases kind <;> cases h <;> rfl

theorem IsStart.tracks (h : db.IsStart) (kind : Kind) : Tracks kind (· ∈ db.ids kind) db where
  present _ hid := hid
  numbers id n hid hn := by
    rcases h with rfl | ⟨c, hc⟩
    · cases kind <;> cases hid
    · obtain ⟨-, rfl⟩ := ofContents_eq_ok_iff.1 hc
      cases kind <;> exact Identifier.number?_le_highestNumber hid hn

namespace Tracks

variable {seen : Identifier kind → Prop} {a : Answer} {id : Identifier kind}

/-- The counter grows with every identifier that is created. -/
theorem idsStep (h : Tracks kind seen db) (hs : IdsStep kind db a db') :
    Tracks kind (fun id => seen id ∨ a = .ok (.created kind id)) db' := by
  cases hs with
  | kept counter ids answer =>
    refine ⟨fun id hid => .inl (h.present id (ids hid)), fun id n hid hn => ?_⟩
    rw [counter]
    exact h.numbers id n (hid.resolve_right (answer id)) hn
  | created m above counter ids answer =>
    -- the new identifier carries the number that the counter goes to
    refine ⟨fun id hid => ?_, fun id n hid hn => ?_⟩
    · rw [ids] at hid
      rcases List.mem_append.1 hid with hid | hid
      · exact .inl (h.present id hid)
      · rw [List.mem_singleton.1 hid]
        exact .inr answer
    · rw [counter]
      rcases hid with hid | hid
      · exact Nat.le_of_lt (Nat.lt_of_le_of_lt (h.numbers id n hid hn) above)
      · rw [answer] at hid
        rw [← created_injective hid] at hn
        exact Nat.le_of_eq (Identifier.eq_of_number?_numbered hn)

/-- A created identifier has never been seen: its number is above the counter, and it carries that
number. -/
theorem new (h : Tracks kind seen db) (hs : IdsStep kind db (.ok (.created kind id)) db')
    (hb : db'.last kind ≤ Identifier.maxNumber) : ¬ seen id := by
  cases hs with
  | kept counter ids answer => exact absurd rfl (answer id)
  | created n above counter ids answer =>
    intro hid
    rw [created_injective answer] at hid
    have := h.numbers _ n hid (Identifier.number?_numbered_of_le (counter ▸ hb))
    omega

theorem run (h : Tracks kind seen db) (ops : List Operation) :
    Tracks kind (fun id => seen id ∨ .ok (.created kind id) ∈ db.answers ops) (db.run ops) := by
  induction ops generalizing db seen with
  | nil => simpa using h
  | cons op ops ih =>
    have := ih (h.idsStep ((transition_perform db op).idsStep kind))
    simpa only [run_cons, answers_cons, List.mem_cons, or_assoc, eq_comm] using this

/-- What was seen and is gone does not come back. -/
theorem not_mem_run (h : Tracks kind seen db) (hid : seen id) (hno : id ∉ db.ids kind)
    (ops : List Operation)
    (hb : ∀ s ∈ db.states ops, s.last kind ≤ Identifier.maxNumber) :
    id ∉ (db.run ops).ids kind := by
  induction ops generalizing db seen with
  | nil => exact hno
  | cons op ops ih =>
    have hs := (transition_perform db op).idsStep kind
    refine ih (h.idsStep hs) (.inl hid) ?_ fun s hs => hb s (List.mem_cons_of_mem _ hs)
    have hnext : (db.perform op).2 ∈ db.states (op :: ops) :=
      run_mem_states (List.cons_prefix_cons.2 ⟨rfl, List.nil_prefix⟩)
    -- an operation that creates takes a number above all that were seen
    cases hs with
    | kept counter ids answer => exact fun hmem => hno (ids hmem)
    | created n above counter ids answer =>
      rw [ids]
      intro hmem
      rcases List.mem_append.1 hmem with hmem | hmem
      · exact hno hmem
      · have hnew := h.new (answer ▸ (transition_perform db op).idsStep kind) (hb _ hnext)
        exact hnew (List.mem_singleton.1 hmem ▸ hid)

end Tracks

/-! ## Missing identifiers -/

theorem hasEnvironment_eq_of_agreeBut {id x : EnvironmentId} (h : AgreeBut id db db')
    (hx : x ≠ id) : db'.hasEnvironment x = db.hasEnvironment x := by
  rw [Bool.eq_iff_iff, hasEnvironment_iff, hasEnvironment_iff]
  exact (h .environment x (by simpa using hx)).symm

theorem hasEnvironment_eq_of_agreeBut_diagram {id : DiagramId} (h : AgreeBut id db db')
    (x : EnvironmentId) : db'.hasEnvironment x = db.hasEnvironment x := by
  rw [Bool.eq_iff_iff, hasEnvironment_iff, hasEnvironment_iff]
  exact (h .environment x (by simp)).symm

/-- The command is refused: for the missing identifier, or for a fault that it could not mend. -/
def RefusedFor (db : Database) (c : Command) (id : Identifier kind) : Prop :=
  ∃ e, db.apply c = .error e ∧ (e.Misses id ∨ RefusedAnyway db c id e)

section RefusedFor

variable {c : Command} {e : ModelError}

theorem RefusedFor.environmentNotFound {id : EnvironmentId}
    (h : db.apply c = .error (.environmentNotFound id)) : RefusedFor db c id :=
  ⟨_, h, .inl (.inl rfl)⟩

theorem RefusedFor.unknownEndpoint {id : EnvironmentId}
    (h : db.apply c = .error (.unknownEndpoint id)) : RefusedFor db c id :=
  ⟨_, h, .inl (.inr rfl)⟩

theorem RefusedFor.diagramNotFound {id : DiagramId}
    (h : db.apply c = .error (.diagramNotFound id)) : RefusedFor db c id :=
  ⟨_, h, .inl rfl⟩

theorem RefusedFor.of_anyway {id : Identifier kind} (h : RefusedAnyway db c id e) :
    RefusedFor db c id :=
  ⟨e, h db fun _ _ _ => Iff.rfl, .inr h⟩

theorem apply_addStep_violation {diagram : DiagramId} {sender receiver : EnvironmentId}
    (index : Nat) (he : db.endpointViolation? sender receiver = some e) :
    db.apply (.addStep diagram sender receiver index) = .error e := by
  rw [apply, addStep_violation diagram index he]
  rfl

theorem apply_attachEnvironment_unknown (diagram : DiagramId) {environment : EnvironmentId}
    (he : db.hasEnvironment environment = false) :
    db.apply (.attachEnvironment diagram environment) =
      .error (.environmentNotFound environment) := by
  rw [apply, attachEnvironment_unknown diagram he]
  rfl

/-- A command that targets a missing environment is refused. -/
theorem apply_missing_environment {id : EnvironmentId} (hid : id ∉ db.ids .environment)
    (hc : id ∈ c.targets .environment) : RefusedFor db c id := by
  have hno : db.hasEnvironment id = false := hasEnvironment_eq_false_iff.2 hid
  cases c with
  | addEnvironment | addDiagram | renameDiagram | deleteDiagram | duplicateDiagram | editStepEvent
  | deleteStep => cases hc
  | renameEnvironment x name =>
    obtain rfl := List.mem_singleton.1 hc
    apply RefusedFor.environmentNotFound
    rw [apply, renameEnvironment_unknown name hno]
    rfl
  | deleteEnvironment x =>
    obtain rfl := List.mem_singleton.1 hc
    apply RefusedFor.environmentNotFound
    rw [apply, deleteEnvironment_unknown hno]
    rfl
  | attachEnvironment diagram x =>
    obtain rfl := List.mem_singleton.1 hc
    exact .environmentNotFound (apply_attachEnvironment_unknown diagram hno)
  | addStep diagram sender receiver index =>
    -- a loop comes before the ends, and the sender before the receiver
    by_cases hself : sender = receiver
    · apply RefusedFor.of_anyway (e := .selfLoop sender)
      intro db' _
      exact apply_addStep_violation index (by simp [endpointViolation?, hself])
    by_cases hsender : sender = id
    · subst hsender
      apply RefusedFor.unknownEndpoint
      exact apply_addStep_violation index (by simp [endpointViolation?, hself, hno])
    obtain rfl : id = receiver := by simpa [Command.targets, Ne.symm hsender] using hc
    cases hs : db.hasEnvironment sender with
    | true =>
      apply RefusedFor.unknownEndpoint
      exact apply_addStep_violation index (by simp [endpointViolation?, hself, hs, hno])
    | false =>
      apply RefusedFor.of_anyway (e := .unknownEndpoint sender)
      intro db' h
      have hs' : db'.hasEnvironment sender = false := by
        rw [hasEnvironment_eq_of_agreeBut h hsender, hs]
      exact apply_addStep_violation index (by simp [endpointViolation?, hself, hs'])

/-- A command that targets a missing diagram is refused. -/
theorem apply_missing_diagram {id : DiagramId} (hid : id ∉ db.ids .diagram)
    (hc : id ∈ c.targets .diagram) : RefusedFor db c id := by
  have hno : db.diagram? id = none := diagram?_eq_none_iff.2 hid
  cases c with
  | addEnvironment | renameEnvironment | deleteEnvironment | addDiagram => cases hc
  | renameDiagram x title =>
    obtain rfl := List.mem_singleton.1 hc
    apply RefusedFor.diagramNotFound
    rw [apply, renameDiagram_missing title hno]
    rfl
  | deleteDiagram x =>
    obtain rfl := List.mem_singleton.1 hc
    apply RefusedFor.diagramNotFound
    rw [apply, deleteDiagram_missing hno]
    rfl
  | duplicateDiagram x =>
    obtain rfl := List.mem_singleton.1 hc
    apply RefusedFor.diagramNotFound
    rw [apply, duplicateDiagram_missing hno]
    rfl
  | editStepEvent x index event =>
    obtain rfl := List.mem_singleton.1 hc
    apply RefusedFor.diagramNotFound
    rw [apply, editStepEvent_refused event (step_missing hno)]
    rfl
  | deleteStep x index =>
    obtain rfl := List.mem_singleton.1 hc
    apply RefusedFor.diagramNotFound
    rw [apply, deleteStep_refused (step_missing hno)]
    rfl
  | attachEnvironment x environment =>
    obtain rfl := List.mem_singleton.1 hc
    -- the environment is looked for first, whatever becomes of the diagram
    cases he : db.hasEnvironment environment with
    | true =>
      apply RefusedFor.diagramNotFound
      rw [apply, attachEnvironment_missing hno he]
      rfl
    | false =>
      apply RefusedFor.of_anyway
      intro db' h
      apply apply_attachEnvironment_unknown
      rw [hasEnvironment_eq_of_agreeBut_diagram h, he]
  | addStep x sender receiver index =>
    obtain rfl := List.mem_singleton.1 hc
    -- the ends are checked before the diagram is looked for, and that check asks for no diagram
    cases he : db.endpointViolation? sender receiver with
    | none =>
      apply RefusedFor.diagramNotFound
      rw [apply, addStep_missing index hno he]
      rfl
    | some e =>
      apply RefusedFor.of_anyway
      intro db' h
      apply apply_addStep_violation index
      simp only [endpointViolation?, hasEnvironment_eq_of_agreeBut_diagram h]
      exact he

theorem apply_missing {id : Identifier kind} (hid : id ∉ db.ids kind)
    (hc : id ∈ c.targets kind) : RefusedFor db c id := by
  cases kind with
  | environment => exact apply_missing_environment hid hc
  | diagram => exact apply_missing_diagram hid hc

end RefusedFor

/-! ## Whole runs -/

/-- In no state of the run a counter has reached the largest number. -/
def CountersBelowMax (start : Database) (ops : List Operation) : Prop :=
  ∀ db ∈ start.states ops, ∀ kind, db.last kind < Identifier.maxNumber

theorem CountersBelowMax.last_le {start : Database} {ops : List Operation}
    (hb : start.CountersBelowMax ops) (before : List Operation) (h : before <+: ops) (kind : Kind) :
    (start.run before).last kind ≤ Identifier.maxNumber :=
  Nat.le_of_lt (hb _ (run_mem_states h) kind)

/-- After an accepted deletion the identifier is gone. -/
theorem not_mem_ids_of_deletion {id : Identifier kind} {del : Operation}
    (hdel : del.command = .deletion kind id) (hok : (db.perform del).1 = .ok .applied) :
    id ∈ db.ids kind ∧ id ∉ (db.perform del).2.ids kind := by
  have ht := transition_perform db del
  rw [hdel, hok] at ht
  generalize (db.perform del).2 = after at ht
  cases kind with
  | environment =>
    cases ht with
    | environmentDeleted known =>
      exact ⟨hasEnvironment_iff.1 known, by simp [ids]⟩
  | diagram =>
    cases ht with
    | diagramDeleted found =>
      exact ⟨List.mem_map.2 ⟨_, diagram?_mem found, diagram?_id found⟩, by simp [ids]⟩

/-- In a run in which no counter reaches the largest number, a created identifier differs from all
that were there at the start and from all that were created before, deleted or not. After an
identifier has been deleted, every operation that targets it is refused and changes nothing; the
error says that it is missing, unless another argument is at fault whatever becomes of it. -/
theorem ids_never_reused {start : Database} (hs : start.IsStart) {ops : List Operation}
    (hb : start.CountersBelowMax ops) :
    (∀ before op after kind (id : Identifier kind), ops = before ++ op :: after →
      ((start.run before).perform op).1 = .ok (.created kind id) →
      id ∉ start.ids kind ∧ .ok (.created kind id) ∉ start.answers before) ∧
    (∀ before del between op after kind (id : Identifier kind),
      ops = before ++ del :: (between ++ op :: after) →
      del.command = .deletion kind id → ((start.run before).perform del).1 = .ok .applied →
      id ∈ op.command.targets kind →
      let db := start.run (before ++ del :: between)
      ∃ e, db.perform op = (.error e, db) ∧ (e.Misses id ∨ RefusedAnyway db op.command id e)) := by
  constructor
  -- what has been seen carries no number above the counter, and a created identifier does
  · rintro before op after kind id rfl hop
    have hseen := (hs.tracks kind).run before
    have hstep := (transition_perform (start.run before) op).idsStep kind
    have hlast := hb.last_le (before ++ [op]) ⟨after, by simp⟩ kind
    rw [run_append] at hlast
    exact not_or.1 (hseen.new (hop ▸ hstep) hlast)
  · rintro before del between op after kind id rfl hdel hok htarget db
    have hrun : db = ((start.run before).perform del).2.run between := by
      simp only [db, run_append, run_cons]
    obtain ⟨hmem, hgone⟩ := not_mem_ids_of_deletion hdel hok
    have hseen := (hs.tracks kind).run before
    have hstep := (transition_perform (start.run before) del).idsStep kind
    -- a deleted identifier has been seen and is gone, so no operation in between brings it back
    have hid : id ∉ db.ids kind := by
      rw [hrun]
      refine (hseen.idsStep hstep).not_mem_run (.inl (hseen.present id hmem)) hgone between ?_
      intro s hs
      obtain ⟨some, ⟨rest, rfl⟩, rfl⟩ := mem_states_iff.1 hs
      have hlast := hb.last_le (before ++ del :: some) ⟨rest ++ op :: after, by simp⟩ kind
      rwa [run_append, run_cons] at hlast
    obtain ⟨e, he, hwhy⟩ := apply_missing hid htarget
    refine ⟨e, ?_, hwhy⟩
    rw [perform_eq_apply, he]
    rfl

theorem countersBelowMax_sample : sampleContents.database.CountersBelowMax sampleOperations := by
  have h : ∀ db ∈ sampleContents.database.states sampleOperations,
      db.lastEnvironment < Identifier.maxNumber ∧ db.lastDiagram < Identifier.maxNumber := by
    decide
  intro db hdb kind
  cases kind with
  | environment => exact (h db hdb).1
  | diagram => exact (h db hdb).2

theorem ids_never_reused_sample :
    let start := sampleContents.database
    let before := start.run (sampleOperations.take 4)
    let gone : EnvironmentId := ⟨"env-8"⟩
    let rename : Operation := .renameEnvironment gone "Post"
    (start.IsStart ∧ start.CountersBelowMax sampleOperations) ∧
    (⟨"env-9"⟩ ∉ start.ids .environment ∧
      .ok (.created .environment ⟨"env-9"⟩) ∉ start.answers (sampleOperations.take 3)) ∧
    ∃ e, before.perform rename = (.error e, before) ∧
      (e.Misses gone ∨ RefusedAnyway before rename.command gone e) := by
  have h := ids_never_reused isStart_sampleContents countersBelowMax_sample
  refine ⟨⟨isStart_sampleContents, countersBelowMax_sample⟩, ?_, ?_⟩
  · exact h.1 (sampleOperations.take 3) (.addEnvironment "Mail")
      [.renameEnvironment ⟨"env-8"⟩ "Post"] .environment ⟨"env-9"⟩ rfl (by decide)
  · exact h.2 (sampleOperations.take 2) (.apply (.deleteEnvironment ⟨"env-8"⟩))
      [.addEnvironment "Mail"] (.renameEnvironment ⟨"env-8"⟩ "Post") [] .environment ⟨"env-8"⟩ rfl
      rfl (by decide) (List.mem_singleton.2 rfl)

end Database

end Choreography
