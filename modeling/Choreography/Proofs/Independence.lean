import Choreography.Proofs.Cascade

/-!
# Commands that do not get in each other's way

A command that edits one diagram looks at that diagram and at which environments there are, and
changes that diagram only. So commands on different diagrams see the same in either order, and
their changes can be exchanged.

- `Command.edited?`: the diagram that a command edits, renames or deletes.
- `Database.editDiagram`: a change of one diagram, which may take it out. Changes of different
  diagrams can be exchanged (`editDiagram_comm`).
- `Database.LooksLike` and `ActsAlike`: what a command sees of a database, and that it gives one
  answer and makes one change wherever it sees the same. One lemma for each command
  (`actsAlike_of_edited?`).
- `purge_comm` and `countP_involves_purge`: deletions of environments can be exchanged, but a step
  between the two is counted by the first.
- `independent_commands_commute`: both kinds together.
-/

namespace Choreography

/-- The diagram that a command edits, renames or deletes. -/
def Command.edited? : Command → Option DiagramId
  | .renameDiagram id _ | .deleteDiagram id | .attachEnvironment id _ | .addStep id _ _ _
  | .editStepEvent id _ _ | .deleteStep id _ => some id
  | .addEnvironment _ | .renameEnvironment .. | .deleteEnvironment _ | .addDiagram _
  | .duplicateDiagram _ => none

namespace Database

variable {db db' : Database} {id id' : DiagramId} {f g : Diagram → Option Diagram}

/-! ## Changes of one diagram -/

/-- Changes the diagram of an identifier, or takes it out. -/
def editDiagram (db : Database) (id : DiagramId) (f : Diagram → Option Diagram) : Database :=
  { db with diagrams := db.diagrams.filterMap fun d => if d.id = id then f d else some d }

/-- A change does not give the diagram another identifier. -/
def KeepsId (f : Diagram → Option Diagram) : Prop :=
  ∀ d d', f d = some d' → d'.id = d.id

theorem editDiagram_some (db : Database) (id : DiagramId) : db.editDiagram id some = db := by
  simp [editDiagram]

theorem editDiagram_update (db : Database) (id : DiagramId) (f : Diagram → Diagram) :
    db.editDiagram id (fun d => some (f d)) = db.updateDiagram id f := by
  rw [editDiagram, updateDiagram, ← List.filterMap_eq_map']
  congr 2
  funext d
  split <;> rfl

theorem editDiagram_delete (db : Database) (id : DiagramId) :
    db.editDiagram id (fun _ => none) =
      { db with diagrams := db.diagrams.filter (·.id ≠ id) } := by
  rw [editDiagram, ← List.filterMap_eq_filter]
  congr 2
  funext d
  by_cases h : d.id = id <;> simp [h, Option.guard]

/-- Changes of different diagrams can be exchanged. -/
theorem editDiagram_comm (hf : KeepsId f) (hg : KeepsId g) (h : id ≠ id') :
    (db.editDiagram id f).editDiagram id' g = (db.editDiagram id' g).editDiagram id f := by
  simp only [editDiagram, List.filterMap_filterMap]
  congr 2
  funext d
  -- an edited diagram keeps its identifier, so the other edit leaves it alone
  by_cases hd : d.id = id
  · have hd' : d.id ≠ id' := hd ▸ h
    simp only [if_pos hd, if_neg hd', Option.bind_some]
    cases hfd : f d with
    | none => rfl
    | some e =>
      have he : e.id ≠ id' := by rwa [hf d e hfd]
      simp [if_neg he]
  · by_cases hd' : d.id = id'
    · simp only [if_neg hd, if_pos hd', Option.bind_some]
      cases hgd : g d with
      | none => rfl
      | some e =>
        have he : e.id ≠ id := by rwa [hg d e hgd]
        simp [if_neg he]
    · simp [hd, hd']

/-! ## What a command sees of a database -/

/-- The databases have the same diagram under an identifier, and know the same environments. -/
structure LooksLike (id : DiagramId) (db db' : Database) : Prop where
  diagram : db'.diagram? id = db.diagram? id
  environment : ∀ e, db'.hasEnvironment e = db.hasEnvironment e

theorem LooksLike.refl (id : DiagramId) (db : Database) : LooksLike id db db :=
  ⟨rfl, fun _ => rfl⟩

/-- A change of another diagram is not seen. -/
theorem looksLike_editDiagram (db : Database) (hg : KeepsId g) (h : id ≠ id') :
    LooksLike id db (db.editDiagram id' g) where
  environment _ := rfl
  diagram := by
    -- an edit keeps the identifier, so the search for another one passes over the edited diagram
    have hkey : ∀ d : Diagram, ((if d.id = id' then g d else some d).any fun e => e.id = id) =
        decide (d.id = id) := by
      intro d
      by_cases hd : d.id = id'
      · have hne : d.id ≠ id := hd ▸ h.symm
        rw [if_pos hd, decide_eq_false hne]
        cases hgd : g d with
        | none => rfl
        | some e => simpa [hg d e hgd] using hne
      · rw [if_neg hd]
        rfl
    simp only [diagram?, editDiagram, List.find?_filterMap, hkey]
    cases hfound : db.diagrams.find? fun d => decide (d.id = id) with
    | none => rfl
    | some d =>
      have hid : d.id = id := by simpa using List.find?_some hfound
      simp [hid, h]

theorem LooksLike.endpointViolation? (h : LooksLike id db db') (sender receiver : EnvironmentId) :
    db'.endpointViolation? sender receiver = db.endpointViolation? sender receiver := by
  simp only [Database.endpointViolation?, h.environment]

theorem LooksLike.step (h : LooksLike id db db') (index : Nat) :
    db'.step id index = db.step id index := by
  simp only [Database.step, Database.diagram, h.diagram]

/-! ## What a command does to a database that looks like this -/

/-- The command gives one answer and makes one change in all databases that look like this one. -/
def ActsAlike (db : Database) (c : Command) (id : DiagramId) : Prop :=
  ∃ (a : Answer) (f : Diagram → Option Diagram), KeepsId f ∧
    ∀ db', LooksLike id db db' → db'.perform (.apply c) = (a, db'.editDiagram id f)

namespace ActsAlike

variable {c : Command}

theorem refused (e : ModelError) (h : ∀ db', LooksLike id db db' → db'.apply c = .error e) :
    ActsAlike db c id := by
  refine ⟨.error e, some, ?_, fun db' hl => ?_⟩
  · rintro d _ ⟨⟩
    rfl
  · rw [perform, h db' hl, editDiagram_some]
    rfl

theorem updated (f : Diagram → Diagram) (hf : ∀ d, (f d).id = d.id)
    (h : ∀ db', LooksLike id db db' → db'.apply c = .ok (.applied, db'.updateDiagram id f)) :
    ActsAlike db c id := by
  refine ⟨.ok .applied, fun d => some (f d), ?_, fun db' hl => ?_⟩
  · rintro d _ ⟨⟩
    exact hf d
  · rw [perform, h db' hl, editDiagram_update]
    rfl

theorem deleted (h : ∀ db', LooksLike id db db' → db'.apply c =
      .ok (.applied, { db' with diagrams := db'.diagrams.filter (·.id ≠ id) })) :
    ActsAlike db c id := by
  refine ⟨.ok .applied, fun _ => none, nofun, fun db' hl => ?_⟩
  rw [perform, h db' hl, editDiagram_delete]
  rfl

theorem renameDiagram (db : Database) (id : DiagramId) (title : String) :
    ActsAlike db (.renameDiagram id title) id := by
  cases h : db.diagram? id with
  | none =>
    refine .refused (.diagramNotFound id) fun db' hl => ?_
    rw [apply, renameDiagram_missing title (hl.diagram.trans h)]
    rfl
  | some d =>
    refine .updated ({ · with title }) (fun _ => rfl) fun db' hl => ?_
    rw [apply, renameDiagram_found title (hl.diagram.trans h)]
    rfl

theorem deleteDiagram (db : Database) (id : DiagramId) : ActsAlike db (.deleteDiagram id) id := by
  cases h : db.diagram? id with
  | none =>
    refine .refused (.diagramNotFound id) fun db' hl => ?_
    rw [apply, deleteDiagram_missing (hl.diagram.trans h)]
    rfl
  | some d =>
    refine .deleted fun db' hl => ?_
    rw [apply, deleteDiagram_found (hl.diagram.trans h)]
    rfl

theorem attachEnvironment (db : Database) (id : DiagramId) (environment : EnvironmentId) :
    ActsAlike db (.attachEnvironment id environment) id := by
  cases he : db.hasEnvironment environment with
  | false =>
    refine .refused (.environmentNotFound environment) fun db' hl => ?_
    rw [apply, attachEnvironment_unknown id ((hl.environment _).trans he)]
    rfl
  | true =>
    cases h : db.diagram? id with
    | none =>
      refine .refused (.diagramNotFound id) fun db' hl => ?_
      rw [apply, attachEnvironment_missing (hl.diagram.trans h) ((hl.environment _).trans he)]
      rfl
    | some d =>
      refine .updated (·.attach environment) (fun _ => rfl) fun db' hl => ?_
      rw [apply, attachEnvironment_found (hl.diagram.trans h) ((hl.environment _).trans he)]
      rfl

theorem addStep (db : Database) (id : DiagramId) (sender receiver : EnvironmentId) (index : Nat) :
    ActsAlike db (.addStep id sender receiver index) id := by
  cases he : db.endpointViolation? sender receiver with
  | some e =>
    refine .refused e fun db' hl => ?_
    rw [apply, addStep_violation id index ((hl.endpointViolation? _ _).trans he)]
    rfl
  | none =>
    -- the checks ask for environments and for this diagram, which the other database shares
    cases h : db.diagram? id with
    | none =>
      refine .refused (.diagramNotFound id) fun db' hl => ?_
      have he' := (hl.endpointViolation? _ _).trans he
      rw [apply, addStep_missing index (hl.diagram.trans h) he']
      rfl
    | some d =>
      by_cases hi : index ≤ d.steps.length
      · refine .updated (·.insertStep index { sender, receiver, event := "" }) (fun _ => rfl)
          fun db' hl => ?_
        have he' := (hl.endpointViolation? _ _).trans he
        rw [apply, addStep_allowed (hl.diagram.trans h) he' hi]
        rfl
      · refine .refused (.insertOutOfRange id index d.steps.length) fun db' hl => ?_
        have he' := (hl.endpointViolation? _ _).trans he
        rw [apply, addStep_outside (hl.diagram.trans h) he' (Nat.lt_of_not_le hi)]
        rfl

theorem editStepEvent (db : Database) (id : DiagramId) (index : Nat) (event : String) :
    ActsAlike db (.editStepEvent id index event) id := by
  cases hs : db.step id index with
  | error e =>
    refine .refused e fun db' hl => ?_
    rw [apply, editStepEvent_refused event ((hl.step index).trans hs)]
    rfl
  | ok found =>
    refine .updated (·.setEvent index event) (fun _ => rfl) fun db' hl => ?_
    rw [apply, Database.editStepEvent, hl.step, hs]
    rfl

theorem deleteStep (db : Database) (id : DiagramId) (index : Nat) :
    ActsAlike db (.deleteStep id index) id := by
  cases hs : db.step id index with
  | error e =>
    refine .refused e fun db' hl => ?_
    rw [apply, deleteStep_refused ((hl.step index).trans hs)]
    rfl
  | ok found =>
    refine .updated (·.eraseStep index) (fun _ => rfl) fun db' hl => ?_
    rw [apply, Database.deleteStep, hl.step, hs]
    rfl

end ActsAlike

/-- A command that edits a diagram decides by that diagram and by the known environments. -/
theorem actsAlike_of_edited? (db : Database) {c : Command} (hc : c.edited? = some id) :
    ActsAlike db c id := by
  cases c with
  | addEnvironment | renameEnvironment | deleteEnvironment | addDiagram | duplicateDiagram =>
    cases hc
  | renameDiagram x title => cases hc; exact .renameDiagram db id title
  | deleteDiagram x => cases hc; exact .deleteDiagram db id
  | attachEnvironment x environment => cases hc; exact .attachEnvironment db id environment
  | addStep x sender receiver index => cases hc; exact .addStep db id sender receiver index
  | editStepEvent x index event => cases hc; exact .editStepEvent db id index event
  | deleteStep x index => cases hc; exact .deleteStep db id index

/-- Operations on different diagrams can be exchanged, and their answers with them. -/
theorem run_comm (db : Database) {op op' : Operation} (hop : op.command.edited? = some id)
    (hop' : op'.command.edited? = some id') (h : id ≠ id') :
    db.run [op, op'] = db.run [op', op] ∧
      db.answers [op', op] = (db.answers [op, op']).reverse := by
  obtain ⟨a, f, hf, hrun⟩ := actsAlike_of_edited? db hop
  obtain ⟨b, g, hg, hrun'⟩ := actsAlike_of_edited? db hop'
  have hfirst := hrun db (.refl id db)
  have hfirst' := hrun' db (.refl id' db)
  have hsecond := hrun _ (looksLike_editDiagram db hg h)
  have hsecond' := hrun' _ (looksLike_editDiagram db hf h.symm)
  have hdirect (db : Database) (op : Operation) :
      db.perform op = db.perform (.apply op.command) := perform_eq_apply db op
  constructor
  · simp only [run_cons, run_nil, hdirect _ op, hdirect _ op', hfirst, hfirst', hsecond, hsecond',
      editDiagram_comm hf hg h]
  · simp only [answers_cons, answers_nil, hdirect _ op, hdirect _ op', hfirst, hfirst', hsecond,
      hsecond', List.reverse_cons, List.reverse_nil, List.nil_append, List.cons_append]

/-! ## Deletions of environments -/

variable {a b : EnvironmentId}

theorem purge_comm (db : Database) (a b : EnvironmentId) :
    (db.purge a).purge b = (db.purge b).purge a := by
  have hdiagram : ∀ d : Diagram, (d.purge a).purge b = (d.purge b).purge a := by
    intro d
    simp only [Diagram.purge, OrderedSet.erase, List.filter_filter, Bool.and_comm]
  simp only [purge, List.map_map, List.filter_filter, Bool.and_comm, Function.comp_def, hdiagram]

theorem hasEnvironment_purge_of_ne (h : b ≠ a) (hb : db.hasEnvironment b = true) :
    (db.purge a).hasEnvironment b = true := by
  rw [hasEnvironment_iff] at hb ⊢
  obtain ⟨e, he, rfl⟩ := List.mem_map.1 hb
  exact List.mem_map.2 ⟨e, List.mem_filter.2 ⟨he, by simpa using h⟩, rfl⟩

/-- The number of steps that involve both environments. -/
def joining (db : Database) (a b : EnvironmentId) : Nat :=
  db.allSteps.countP fun s => s.Involves a ∧ s.Involves b

/-- Deleting one environment first takes the steps that join it to the other one from the count of
the other. -/
theorem countP_involves_purge (db : Database) (a b : EnvironmentId) :
    db.allSteps.countP (·.Involves a) =
      (db.purge b).allSteps.countP (·.Involves a) + db.joining a b := by
  have hjoined : (db.allSteps.filter (·.Involves b)).countP (·.Involves a) = db.joining a b := by
    rw [List.countP_filter, joining]
    simp
  rw [List.countP_eq_countP_filter_add db.allSteps (·.Involves a) (·.Involves b), hjoined,
    Nat.add_comm, allSteps_purge]
  simp

theorem joining_comm (db : Database) (a b : EnvironmentId) : db.joining a b = db.joining b a := by
  simp only [joining, and_comm]

/-- Commands that edit, rename or delete different diagrams can be exchanged: they lead to the same
database and get the same answers, refusals included. So can deletions of two environments, and they
take out as many steps in either order. A step between the two is counted by the first deletion. -/
theorem independent_commands_commute (db : Database) :
    (∀ op op' id id', op.command.edited? = some id → op'.command.edited? = some id' → id ≠ id' →
      db.run [op, op'] = db.run [op', op] ∧
        db.answers [op', op] = (db.answers [op, op']).reverse) ∧
    ∀ a b, a ≠ b → db.hasEnvironment a = true → db.hasEnvironment b = true →
      ∃ m n m' n' afterA afterB after,
        db.deleteEnvironment a = .ok (m, afterA) ∧ afterA.deleteEnvironment b = .ok (n, after) ∧
        db.deleteEnvironment b = .ok (n', afterB) ∧ afterB.deleteEnvironment a = .ok (m', after) ∧
        m + n = n' + m' ∧ m = m' + db.joining a b ∧ n' = n + db.joining a b := by
  refine ⟨fun op op' id id' hop hop' h => run_comm db hop hop' h, fun a b h ha hb => ?_⟩
  have hfirst := deleteEnvironment_eq ha
  have hsecond := deleteEnvironment_eq (hasEnvironment_purge_of_ne h.symm hb)
  have hfirst' := deleteEnvironment_eq hb
  have hsecond' := deleteEnvironment_eq (hasEnvironment_purge_of_ne h ha)
  rw [purge_comm] at hsecond'
  -- a step between the two environments goes with the first of them that is deleted
  have hcount := countP_involves_purge db a b
  have hcount' := countP_involves_purge db b a
  rw [joining_comm] at hcount'
  exact ⟨_, _, _, _, _, _, _, hfirst, hsecond, hfirst', hsecond', by omega, hcount, hcount'⟩

/-- One of the operations is refused. Two steps are between the deleted environments. -/
theorem independent_commands_commute_sample :
    let db := sampleExchange.database
    let op : Operation := .apply (.deleteStep ⟨"order"⟩ 1)
    let op' : Operation := .addStep ⟨"refund"⟩ ⟨"env-1"⟩ ⟨"env-3"⟩ 5
    let shop : EnvironmentId := ⟨"env-1"⟩
    let bank : EnvironmentId := ⟨"env-3"⟩
    (op.command.edited? = some ⟨"order"⟩ ∧ op'.command.edited? = some ⟨"refund"⟩ ∧
      db.hasEnvironment shop = true ∧ db.hasEnvironment bank = true) ∧
    db.run [op, op'] = db.run [op', op] ∧
    db.answers [op', op] = [.error (.insertOutOfRange ⟨"refund"⟩ 5 1), .ok .applied] ∧
    ∃ m n m' n' afterShop afterBank after,
      db.deleteEnvironment shop = .ok (m, afterShop) ∧
      afterShop.deleteEnvironment bank = .ok (n, after) ∧
      db.deleteEnvironment bank = .ok (n', afterBank) ∧
      afterBank.deleteEnvironment shop = .ok (m', after) ∧
      m + n = n' + m' ∧ m = m' + 2 ∧ n' = n + 2 := by
  intro db op op' shop bank
  have hshop : db.hasEnvironment shop = true := by decide
  have hbank : db.hasEnvironment bank = true := by decide
  obtain ⟨hoperations, hdeletions⟩ := independent_commands_commute db
  obtain ⟨hrun, hanswers⟩ := hoperations op op' ⟨"order"⟩ ⟨"refund"⟩ rfl rfl (by decide)
  have hjoining : db.joining shop bank = 2 := by decide
  have hdeleted := hdeletions shop bank (by decide) hshop hbank
  rw [hjoining] at hdeleted
  have hboth : db.answers [op, op'] =
      [.ok .applied, .error (.insertOutOfRange ⟨"refund"⟩ 5 1)] := by decide
  rw [hboth] at hanswers
  exact ⟨⟨rfl, rfl, hshop, hbank⟩, hrun, hanswers, hdeleted⟩

end Database

end Choreography
