import Choreography.Proofs.InPlace
import Choreography.Proofs.Services

/-!
# Deleting an environment

What a deletion does to the lists of a database and of its diagrams, for any number of diagrams and
whether or not the environment is attached where steps involve it.

- `Database.purge`: what is left. Of all steps those stay that do not involve the environment
  (`allSteps_purge`), and the others are counted (`deleteEnvironment_eq`).
- `Diagram.Purged` and `Database.Deletion`: the same for each diagram, with the place from which the
  environment is taken.
- `deletion_cascades`: a known environment is deleted like this.
-/

namespace Choreography

/-! ## Lists -/

/-- Where keys do not repeat, taking out a key takes out one member and moves none of the others. -/
theorem exists_split_of_key {α κ : Type} [DecidableEq κ] {key : α → κ} {l : List α}
    (h : (l.map key).Nodup) {a : α} (ha : a ∈ l) :
    ∃ before rest, l = before ++ a :: rest ∧ l.filter (key · ≠ key a) = before ++ rest := by
  obtain ⟨before, rest, rfl⟩ := List.append_of_mem ha
  rw [List.map_append, List.map_cons, List.nodup_middle, List.nodup_cons, ← List.map_append] at h
  refine ⟨before, rest, rfl, ?_⟩
  rw [List.filter_append, List.filter_cons_of_neg (by simp), ← List.filter_append,
    Database.filter_key_of_not_mem h.1]

/-! ## Diagrams -/

namespace Diagram

/-- The diagram after it has lost an environment, with all steps that involve it. -/
structure Purged (id : EnvironmentId) (d d' : Diagram) : Prop where
  same_id : d'.id = d.id
  same_title : d'.title = d.title
  /-- The other steps stay in their order, with their events. -/
  steps : d'.steps = d.steps.filter (¬ ·.Involves id)
  /-- The other attached environments stay in their order. -/
  environments : d'.environments.toList = d.environments.toList.erase id

variable {id : EnvironmentId} {d d' : Diagram}

theorem purged_purge (id : EnvironmentId) (d : Diagram) : Purged id d (d.purge id) where
  same_id := rfl
  same_title := rfl
  steps := rfl
  environments := by
    rw [d.environments.nodup.erase_eq_filter, purge, OrderedSet.erase]
    exact List.filter_congr fun x _ => by simp [bne, beq_eq_decide]

theorem Purged.not_mem (h : Purged id d d') : id ∉ d'.environments := by
  rw [← OrderedSet.mem_toList, h.environments]
  exact d.environments.nodup.not_mem_erase

theorem Purged.not_involves (h : Purged id d d') {s : Step} (hs : s ∈ d'.steps) :
    ¬ s.Involves id := by
  rw [h.steps] at hs
  simpa using List.of_mem_filter hs

end Diagram

/-! ## Databases -/

namespace Database

variable {db : Database} {id : EnvironmentId}

/-- The database without an environment and the steps that involve it. -/
def purge (db : Database) (id : EnvironmentId) : Database :=
  { db with
    environments := db.environments.filter (·.id ≠ id)
    diagrams := db.diagrams.map (·.purge id) }

/-- Of the steps of all diagrams, those stay that do not involve the environment. -/
theorem allSteps_purge (db : Database) (id : EnvironmentId) :
    (db.purge id).allSteps = db.allSteps.filter (¬ ·.Involves id) := by
  rw [allSteps, purge, List.flatMap_map, allSteps, List.filter_flatMap]
  rfl

theorem hasEnvironment_purge_self (db : Database) (id : EnvironmentId) :
    (db.purge id).hasEnvironment id = false := by
  simp [hasEnvironment, purge]

/-- The count that goes from diagram to diagram is the count over all steps. -/
theorem foldr_involving (diagrams : List Diagram) (id : EnvironmentId) :
    diagrams.foldr (fun d n => d.involving id + n) 0 =
      (diagrams.flatMap (·.steps)).countP (·.Involves id) := by
  induction diagrams with
  | nil => rfl
  | cons d diagrams ih =>
    rw [List.foldr_cons, ih, List.flatMap_cons, List.countP_append, Diagram.involving]

/-- What deleting a known environment answers, and the database after it. -/
theorem deleteEnvironment_eq (he : db.hasEnvironment id = true) :
    db.deleteEnvironment id = .ok (db.allSteps.countP (·.Involves id), db.purge id) := by
  rw [deleteEnvironment_known he, foldr_involving]
  rfl

/-- What is left of a database after an environment has been deleted, and how many steps it has
lost. -/
structure Deletion (id : EnvironmentId) (db : Database) (lost : Nat) (after : Database) : Prop where
  /-- The environment is taken out from its place, and the others stay in their order. -/
  environments : ∃ before name rest, db.environments = before ++ ⟨id, name⟩ :: rest ∧
    after.environments = before ++ rest
  /-- All diagrams stay in their order, without the environment. -/
  diagrams : List.Forall₂ (Diagram.Purged id) db.diagrams after.diagrams
  /-- The steps that involved the environment are counted over all diagrams. -/
  lost_eq : lost = db.allSteps.countP (·.Involves id)
  /-- All other steps are left. -/
  length : lost + after.allSteps.length = db.allSteps.length
  lastEnvironment : after.lastEnvironment = db.lastEnvironment
  lastDiagram : after.lastDiagram = db.lastDiagram

theorem Consistent.deletion_purge (h : db.Consistent) (he : db.hasEnvironment id = true) :
    Deletion id db (db.allSteps.countP (·.Involves id)) (db.purge id) where
  environments := by
    obtain ⟨e, hmem, rfl⟩ := List.mem_map.1 (hasEnvironment_iff.1 he)
    obtain ⟨before, rest, hplace, hafter⟩ := exists_split_of_key h.environments_nodup hmem
    exact ⟨before, e.name, rest, hplace, hafter⟩
  diagrams := List.forall₂_map_right_iff.2 (List.forall₂_same.2 fun d _ => d.purged_purge id)
  lost_eq := rfl
  length := by
    have hsplit := List.length_eq_countP_add_countP (·.Involves id) (l := db.allSteps)
    rw [allSteps_purge, ← List.countP_eq_length_filter, hsplit]
    simp
  lastEnvironment := rfl
  lastDiagram := rfl

/-- A known environment is deleted: it is taken from its place, and from every diagram with exactly
the steps that involve it. The answer is the number of these steps over all diagrams. Nothing refers
to the environment any more. -/
theorem deletion_cascades (h : db.Reachable) (he : db.hasEnvironment id = true) :
    ∃ lost after, db.deleteEnvironment id = .ok (lost, after) ∧
      db.apply (.deleteEnvironment id) = .ok (.applied, after) ∧ Deletion id db lost after ∧
      after.hasEnvironment id = false ∧
      ∀ d ∈ after.diagrams, id ∉ d.environments ∧ ∀ s ∈ d.steps, ¬ s.Involves id := by
  have hdeleted := deleteEnvironment_eq he
  refine ⟨_, _, hdeleted, ?_, h.consistent.deletion_purge he, hasEnvironment_purge_self db id, ?_⟩
  · rw [apply, hdeleted]
    rfl
  · intro d hd
    obtain ⟨old, -, rfl⟩ := List.mem_map.1 hd
    have hpurged := old.purged_purge id
    exact ⟨hpurged.not_mem, fun s => hpurged.not_involves⟩

/-- Steps that involve environments which are not attached to their diagram, and a diagram that
loses its only step. The deleted environment has the highest number. -/
def sampleExchange : Contents where
  environments := [⟨⟨"env-1"⟩, "Shop"⟩, ⟨⟨"env-3"⟩, "Bank"⟩, ⟨⟨"env-2"⟩, "Post"⟩]
  diagrams :=
    [ ⟨⟨"order"⟩, "Order", .ofList [⟨"env-2"⟩, ⟨"env-3"⟩, ⟨"env-1"⟩],
        [⟨⟨"env-1"⟩, ⟨"env-3"⟩, "pay"⟩, ⟨⟨"env-1"⟩, ⟨"env-2"⟩, "send"⟩,
          ⟨⟨"env-3"⟩, ⟨"env-1"⟩, "paid"⟩]⟩
    , ⟨⟨"refund"⟩, "Refund", .ofList [⟨"env-1"⟩], [⟨⟨"env-2"⟩, ⟨"env-3"⟩, "pay"⟩]⟩ ]

theorem reachable_sampleExchange : sampleExchange.database.Reachable :=
  (IsStart.of_ofContents (by decide : ofContents sampleExchange = .ok _)).reachable

theorem deletion_cascades_sample :
    let db := sampleExchange.database
    let bank : EnvironmentId := ⟨"env-3"⟩
    let after : Database :=
      { environments := [⟨⟨"env-1"⟩, "Shop"⟩, ⟨⟨"env-2"⟩, "Post"⟩]
        diagrams :=
          [ ⟨⟨"order"⟩, "Order", .ofList [⟨"env-2"⟩, ⟨"env-1"⟩], [⟨⟨"env-1"⟩, ⟨"env-2"⟩, "send"⟩]⟩
          , ⟨⟨"refund"⟩, "Refund", .ofList [⟨"env-1"⟩], []⟩ ]
        lastEnvironment := 3 }
    (db.Reachable ∧ db.hasEnvironment bank = true) ∧
      db.deleteEnvironment bank = .ok (3, after) ∧ Deletion bank db 3 after := by
  intro db bank after
  have hknown : db.hasEnvironment bank = true := by decide
  have hdeleted : db.deleteEnvironment bank = .ok (3, after) := by decide
  obtain ⟨lost, left, hanswer, -, hdeletion, -⟩ := deletion_cascades reachable_sampleExchange hknown
  rw [hdeleted] at hanswer
  cases hanswer
  exact ⟨⟨reachable_sampleExchange, hknown⟩, hdeleted, hdeletion⟩

end Database

end Choreography
