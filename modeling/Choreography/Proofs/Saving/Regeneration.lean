import Choreography.Proofs.SameModel
import Choreography.Proofs.Saving.Success

/-!
# Saving what has been saved

A round loads the snapshot of the output root and saves the loaded database there.

- `outputs_congr`: what a save writes depends on the model alone, not on the counters, which a
  loaded database does not have in common with the saved one.
- `run_writeAll_unchanged`: outputs that are there already are left alone.
- `save_again`: a save right after a successful one of the same model changes nothing.
- `rounds_change_nothing`: neither does any number of rounds, as the snapshot loads as the model
  that was saved.
-/

namespace Choreography

variable {a b db : Database}

/-! ## What a save depends on -/

namespace Writer

open FileTree

variable {w : Writer} {adapter : Adapter} {t t' : FileTree} {report : SaveReport}
variable {outputs : List Output} {results : List (Path × Written)}

/-- Equal models are saved as the same outputs. -/
theorem outputs_congr (w : Writer) (adapter : Adapter) (h : a.SameModel b) :
    w.outputs adapter a = w.outputs adapter b := by
  simp only [Writer.outputs, render, Database.services_congr h, Snapshot.print_congr h]

/-! ## Outputs that are there -/

/-- Outputs that are there are left alone. -/
theorem run_writeAll_unchanged (h : ∀ o ∈ outputs, t.read o.path = .ok o.text) :
    (writeAll storage outputs).run t = (outputs.map fun o => (o.path, .unchanged), t) := by
  induction outputs with
  | nil => rfl
  | cons o rest ih =>
    obtain ⟨ho, hrest⟩ := List.forall_mem_cons.1 h
    have hfirst : (writeOutput storage o).run t = (.unchanged, t) := by
      rw [run_writeOutput, if_pos ho]
    rw [run_writeAll_cons, hfirst]
    simp only [ih hrest, List.map_cons]

theorem report_unchanged (outputs : List Output) :
    Writer.report (outputs.map fun o => (o.path, .unchanged)) =
      .ok ⟨[], outputs.map (·.path)⟩ := by
  rw [report_eq_ok_iff]
  constructor
  · intro path e hmem
    obtain ⟨o, -, ho⟩ := List.mem_map.1 hmem
    cases ho
  · simp [List.filter_map, Function.comp_def]

/-- A save of the same model right after a successful save leaves everything alone. -/
theorem save_again (hsave : (w.save storage adapter a).run t = (.ok report, t')) :
    ∃ files, render adapter a = .ok files ∧
      (((w.plan a files).map (t.place ·.path)).Nodup →
        t'.read w.snapshotPath = .ok (Snapshot.print a) ∧
          ∀ b : Database, b.SameModel a → (w.save storage adapter b).run t' =
            (.ok ⟨[], (w.plan a files).map (·.path)⟩, t')) := by
  obtain ⟨files, results, hrender, hclash, hsteps, hreport⟩ := save_ok hsave
  refine ⟨files, hrender, fun hplaces => ?_⟩
  have hpresent := hsteps.present hplaces (report_eq_ok_iff.1 hreport).1
  refine ⟨hpresent ⟨w.snapshotPath, Snapshot.print a⟩ List.mem_cons_self, fun b hb => ?_⟩
  have houtputs : w.outputs adapter b = .ok (w.plan a files) := by
    rw [outputs_congr w adapter hb]
    exact outputs_eq_ok_iff.2 ⟨files, hrender, hclash, rfl⟩
  rw [run_save houtputs, run_writeAll_unchanged hpresent, report_unchanged]

end Writer

/-! ## Rounds -/

/-- An action some times in a row, and what it answers each time. -/
def repeated {m : Type → Type} [Monad m] {α : Type} (action : m α) : (count : Nat) → m (List α)
  | 0 => return []
  | count + 1 => do
    let first ← action
    return first :: (← repeated action count)

/-- If an action leaves the state as it is, then it answers the same each time. -/
theorem run_repeated {σ α : Type} {action : StateM σ α} {s : σ} {a : α}
    (h : action.run s = (a, s)) (count : Nat) :
    (repeated action count).run s = (List.replicate count a, s) := by
  induction count with
  | zero => rfl
  | succ count ih =>
    have hsucc : (repeated action (count + 1)).run s =
        let first := action.run s
        let others := (repeated action count).run first.2
        (first.1 :: others.1, others.2) := rfl
    rw [hsucc, h]
    simp only [ih, List.replicate_succ]

namespace Compile

section

variable {m : Type → Type} [Monad m]

/-- Loads the snapshot of the output root and saves it again. -/
def round (settings : Settings) (storage : Storage m) : m (Except Failure SaveReport) := do
  match ← load storage (writer settings).snapshotPath with
  | .error failure => return .error failure
  | .ok db => save settings storage db

end

open FileTree Writer

variable {settings : Settings} {t t' : FileTree} {report : SaveReport}

theorem run_load {path : Path} (hdb : db.Consistent)
    (hread : t.read path = .ok (Snapshot.print db)) :
    (load storage path).run t = (.ok db.contents.database, t) := by
  have hrun : (load storage path).run t = (parse (Snapshot.print db), t) := by
    rw [load, StateT.run_bind, run_read, hread]
    rfl
  rw [hrun, parse, Snapshot.parse_print hdb]
  rfl

/-- After a successful save, if its outputs go to different places: the snapshot loads as the model
that was saved, and saving it again reports every output as unchanged, in the order of writing, and
leaves the tree as it is. The same goes for any number of rounds. -/
theorem rounds_change_nothing (hdb : db.Reachable)
    (hsave : (save settings storage db).run t = (.ok report, t')) :
    ∃ files, generate settings db = .ok files ∧
      ((((writer settings).plan db files).map (t.place ·.path)).Nodup →
        let paths := ((writer settings).plan db files).map (·.path)
        (∃ loaded, (load storage (writer settings).snapshotPath).run t' = (.ok loaded, t') ∧
          loaded.SameModel db ∧
          (save settings storage loaded).run t' = (.ok ⟨[], paths⟩, t')) ∧
        ∀ count, (repeated (round settings storage) count).run t' =
          (List.replicate count (.ok ⟨[], paths⟩), t')) := by
  obtain ⟨files, hrender, h⟩ := save_again hsave
  refine ⟨files, hrender, fun hplaces => ?_⟩
  obtain ⟨hsnapshot, hagain⟩ := h hplaces
  have hload := run_load hdb.consistent hsnapshot
  have hloaded := hagain db.contents.database rfl
  refine ⟨⟨_, hload, rfl, hloaded⟩, run_repeated ?_⟩
  rw [round, StateT.run_bind, hload]
  exact hloaded

/-- An environment is created and deleted, so the counter is ahead of that of a loaded database. -/
def sampleEdits : List Operation :=
  [.addEnvironment "Shop", .addEnvironment "Bank", .deleteEnvironment ⟨"env-2"⟩]

theorem rounds_change_nothing_sample :
    let db := Database.run {} sampleEdits
    let paths : List Path :=
      [⟨"generated/database.json"⟩, ⟨"generated/shop.ts"⟩, ⟨"generated/index.ts"⟩]
    db.Reachable ∧ ∃ t', (save {} storage db).run {} = (.ok ⟨paths, []⟩, t') ∧
      (∃ loaded, (load storage (writer {}).snapshotPath).run t' = (.ok loaded, t') ∧
        loaded.SameModel db ∧ (save {} storage loaded).run t' = (.ok ⟨[], paths⟩, t')) ∧
      ∀ count, (repeated (round {} storage) count).run t' =
        (List.replicate count (.ok ⟨[], paths⟩), t') := by
  intro db paths
  have hdb : db.Reachable := ⟨{}, .inl rfl, sampleEdits, rfl⟩
  obtain ⟨t', hsave⟩ : ∃ t', (save {} storage db).run {} = (.ok ⟨paths, []⟩, t') :=
    exists_snd (by decide +kernel)
  obtain ⟨files, hfiles, h⟩ := rounds_change_nothing hdb hsave
  have hcheck : (generate {} db).toOption.all (fun files =>
      (((writer {}).plan db files).map (FileTree.place {} ·.path)).Nodup ∧
        ((writer {}).plan db files).map (·.path) = paths) = true := by decide +kernel
  obtain ⟨hplaces, hpaths⟩ : (((writer {}).plan db files).map (FileTree.place {} ·.path)).Nodup ∧
      ((writer {}).plan db files).map (·.path) = paths := by
    rw [hfiles] at hcheck
    simpa [Except.toOption] using hcheck
  obtain ⟨hload, hrounds⟩ := h hplaces
  rw [hpaths] at hload hrounds
  exact ⟨hdb, t', hsave, hload, hrounds⟩

end Compile

end Choreography
