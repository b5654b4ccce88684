import Choreography.Proofs.Saving.Success

/-!
# What a failed save leaves behind

A save is refused before anything is written, or some of its outputs fail and the others are
written all the same.

- `run_writeAll_append`: outputs are written in turn. `outcome` is what becomes of an output in its
  turn, and `run_writeAll_at` finds it among the results.
- `report_eq_error_iff`: a report fails with the list of the failed outputs, if there are any.
- `partlySaved`: if the outputs go to different places, then exactly the ones that have
  not failed are there afterwards, and where one has failed no file has changed
  (`Writer.PartlySaved`).
- `failed_save`: both kinds of failure.
-/

namespace Choreography

namespace Writer

open FileTree

variable {w : Writer} {adapter : Adapter} {db : Database} {t t' : FileTree} {failure : Failure}
variable {outputs before after : List Output} {results : List (Path × Written)} {o : Output}

/-! ## Turns -/

/-- What becomes of an output in its turn, behind the given ones. -/
def outcome (t : FileTree) (before : List Output) (o : Output) : Written :=
  ((writeOutput storage o).run ((writeAll storage before).run t).2).1

theorem run_writeAll_append (before after : List Output) (t : FileTree) :
    (writeAll storage (before ++ after)).run t =
      let done := (writeAll storage before).run t
      let todo := (writeAll storage after).run done.2
      (done.1 ++ todo.1, todo.2) := by
  induction before generalizing t with
  | nil => rfl
  | cons o before ih => simp only [List.cons_append, run_writeAll_cons, ih]

/-- The results list an output with what became of it in its turn. -/
theorem run_writeAll_at (before : List Output) (o : Output) (after : List Output) (t : FileTree) :
    ∃ done todo, ((writeAll storage (before ++ o :: after)).run t).1 =
      done ++ (o.path, outcome t before o) :: todo := by
  rw [run_writeAll_append]
  exact ⟨_, _, rfl⟩

/-! ## The list of failures -/

/-- Failures are listed in the order of the results. -/
theorem failures_sublist (results : List (Path × Written)) :
    ((failures results).map (·.1)).Sublist (results.map (·.1)) := by
  induction results with
  | nil => exact .slnil
  | cons result results ih =>
    obtain ⟨path, r⟩ := result
    cases r with
    | failed e => exact ih.cons_cons path
    | written | unchanged => exact ih.cons path

theorem report_eq_error_iff : Writer.report results = .error failure ↔
    failures results ≠ [] ∧ failure = .write (failures results) := by
  rw [report_eq]
  by_cases h : failures results = []
  · rw [if_pos (List.isEmpty_iff.2 h)]
    exact iff_of_false nofun fun h' => h'.1 h
  · rw [if_neg fun h' => h (List.isEmpty_iff.1 h'), Except.error.injEq]
    exact ⟨fun heq => ⟨h, heq.symm⟩, fun h' => h'.2.symm⟩

/-- What is refused is refused by a rule for steps or for generated files. -/
theorem outputs_refusal (h : w.outputs adapter db = .error failure) :
    (∃ e, failure = .dangling e) ∨ ∃ e, failure = .codegen e := by
  unfold Writer.outputs render at h
  cases hservices : db.services with
  | error e =>
    rw [hservices] at h
    exact .inl ⟨e, (Except.error.inj h).symm⟩
  | ok services =>
    cases hfiles : adapter.generateChecked services with
    | error e =>
      simp only [hservices, hfiles, mapError_ok, mapError_error, bind, Except.bind] at h
      exact .inr ⟨e, (Except.error.inj h).symm⟩
    | ok files =>
      simp only [hservices, hfiles, mapError_ok, bind, Except.bind] at h
      split at h
      · exact .inr ⟨_, (Except.error.inj h).symm⟩
      · cases h

theorem outputs_ne_write {listed : List (Path × StorageError)} :
    w.outputs adapter db ≠ .error (.write listed) := by
  intro h
  rcases outputs_refusal h with ⟨e, he⟩ | ⟨e, he⟩ <;> cases he

/-! ## A save with failures -/

/-- What a save with failures has done to a tree, and how it is reported. -/
structure PartlySaved (t t' : FileTree) (outputs : List Output)
    (failed : List (Path × StorageError)) : Prop where
  /-- There are failures. -/
  nonempty : failed ≠ []
  /-- No path stands for two outputs. -/
  paths : (outputs.map (·.path)).Nodup
  /-- The failures are listed in the order of writing. -/
  order : (failed.map (·.1)).Sublist (outputs.map (·.path))
  /-- An output is listed with an error exactly if its own write has failed with that error. -/
  failed_iff : ∀ before o after, outputs = before ++ o :: after →
    ∀ e, (o.path, e) ∈ failed ↔ outcome t before o = .failed e
  /-- Where an output has failed, a file still holds its text, and no file has appeared. -/
  kept : ∀ o ∈ outputs, o.path ∈ failed.map (·.1) → ∀ text,
    t'.lookup (t.place o.path) = some (.file text) ↔ t.lookup (t.place o.path) = some (.file text)
  /-- Every other output is there. -/
  present : ∀ o ∈ outputs, o.path ∉ failed.map (·.1) → t'.read o.path = .ok o.text
  /-- No other file has changed, appeared or disappeared. -/
  others : ∀ x ∉ outputs.map (t.place ·.path), ∀ text,
    t'.lookup x = some (.file text) ↔ t.lookup x = some (.file text)
  /-- New directories are ancestors of outputs, and none has been lost. -/
  directories : ∀ x, (t'.lookup x = some .directory →
    t.lookup x = some .directory ∨ ∃ o ∈ outputs, t.Above o.path x) ∧
      (t.lookup x = some .directory → t'.lookup x = some .directory)

/-- Where an output fails, directories are made at most. -/
theorem OutputStep.change_failed {e : StorageError} (h : OutputStep t o (.failed e) t') :
    Change (t.Above o.path) Nowhere t t' := by
  cases h with
  | failed _ _ failed =>
    cases failed with
    | failed _ made => exact made

/-- The place of an output that has failed in its turn holds the files that it held. -/
theorem Turn.file_iff_of_failed {r : Written} {t₁ t₂ : FileTree} (h : Turn t t' o r t₁ t₂)
    {e : StorageError} (hr : r = .failed e) {text : String} :
    t'.lookup (t.place o.path) = some (.file text) ↔
      t.lookup (t.place o.path) = some (.file text) := by
  subst hr
  have hstep := h.step.change_failed
  rw [h.after.file_iff fun hne => hne rfl, hstep.file_iff fun hx => hx,
    h.before.file_iff fun hne => hne rfl]

/-- If all outputs go to different places and some have failed, the others are there. -/
theorem partlySaved {t : FileTree} (hsome : failures ((writeAll storage outputs).run t).1 ≠ [])
    (hplaces : (outputs.map (t.place ·.path)).Nodup) :
    PartlySaved t ((writeAll storage outputs).run t).2 outputs
      (failures ((writeAll storage outputs).run t).1) := by
  have h := outputSteps t outputs
  have hpaths : (outputs.map (·.path)).Nodup := paths_nodup hplaces
  -- each path has one result
  have hresult : ∀ {path r r'}, (path, r) ∈ ((writeAll storage outputs).run t).1 →
      (path, r') ∈ ((writeAll storage outputs).run t).1 → r = r' := by
    intro path r r' hr hr'
    rw [← h.paths] at hpaths
    exact congrArg Prod.snd (List.inj_on_of_nodup_map hpaths hr hr' rfl)
  refine
    { nonempty := hsome
      paths := hpaths
      order := ?_
      failed_iff := ?_
      kept := fun o ho hfailed text => ?_
      present := fun o ho hfailed => ?_
      others := fun x hx text => h.change.file_iff hx
      directories := fun x => ⟨h.change.directory_of, h.change.directory⟩ }
  · rw [← h.paths]
    exact failures_sublist _
  -- an output fails if its own write does, in the tree that those before it have left
  · rintro before o after rfl e
    obtain ⟨done, todo, hat⟩ := run_writeAll_at before o after t
    have hmem : (o.path, outcome t before o) ∈
        ((writeAll storage (before ++ o :: after)).run t).1 := by simp [hat]
    rw [mem_failures]
    exact ⟨fun hfailed => hresult hmem hfailed, fun heq => heq ▸ hmem⟩
  -- no other output goes to its place, so a failed one leaves the file there alone
  · obtain ⟨r, t₁, t₂, hmem, hturn⟩ := h.turn hplaces ho
    obtain ⟨⟨_, e⟩, hlisted, rfl⟩ := List.mem_map.1 hfailed
    exact hturn.file_iff_of_failed (hresult hmem (mem_failures.1 hlisted))
  · obtain ⟨r, t₁, t₂, hmem, hturn⟩ := h.turn hplaces ho
    refine hturn.read fun e hr => hfailed ?_
    exact List.mem_map.2 ⟨_, mem_failures.2 (hr ▸ hmem), rfl⟩

/-- A save that fails for another reason than its writes leaves the tree as it was. If writes have
failed and the outputs go to different places, then exactly the outputs whose own write has failed
are listed, in the order of writing: at their places no file has changed or appeared, and all other
outputs are there. -/
theorem failed_save (hsave : (w.save storage adapter db).run t = (.error failure, t')) :
    ((∀ failed, failure ≠ .write failed) → w.outputs adapter db = .error failure ∧ t' = t) ∧
      ∀ failed, failure = .write failed → ∃ files, render adapter db = .ok files ∧
        (((w.plan db files).map (t.place ·.path)).Nodup →
          PartlySaved t t' (w.plan db files) failed) := by
  -- either the outputs cannot be made, and nothing is written, or some writes fail
  cases houtputs : w.outputs adapter db with
  | error e =>
    rw [run_save_refused houtputs, Prod.mk.injEq, Except.error.injEq] at hsave
    obtain ⟨rfl, rfl⟩ := hsave
    refine ⟨fun _ => ⟨rfl, rfl⟩, ?_⟩
    rintro failed rfl
    exact absurd houtputs outputs_ne_write
  | ok outputs =>
    obtain ⟨files, hrender, -, rfl⟩ := outputs_eq_ok_iff.1 houtputs
    rw [run_save houtputs, Prod.mk.injEq] at hsave
    obtain ⟨hreport, rfl⟩ := hsave
    obtain ⟨hsome, rfl⟩ := report_eq_error_iff.1 hreport
    refine ⟨fun hne => absurd rfl (hne _), ?_⟩
    rintro failed heq
    cases heq
    exact ⟨files, hrender, partlySaved hsome⟩

/-- A file where a directory is due, and a directory where a file is due. -/
def obstructedTree : FileTree where
  entries := [(["out", "plain"], .file "kept"), (["out", "full"], .directory), (["out"], .directory)]

/-- The last file needs a directory where another output is put. -/
def obstructedFiles : List GeneratedFile :=
  [⟨"plain/a.ts", "a", none⟩, ⟨"b.ts", "b", none⟩, ⟨"full", "c", none⟩, ⟨"b.ts/d.ts", "d", none⟩]

def obstructedFailures : List (Path × StorageError) :=
  [ (⟨"out/plain/a.ts"⟩, StorageFault.alreadyExists.error)
  , (⟨"out/full"⟩, StorageFault.isADirectory.error)
  , (⟨"out/b.ts/d.ts"⟩, StorageFault.alreadyExists.error) ]

theorem failed_save_sample :
    let w : Writer := ⟨⟨"out"⟩, "database.json"⟩
    let clashing : Writer := ⟨⟨"out"⟩, "b.ts"⟩
    (∃ t', (w.save storage (.canned (.ok obstructedFiles)) {}).run obstructedTree =
        (.error (.write obstructedFailures), t') ∧
      PartlySaved obstructedTree t' (w.plan {} obstructedFiles) obstructedFailures) ∧
    ∃ t', (clashing.save storage (.canned (.ok obstructedFiles)) {}).run obstructedTree =
        (.error (.codegen (.duplicateFile "canned" "b.ts")), t') ∧ t' = obstructedTree := by
  intro w clashing
  obtain ⟨t', hsave⟩ : ∃ t', (w.save storage (.canned (.ok obstructedFiles)) {}).run
      obstructedTree = (.error (.write obstructedFailures), t') := exists_snd (by decide +kernel)
  obtain ⟨t'', hrefused⟩ : ∃ t', (clashing.save storage (.canned (.ok obstructedFiles)) {}).run
      obstructedTree = (.error (.codegen (.duplicateFile "canned" "b.ts")), t') :=
    exists_snd (by decide +kernel)
  have hrender : render (.canned (.ok obstructedFiles)) {} = .ok obstructedFiles := by
    decide +kernel
  obtain ⟨files, hfiles, h⟩ := (failed_save hsave).2 _ rfl
  obtain rfl : obstructedFiles = files := Except.ok.inj (hrender.symm.trans hfiles)
  exact ⟨⟨t', hsave, h (by decide +kernel)⟩, t'', hrefused, ((failed_save hrefused).1 nofun).2⟩

end Writer

end Choreography
