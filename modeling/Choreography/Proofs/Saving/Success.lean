import Choreography.Compile
import Choreography.Proofs.GeneratedFile
import Choreography.Proofs.RoundTrip
import Choreography.Proofs.Saving.Outputs
import Mathlib.Data.List.Nodup

/-!
# What a successful save leaves behind

- `Writer.plan`: the outputs of a save, for the files that have been rendered. A save that succeeds
  has written all of them (`save_ok`).
- `OutputSteps.saved`: if the outputs go to different places, then all of them are there afterwards,
  and nothing else has changed but for directories above them (`Writer.Saved`).
- `successful_save`: the same for a save, and its snapshot loads again.

An output is reported as unchanged if it could be read with its text when its turn came. Before the
save that need not be so for a path with `..`, which can go through a directory that the save makes.
-/

namespace Choreography

namespace Writer

open FileTree

variable {w : Writer} {adapter : Adapter} {db : Database} {t t' : FileTree} {report : SaveReport}
variable {outputs : List Output} {results : List (Path × Written)} {o : Output}

/-- The outputs of a save in the order of writing, for the files that have been rendered. -/
def plan (w : Writer) (db : Database) (files : List GeneratedFile) : List Output :=
  ⟨w.snapshotPath, Snapshot.print db⟩ ::
    files.map fun file => ⟨w.root.join file.filename, file.content⟩

/-- No file has the components of the snapshot's name. -/
def NoClash (w : Writer) (files : List GeneratedFile) : Prop :=
  ∀ file ∈ files, file.components ≠ Path.components ⟨w.snapshotFile⟩

theorem outputs_eq_ok_iff : w.outputs adapter db = .ok outputs ↔
    ∃ files, render adapter db = .ok files ∧ w.NoClash files ∧ w.plan db files = outputs := by
  simp only [Writer.outputs, bind_eq_ok_iff]
  refine exists_congr fun files => and_congr_right fun _ => ?_
  have hclash : w.NoClash files ↔ files.find? (fun file =>
      (⟨file.filename⟩ : Path).components = (⟨w.snapshotFile⟩ : Path).components) = none := by
    simp [NoClash, GeneratedFile.components]
  rw [hclash]
  cases files.find? _ with
  | some file => exact ⟨fun h => absurd h throw_ne_ok, fun h => nomatch h.1⟩
  | none => exact pure_eq_ok_iff.trans ⟨fun h => ⟨rfl, h⟩, fun h => h.2⟩

/-- The outputs that failed. -/
def failures (results : List (Path × Written)) : List (Path × StorageError) :=
  results.filterMap fun
    | (path, .failed error) => some (path, error)
    | _ => none

theorem mem_failures {path : Path} {e : StorageError} :
    (path, e) ∈ failures results ↔ (path, .failed e) ∈ results := by
  rw [failures, List.mem_filterMap]
  constructor
  · rintro ⟨⟨path', r⟩, hmem, h⟩
    cases r with
    | failed e' =>
      cases h
      exact hmem
    | written | unchanged => cases h
  · exact fun hmem => ⟨_, hmem, rfl⟩

theorem report_eq (results : List (Path × Written)) :
    Writer.report results = if (failures results).isEmpty then
      .ok ⟨(results.filter (·.2 = .written)).map (·.1),
        (results.filter (·.2 = .unchanged)).map (·.1)⟩
    else .error (.write (failures results)) := rfl

theorem report_eq_ok_iff : Writer.report results = .ok report ↔
    (∀ path e, (path, .failed e) ∉ results) ∧
      ⟨(results.filter (·.2 = .written)).map (·.1),
        (results.filter (·.2 = .unchanged)).map (·.1)⟩ = report := by
  have hfailures : (failures results).isEmpty = true ↔ ∀ path e, (path, .failed e) ∉ results := by
    rw [List.isEmpty_iff, List.eq_nil_iff_forall_not_mem]
    simp only [Prod.forall, mem_failures]
  rw [← hfailures, report_eq]
  split
  · next h => exact ⟨fun h' => ⟨h, Except.ok.inj h'⟩, fun h' => congrArg _ h'.2⟩
  · next h => exact iff_of_false nofun fun h' => h h'.1

/-! ## What a save goes through -/

theorem run_save (h : w.outputs adapter db = .ok outputs) (t : FileTree) :
    (w.save storage adapter db).run t = (Writer.report ((writeAll storage outputs).run t).1,
      ((writeAll storage outputs).run t).2) := by
  rw [save, h]
  rfl

/-- A save that is refused for what it would write has written nothing. -/
theorem run_save_refused {e : Failure} (h : w.outputs adapter db = .error e) (t : FileTree) :
    (w.save storage adapter db).run t = (.error e, t) := by
  rw [save, h]
  rfl

/-- A save that succeeds has rendered its files and written all outputs. -/
theorem save_ok (h : (w.save storage adapter db).run t = (.ok report, t')) :
    ∃ files results, render adapter db = .ok files ∧ w.NoClash files ∧
      OutputSteps t (w.plan db files) results t' ∧ Writer.report results = .ok report := by
  cases houtputs : w.outputs adapter db with
  | error e =>
    rw [run_save_refused houtputs] at h
    cases h
  | ok outputs =>
    obtain ⟨files, hrender, hclash, rfl⟩ := outputs_eq_ok_iff.1 houtputs
    rw [run_save houtputs, Prod.mk.injEq] at h
    obtain ⟨hreport, rfl⟩ := h
    exact ⟨files, _, hrender, hclash, outputSteps t _, hreport⟩

/-! ## The report -/

/-- If no path occurs twice, what has not failed and is not unchanged has been written. -/
theorem written_eq (hpaths : (results.map (·.1)).Nodup)
    (hfailed : ∀ path e, (path, .failed e) ∉ results) :
    (results.filter (·.2 = .written)).map (·.1) = (results.map (·.1)).filter
      (· ∉ (results.filter (·.2 = .unchanged)).map (·.1)) := by
  rw [List.filter_map]
  congr 1
  refine List.filter_congr fun (path, r) hmem => ?_
  have hsame : ∀ r', (path, r') ∈ results → r' = r := fun r' hmem' =>
    congrArg Prod.snd (List.inj_on_of_nodup_map hpaths hmem' hmem rfl)
  cases r with
  | failed e => exact absurd hmem (hfailed path e)
  | written =>
    have hnot : (path, Written.unchanged) ∉ results := fun h => nomatch hsame _ h
    simp [hnot]
  | unchanged => simp [hmem]

theorem mem_unchanged_iff (hpaths : (results.map (·.1)).Nodup) {path : Path} {r : Written}
    (hmem : (path, r) ∈ results) :
    path ∈ (results.filter (·.2 = .unchanged)).map (·.1) ↔ r = .unchanged := by
  have hiff : path ∈ (results.filter (·.2 = .unchanged)).map (·.1) ↔ (path, .unchanged) ∈ results :=
    by simp
  rw [hiff]
  constructor
  · intro hmem'
    exact congrArg Prod.snd (List.inj_on_of_nodup_map hpaths hmem hmem' rfl)
  · rintro rfl
    exact hmem

/-! ## The turn of an output -/

/-- The turn of an output, between two trees that are at its place like the first tree of all and
like the last. -/
structure Turn (t t' : FileTree) (o : Output) (r : Written) (t₁ t₂ : FileTree) : Prop where
  before : Change (fun _ => True) (· ≠ t.place o.path) t t₁
  step : OutputStep t₁ o r t₂
  after : Change (fun _ => True) (· ≠ t.place o.path) t₂ t'

/-- Outputs that go to different places have different paths. -/
theorem paths_nodup (h : (outputs.map (t.place ·.path)).Nodup) : (outputs.map (·.path)).Nodup := by
  have hcomp : (outputs.map (·.path)).map t.place = outputs.map (t.place ·.path) := by simp
  rw [← hcomp] at h
  exact h.of_map

/-- An output has a turn if no other goes to its place. -/
theorem OutputSteps.turn (h : OutputSteps t outputs results t')
    (hplaces : (outputs.map (t.place ·.path)).Nodup) (ho : o ∈ outputs) :
    ∃ r t₁ t₂, (o.path, r) ∈ results ∧ Turn t t' o r t₁ t₂ := by
  obtain ⟨before, after, rfl⟩ := List.append_of_mem ho
  obtain ⟨done, r, todo, t₁, t₂, rfl, hbefore, hstep, hafter⟩ := h.at_output
  rw [List.map_append, List.map_cons, List.nodup_append, List.nodup_cons] at hplaces
  obtain ⟨-, ⟨hne, -⟩, hdisjoint⟩ := hplaces
  have hplace : ∀ p, t₂.place p = t.place p := fun p =>
    (hstep.change.place p).trans (hbefore.change.place p)
  refine ⟨r, t₁, t₂, by simp, ?_, hstep, ?_⟩
  · exact hbefore.change.mono (fun _ _ => trivial) fun x hx => hdisjoint x hx _ List.mem_cons_self
  · refine hafter.change.mono (fun _ _ => trivial) ?_
    simp only [hplace]
    rintro x hx rfl
    exact hne hx

namespace Turn

variable {r : Written} {t₁ t₂ : FileTree}

theorem unchanged_of_read (h : Turn t t' o r t₁ t₂) (hread : t.read o.path = .ok o.text) :
    r = .unchanged :=
  h.step.eq_unchanged_iff.2 (h.before.read (fun hne => hne rfl) hread)

theorem file_of_unchanged (h : Turn t t' o r t₁ t₂) (hr : r = .unchanged) :
    t.lookup (t.place o.path) = some (.file o.text) := by
  have hx := (read_eq_ok_iff.1 (h.step.eq_unchanged_iff.1 hr)).2
  rwa [h.before.place, h.before.file_iff fun hne => hne rfl] at hx

theorem read_of_unchanged (h : Turn t t' o r t₁ t₂) (ht : t.Closed)
    (hup : .up ∉ o.path.components) (hr : r = .unchanged) : t.read o.path = .ok o.text :=
  ht.read h.before.current hup (h.step.eq_unchanged_iff.1 hr) (h.file_of_unchanged hr)

theorem read (h : Turn t t' o r t₁ t₂) (hr : ∀ e, r ≠ .failed e) : t'.read o.path = .ok o.text := by
  refine h.after.read ?_ (h.step.read hr)
  rw [h.step.change.place, h.before.place]
  exact fun hne => hne rfl

end Turn

/-! ## All outputs -/

/-- If none has failed and all go to different places, all outputs are there. -/
theorem OutputSteps.present (h : OutputSteps t outputs results t')
    (hplaces : (outputs.map (t.place ·.path)).Nodup)
    (hfailed : ∀ path e, (path, .failed e) ∉ results) :
    ∀ o ∈ outputs, t'.read o.path = .ok o.text := by
  intro o ho
  obtain ⟨r, t₁, t₂, hmem, hturn⟩ := h.turn hplaces ho
  exact hturn.read fun e hr => hfailed o.path e (hr ▸ hmem)

/-- What a successful save has done to a tree, and how it is reported. -/
structure Saved (t t' : FileTree) (outputs : List Output) (report : SaveReport) : Prop where
  /-- No path stands for two outputs. -/
  paths : (outputs.map (·.path)).Nodup
  /-- The unchanged outputs are listed in the order of writing. -/
  unchanged : report.unchanged.Sublist (outputs.map (·.path))
  /-- All the others are listed as written, in the order of writing. -/
  written : report.written = (outputs.map (·.path)).filter (· ∉ report.unchanged)
  /-- What could be read with its text before the save is unchanged. -/
  unchanged_of_read : ∀ o ∈ outputs, t.read o.path = .ok o.text → o.path ∈ report.unchanged
  /-- What is unchanged is a file that held its text before the save. -/
  file_of_unchanged : ∀ o ∈ outputs, o.path ∈ report.unchanged →
    t.lookup (t.place o.path) = some (.file o.text)
  /-- For a path without `..` the two are the same. -/
  unchanged_iff_read : ∀ o ∈ outputs, .up ∉ o.path.components →
    (o.path ∈ report.unchanged ↔ t.read o.path = .ok o.text)
  /-- Every output is there. -/
  present : ∀ o ∈ outputs, t'.read o.path = .ok o.text
  /-- No other file has changed, appeared or disappeared. -/
  others : ∀ x ∉ outputs.map (t.place ·.path), ∀ text,
    t'.lookup x = some (.file text) ↔ t.lookup x = some (.file text)
  /-- New directories are ancestors of outputs. -/
  directories : ∀ x, t'.lookup x = some .directory →
    t.lookup x = some .directory ∨ ∃ o ∈ outputs, t.Above o.path x
  /-- No directory has been lost. -/
  kept : ∀ x, t.lookup x = some .directory → t'.lookup x = some .directory
  /-- Whatever is there stands in a directory. -/
  closed : t'.Closed

/-- If all outputs go to different places and none has failed, they are saved. -/
theorem OutputSteps.saved (h : OutputSteps t outputs results t') (ht : t.Closed)
    (hreport : Writer.report results = .ok report)
    (hplaces : (outputs.map (t.place ·.path)).Nodup) : Saved t t' outputs report := by
  obtain ⟨hfailed, rfl⟩ := report_eq_ok_iff.1 hreport
  have hpaths : (outputs.map (·.path)).Nodup := paths_nodup hplaces
  have hkeys := hpaths
  rw [← h.paths] at hkeys
  -- what is listed of an output is what its own turn has come to, as its path is listed once
  have hturn : ∀ o ∈ outputs, ∃ r t₁ t₂, Turn t t' o r t₁ t₂ ∧
      (o.path ∈ (results.filter (·.2 = .unchanged)).map (·.1) ↔ r = .unchanged) := by
    intro o ho
    obtain ⟨r, t₁, t₂, hmem, hturn⟩ := h.turn hplaces ho
    exact ⟨r, t₁, t₂, hturn, mem_unchanged_iff hkeys hmem⟩
  refine
    { paths := hpaths
      unchanged := ?_
      written := ?_
      unchanged_of_read := fun o ho hread => ?_
      file_of_unchanged := fun o ho hmem => ?_
      unchanged_iff_read := fun o ho hup => ?_
      present := h.present hplaces hfailed
      others := fun x hx text => h.change.file_iff hx
      directories := fun x hx => h.change.directory_of hx
      kept := fun x hx => h.change.directory hx
      closed := h.change.closed ht }
  · rw [← h.paths]
    exact List.filter_sublist.map _
  · rw [← h.paths]
    exact written_eq hkeys hfailed
  · obtain ⟨r, t₁, t₂, hturn, hr⟩ := hturn o ho
    exact hr.2 (hturn.unchanged_of_read hread)
  · obtain ⟨r, t₁, t₂, hturn, hr⟩ := hturn o ho
    exact hturn.file_of_unchanged (hr.1 hmem)
  · obtain ⟨r, t₁, t₂, hturn, hr⟩ := hturn o ho
    exact ⟨fun hmem => hturn.read_of_unchanged ht hup (hr.1 hmem),
      fun hread => hr.2 (hturn.unchanged_of_read hread)⟩

/-! ## The snapshot -/

/-- A snapshot that can be read loads. -/
theorem load_snapshot (hdb : db.Consistent) {path : Path}
    (hread : t.read path = .ok (Snapshot.print db)) :
    ∃ loaded, (Snapshot.load storage path).run t = (.ok loaded, t) ∧ loaded.SameModel db := by
  refine ⟨db.contents.database, ?_, rfl⟩
  have hrun : (Snapshot.load storage path).run t = (Snapshot.parse (Snapshot.print db), t) := by
    rw [Snapshot.load, StateT.run_bind, run_read, hread]
    rfl
  rw [hrun, Snapshot.parse_print hdb]

/-- After a successful save, if its outputs go to different places: every output is listed once, as
written or as unchanged, and is there with its text; other files are as before, and new directories
are ancestors of outputs. The snapshot loads again. -/
theorem successful_save (hdb : db.Consistent) (ht : t.Closed)
    (hsave : (w.save storage adapter db).run t = (.ok report, t')) :
    ∃ files, render adapter db = .ok files ∧
      (((w.plan db files).map (t.place ·.path)).Nodup →
        Saved t t' (w.plan db files) report ∧
          ∃ loaded, (Snapshot.load storage w.snapshotPath).run t' = (.ok loaded, t') ∧
            loaded.SameModel db) := by
  obtain ⟨files, results, hrender, -, hsteps, hreport⟩ := save_ok hsave
  refine ⟨files, hrender, fun hplaces => ?_⟩
  have hsaved := hsteps.saved ht hreport hplaces
  have hsnapshot := hsaved.present ⟨w.snapshotPath, Snapshot.print db⟩ List.mem_cons_self
  exact ⟨hsaved, load_snapshot hdb hsnapshot⟩

/-- Both outputs of a save, at the top. -/
def sampleTree : FileTree where
  entries := [(["x.txt"], .file "hello"), (["database.json"], .file (Snapshot.print {}))]

def sampleFiles : List GeneratedFile := [⟨"x.txt", "hello", none⟩]

/-- The root is the working directory, by way of a directory that is missing. -/
def sampleWriter : Writer := ⟨⟨"new/.."⟩, "database.json"⟩

def sampleReport : SaveReport where
  written := [⟨"new/../database.json"⟩]
  unchanged := [⟨"new/../x.txt"⟩]

theorem sampleTree_closed : sampleTree.Closed := closed_of_entries (by decide +kernel)

/-- A result that is known in its first part. -/
theorem exists_snd {α β : Type} {p : α × β} {a : α} (h : p.1 = a) : ∃ b, p = (a, b) :=
  ⟨p.2, Prod.ext h rfl⟩

theorem successful_save_sample :
    ∃ t', (sampleWriter.save storage (.canned (.ok sampleFiles)) {}).run sampleTree =
        (.ok sampleReport, t') ∧
      Saved sampleTree t' (sampleWriter.plan {} sampleFiles) sampleReport ∧
      ∃ loaded, (Snapshot.load storage sampleWriter.snapshotPath).run t' = (.ok loaded, t') ∧
        loaded.SameModel {} := by
  obtain ⟨t', hsave⟩ : ∃ t', (sampleWriter.save storage (.canned (.ok sampleFiles)) {}).run
      sampleTree = (.ok sampleReport, t') := exists_snd (by decide +kernel)
  have hrender : render (.canned (.ok sampleFiles)) {} = .ok sampleFiles := by decide +kernel
  obtain ⟨files, hfiles, h⟩ := successful_save .empty sampleTree_closed hsave
  obtain rfl : sampleFiles = files := Except.ok.inj (hrender.symm.trans hfiles)
  exact ⟨t', hsave, h (by decide +kernel)⟩

/-- The snapshot is written although its file held its text, as its path could not be followed yet;
and the other output is unchanged although its path could not be followed before the save. -/
theorem unchanged_not_as_before :
    let outputs := sampleWriter.plan {} sampleFiles
    Database.Consistent {} ∧ sampleTree.Closed ∧
    (∃ t', (sampleWriter.save storage (.canned (.ok sampleFiles)) {}).run sampleTree =
      (.ok sampleReport, t')) ∧
    render (.canned (.ok sampleFiles)) {} = .ok sampleFiles ∧
    (outputs.map (sampleTree.place ·.path)).Nodup ∧
    (¬ ∀ o ∈ outputs, o.path ∈ sampleReport.unchanged ↔ sampleTree.read o.path = .ok o.text) ∧
    ¬ ∀ o ∈ outputs, o.path ∈ sampleReport.unchanged ↔
      sampleTree.lookup (sampleTree.place o.path) = some (.file o.text) :=
  ⟨.empty, sampleTree_closed, exists_snd (by decide +kernel), by decide +kernel, by decide +kernel,
    by decide +kernel, by decide +kernel⟩

end Writer

end Choreography
