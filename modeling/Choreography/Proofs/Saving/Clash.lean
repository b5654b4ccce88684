import Choreography.Proofs.FileTree.Joined
import Choreography.Proofs.Saving.Success

/-!
# The snapshot and the generated files

A save compares names, not places. Names that stay inside the output root have different places as
soon as they differ (`place_join_inj`), so with such a name the snapshot is safe
(`plan_places_nodup`). Any other name of the snapshot can be another way to write a generated file's
path; then the file is written over the snapshot.

- `snapshot_after_save`: what the path of the snapshot holds in each of these cases.
-/

namespace Choreography

namespace Writer

open FileTree

variable {w : Writer} {adapter : Adapter} {db : Database} {t t' : FileTree} {report : SaveReport}
variable {results : List (Path × Written)} {files : List GeneratedFile} {o : Output}
variable {before after : List Output}

/-! ## Different names, different places -/

/-- What is rendered has been checked. -/
theorem accepts_of_render (h : render adapter db = .ok files) :
    ∃ services, adapter.Accepts services files := by
  simp only [render, bind_eq_ok_iff, mapError_eq_ok_iff] at h
  obtain ⟨services, -, h⟩ := h
  exact ⟨services, (Adapter.generateChecked_eq_ok_iff.1 h).2⟩

/-- Below a root, contained names with the same place have the same components. -/
theorem place_join_inj {root : Path} {name name' : String} (h : Path.isContained ⟨name⟩ = true)
    (h' : Path.isContained ⟨name'⟩ = true)
    (hplace : t.place (root.join name) = t.place (root.join name')) :
    Path.components ⟨name⟩ = Path.components ⟨name'⟩ := by
  obtain ⟨names, hnames⟩ := Path.exists_names h
  obtain ⟨names', hnames'⟩ := Path.exists_names h'
  rw [place_join, place_join, hnames, hnames', placeFrom_names, placeFrom_names] at hplace
  rw [hnames, hnames', List.append_cancel_left hplace]

/-- Checked files go to different places. -/
theorem file_places_nodup {services : List Service} (h : adapter.Accepts services files)
    (root : Path) : (files.map fun file => t.place (root.join file.filename)).Nodup := by
  refine List.Nodup.map_on (fun file hfile file' hfile' hplace => ?_) h.nodup.of_map
  have hcomponents : file.components = file'.components :=
    place_join_inj (h.contained file hfile) (h.contained file' hfile') hplace
  exact List.inj_on_of_nodup_map h.nodup hfile hfile' hcomponents

/-- If the name of the snapshot is contained, then all outputs go to different places. -/
theorem plan_places_nodup {services : List Service} (h : adapter.Accepts services files)
    (hclash : w.NoClash files) (hsnapshot : Path.isContained ⟨w.snapshotFile⟩ = true) :
    ((w.plan db files).map (t.place ·.path)).Nodup := by
  rw [plan, List.map_cons, List.map_map, List.nodup_cons]
  refine ⟨fun hmem => ?_, file_places_nodup h w.root⟩
  obtain ⟨file, hfile, hplace⟩ := List.mem_map.1 hmem
  exact hclash file hfile (place_join_inj (h.contained file hfile) hsnapshot hplace)

/-! ## Outputs at one place -/

/-- The last output that goes to a place is there afterwards. -/
theorem OutputSteps.read_last (h : OutputSteps t (before ++ o :: after) results t')
    (hok : ∀ path e, (path, .failed e) ∉ results)
    (hlast : ∀ o' ∈ after, t.place o'.path ≠ t.place o.path) : t'.read o.path = .ok o.text := by
  obtain ⟨done, r, todo, t₁, t₂, rfl, hbefore, hstep, hafter⟩ := h.at_output
  have hread := hstep.read fun e he => hok o.path e (by simp [he])
  have hplace : ∀ p, t₂.place p = t.place p := fun p =>
    (hstep.change.place p).trans (hbefore.change.place p)
  refine hafter.change.read ?_ hread
  simp only [hplace, List.mem_map, not_exists, not_and]
  exact hlast

/-- An output that has not failed can be opened afterwards, whatever else is written. -/
theorem OutputSteps.opens (h : OutputSteps t (before ++ o :: after) results t')
    (hok : ∀ path e, (path, .failed e) ∉ results) : t'.Opens o.path := by
  obtain ⟨done, r, todo, t₁, t₂, rfl, -, hstep, hafter⟩ := h.at_output
  have hread := hstep.read fun e he => hok o.path e (by simp [he])
  exact hafter.change.opens (read_eq_ok_iff.1 hread).1

/-- Of several outputs at one place the last one is read by all of their paths. -/
theorem OutputSteps.read_of_same_place {p : Path}
    (h : OutputSteps t (before ++ o :: after) results t') (hok : ∀ path e, (path, .failed e) ∉ results)
    (hlast : ∀ o' ∈ after, t.place o'.path ≠ t.place o.path) (hopens : t'.Opens p)
    (hplace : t.place o.path = t.place p) : t'.read p = .ok o.text := by
  have hread := (read_eq_ok_iff.1 (h.read_last hok hlast)).2
  rw [h.change.place, hplace] at hread
  rw [read_eq_ok_iff, h.change.place]
  exact ⟨hopens, hread⟩

/-! ## The path of the snapshot -/

/-- The snapshot is there after a save if no file goes to its place. -/
theorem OutputSteps.read_snapshot (h : OutputSteps t (w.plan db files) results t')
    (hok : ∀ path e, (path, .failed e) ∉ results)
    (hne : ∀ file ∈ files, t.place (w.root.join file.filename) ≠ t.place w.snapshotPath) :
    t'.read w.snapshotPath = .ok (Snapshot.print db) := by
  have hfirst : OutputSteps t ([] ++ ⟨w.snapshotPath, Snapshot.print db⟩ ::
      files.map fun file => ⟨w.root.join file.filename, file.content⟩) results t' := h
  refine hfirst.read_last hok fun o' ho' => ?_
  obtain ⟨file, hfile, rfl⟩ := List.mem_map.1 ho'
  exact hne file hfile

/-- A file that goes to the place of the snapshot is read in its stead. -/
theorem OutputSteps.read_clash {services : List Service} {file : GeneratedFile}
    (h : OutputSteps t (w.plan db files) results t') (hok : ∀ path e, (path, .failed e) ∉ results)
    (haccepts : adapter.Accepts services files) (hfile : file ∈ files)
    (hplace : t.place (w.root.join file.filename) = t.place w.snapshotPath) :
    t'.read w.snapshotPath = .ok file.content := by
  let output (file : GeneratedFile) : Output := ⟨w.root.join file.filename, file.content⟩
  have hnodup := file_places_nodup (t := t) haccepts w.root
  obtain ⟨earlier, later, rfl⟩ := List.append_of_mem hfile
  -- the file is written after the snapshot, and the files behind it go to other places
  have hsnapshot : OutputSteps t ([] ++ ⟨w.snapshotPath, Snapshot.print db⟩ ::
      (earlier ++ file :: later).map output) results t' := h
  have hopens : t'.Opens w.snapshotPath := hsnapshot.opens hok
  have hsplit : OutputSteps t ((⟨w.snapshotPath, Snapshot.print db⟩ :: earlier.map output) ++
      output file :: later.map output) results t' := by
    simpa [plan, output] using h
  refine hsplit.read_of_same_place hok (fun o' ho' => ?_) hopens hplace
  obtain ⟨file', hfile', rfl⟩ := List.mem_map.1 ho'
  rw [List.map_append, List.map_cons, List.nodup_append, List.nodup_cons] at hnodup
  exact fun heq => hnodup.2.1.1 (List.mem_map.2 ⟨file', hfile', heq⟩)

/-- After a successful save no generated file has the snapshot's name, but one can have its place.
Then it has been written over the snapshot; otherwise the snapshot is there. It is always there if
its name is made of names only, so that it stays below the output root. -/
theorem snapshot_after_save (hsave : (w.save storage adapter db).run t = (.ok report, t')) :
    ∃ files, render adapter db = .ok files ∧ w.NoClash files ∧
      (∀ file ∈ files, t.place (w.root.join file.filename) = t.place w.snapshotPath →
        t'.read w.snapshotPath = .ok file.content) ∧
      ((∀ file ∈ files, t.place (w.root.join file.filename) ≠ t.place w.snapshotPath) →
        t'.read w.snapshotPath = .ok (Snapshot.print db)) ∧
      (Path.isContained ⟨w.snapshotFile⟩ = true →
        (∀ file ∈ files, t.place (w.root.join file.filename) ≠ t.place w.snapshotPath) ∧
          t'.read w.snapshotPath = .ok (Snapshot.print db)) := by
  obtain ⟨files, results, hrender, hclash, hsteps, hreport⟩ := save_ok hsave
  obtain ⟨services, haccepts⟩ := accepts_of_render hrender
  have hok := (report_eq_ok_iff.1 hreport).1
  refine ⟨files, hrender, hclash, fun file hfile => hsteps.read_clash hok haccepts hfile,
    hsteps.read_snapshot hok, fun hcontained => ?_⟩
  -- a contained name is made of names only, so different components lead to different places
  have hplaces : ((w.plan db files).map (t.place ·.path)).Nodup :=
    plan_places_nodup haccepts hclash hcontained
  rw [plan, List.map_cons, List.map_map, List.nodup_cons] at hplaces
  have hne : ∀ file ∈ files, t.place (w.root.join file.filename) ≠ t.place w.snapshotPath :=
    fun file hfile heq => hplaces.1 (List.mem_map.2 ⟨file, hfile, heq⟩)
  exact ⟨hne, hsteps.read_snapshot hok hne⟩

theorem snapshot_after_save_sample :
    let w : Writer := ⟨⟨"out"⟩, "database.json"⟩
    ∃ t', (w.save storage (.canned (.ok sampleFiles)) {}).run {} =
        (.ok ⟨[⟨"out/database.json"⟩, ⟨"out/x.txt"⟩], []⟩, t') ∧
      Path.isContained ⟨w.snapshotFile⟩ = true ∧
      t'.read w.snapshotPath = .ok (Snapshot.print {}) := by
  intro w
  obtain ⟨t', hsave⟩ : ∃ t', (w.save storage (.canned (.ok sampleFiles)) {}).run {} =
      (.ok ⟨[⟨"out/database.json"⟩, ⟨"out/x.txt"⟩], []⟩, t') := exists_snd (by decide +kernel)
  have hcontained : Path.isContained ⟨w.snapshotFile⟩ = true := by decide +kernel
  obtain ⟨files, -, -, -, -, h⟩ := snapshot_after_save hsave
  exact ⟨t', hsave, hcontained, (h hcontained).2⟩

/-- With a dot in front, the snapshot's name is another one than that of the file which is written
over it. -/
theorem snapshot_overwritten :
    let w : Writer := ⟨⟨"out"⟩, "./database.json"⟩
    let start : FileTree := {}
    let run := (w.save storage (.canned (.ok [⟨"database.json", "\x7b\x7d", none⟩])) {}).run start
    run.1 = .ok ⟨[⟨"out/./database.json"⟩, ⟨"out/database.json"⟩], []⟩ ∧
      start.place (w.root.join "database.json") = start.place w.snapshotPath ∧
      run.2.read w.snapshotPath = .ok "\x7b\x7d" ∧ Snapshot.print {} ≠ "\x7b\x7d" := by
  decide +kernel

end Writer

end Choreography
