import Choreography.Proofs.Containment
import Choreography.Proofs.Saving.Failure
import Choreography.Proofs.Saving.Regeneration
import Choreography.Run

/-!
# Running the program again

A run reads its settings and its snapshot, and then it saves. What it reads may be what it writes:
the snapshot of the output root can be the one that is loaded.

- `Looks`: actions that only look at the tree. Everything in front of the save is one (`runIn_eq`),
  so a run that does not fail while writing has written nothing or everything.
- `findSettings_again`: settings are found again if the file that was there is as it was, and those
  in front of it are still missing.
- `Separate`: nothing that a run reads is something that it writes, but for the snapshot.
- `rerun_finds_settings`: that is not enough for the next run to read the same. Directories that are
  made for the outputs can stand where settings are looked for, or lead there.
- `Settled`: no such directories are made.
- `rerun_changes_nothing`: then a run right after a successful one reports every output as unchanged
  and leaves the tree as it is.
-/

namespace Choreography

/-! ## Looking at a state -/

/-- The action leaves every state as it is. -/
def Looks {σ α : Type} (action : StateM σ α) : Prop := ∀ s, (action.run s).2 = s

section Looks

variable {σ α β : Type} {action : StateM σ α} {rest : α → StateM σ β}

theorem looks_pure (a : α) : Looks (pure a : StateM σ α) := fun _ => rfl

theorem Looks.bind (h : Looks action) (hrest : ∀ a, Looks (rest a)) : Looks (action >>= rest) := by
  intro s
  have hrun : ((action >>= rest).run s).2 = ((rest (action.run s).1).run (action.run s).2).2 := rfl
  rw [hrun, hrest, h]

/-- What an action goes on to do, it does in the state that has been looked at. -/
theorem Looks.run_bind (h : Looks action) (s : σ) :
    (action >>= rest).run s = (rest (action.run s).1).run s := by
  have hrun : (action >>= rest).run s = (rest (action.run s).1).run (action.run s).2 := rfl
  rw [hrun, h]

end Looks

namespace Run

open FileTree Writer

variable {t t' : FileTree} {made written : Place → Prop} {path : Path} {paths : List Path}
variable {settings : Settings} {db : Database} {directory : Option Path} {args : Arguments}

theorem looks_contains (path : Path) : Looks (storage.contains path) := fun _ => rfl

theorem looks_read (path : Path) : Looks (storage.read path) := fun _ => rfl

theorem looks_readSettings (path : Path) : Looks (readSettings storage path) := by
  unfold readSettings
  refine (looks_contains path).bind fun found => ?_
  split
  · exact looks_pure _
  · refine (looks_read path).bind fun text => ?_
    split
    · exact looks_pure _
    · split <;> exact looks_pure _

theorem looks_findSettings (paths : List Path) : Looks (findSettings storage paths) := by
  induction paths with
  | nil => exact looks_pure _
  | cons path rest ih =>
    refine (looks_contains path).bind fun found => ?_
    split
    · exact looks_readSettings path
    · exact ih

theorem looks_loadSettings (directory : Option Path) (explicit : Option String) :
    Looks (loadSettings storage directory explicit) := by
  cases explicit with
  | some path => exact looks_readSettings ⟨path⟩
  | none => exact looks_findSettings _

theorem looks_load (path : Path) : Looks (Compile.load storage path) := by
  refine (looks_read path).bind fun source => ?_
  split <;> exact looks_pure _

/-! ## Settings -/

theorem readSettings_eq_ok_iff : ((readSettings storage path).run t).1 = .ok settings ↔
    ∃ text, t.read path = .ok text ∧ Settings.parseToml text = .ok settings := by
  have hcontains : ((storage.contains path).run t).1 = t.contains path := rfl
  rw [readSettings, (looks_contains path).run_bind, hcontains]
  cases hpath : t.contains path with
  | false =>
    refine iff_of_false (fun h => nomatch h) ?_
    rintro ⟨text, hread, -⟩
    rw [contains_of_read hread] at hpath
    cases hpath
  | true =>
    rw [if_neg (by decide), (looks_read path).run_bind, run_read]
    cases t.read path with
    | error fault => exact iff_of_false (fun h => nomatch h) nofun
    | ok text =>
      have hreported : reported (.ok text : Except StorageFault String) = .ok text := rfl
      rw [hreported]
      dsimp only
      cases hparse : Settings.parseToml text with
      | error fault => simp [hparse]
      | ok found =>
        constructor
        · intro h
          obtain rfl : found = settings := Except.ok.inj h
          exact ⟨text, rfl, hparse⟩
        · rintro ⟨_, ⟨⟩, h⟩
          cases hparse.symm.trans h
          rfl

theorem run_findSettings_cons (path : Path) (rest : List Path) (t : FileTree) :
    (findSettings storage (path :: rest)).run t =
      if t.contains path then (readSettings storage path).run t
      else (findSettings storage rest).run t := by
  have hcontains : ((storage.contains path).run t).1 = t.contains path := rfl
  rw [findSettings, (looks_contains path).run_bind, hcontains]
  split <;> rfl

/-- The files that are looked for: all up to the first one that is there. -/
def lookedFor (t : FileTree) : List Path → List Path
  | [] => []
  | path :: rest => path :: if t.contains path then [] else lookedFor t rest

/-- Settings are found again if what could be read can be read, and nothing has appeared. -/
theorem findSettings_again
    (hread : ∀ path ∈ lookedFor t paths, ∀ text, t.read path = .ok text → t'.read path = .ok text)
    (hmissing : ∀ path ∈ lookedFor t paths, t.contains path = false → t'.contains path = false)
    (h : ((findSettings storage paths).run t).1 = .ok settings) :
    ((findSettings storage paths).run t').1 = .ok settings := by
  induction paths with
  | nil => exact h
  | cons path rest ih =>
    rw [lookedFor] at hread hmissing
    obtain ⟨hreadFirst, hreadRest⟩ := List.forall_mem_cons.1 hread
    obtain ⟨hmissingFirst, hmissingRest⟩ := List.forall_mem_cons.1 hmissing
    rw [run_findSettings_cons] at h ⊢
    cases hpath : t.contains path with
    | true =>
      rw [hpath, if_pos rfl] at h
      obtain ⟨text, htext, hparse⟩ := readSettings_eq_ok_iff.1 h
      rw [if_pos (contains_of_read (hreadFirst text htext))]
      exact readSettings_eq_ok_iff.2 ⟨text, hreadFirst text htext, hparse⟩
    | false =>
      rw [hpath, if_neg Bool.false_ne_true] at h hreadRest hmissingRest
      rw [hmissingFirst hpath, if_neg Bool.false_ne_true]
      exact ih hreadRest hmissingRest h

/-- The files that settings can come from. -/
def settingsPaths (directory : Option Path) : (explicit : Option String) → List Path
  | some path => [⟨path⟩]
  | none => localSettings :: (directory.map userSettings).toList

/-- The files in which a run looks for settings. -/
def searched (t : FileTree) (directory : Option Path) (explicit : Option String) : List Path :=
  lookedFor t (settingsPaths directory explicit)

theorem mem_of_mem_lookedFor (h : path ∈ lookedFor t paths) : path ∈ paths := by
  induction paths with
  | nil => exact h
  | cons first rest ih =>
    rcases List.mem_cons.1 h with rfl | h
    · exact List.mem_cons_self
    · split at h
      · cases h
      · exact List.mem_cons_of_mem first (ih h)

theorem loadSettings_again {explicit : Option String} (h : Change made written t t')
    (ht : t.Closed)
    (hway : ∀ path ∈ searched t directory explicit, t.lookup (t.place path) ≠ none →
      t.KeepsWay made path)
    (hmade : ∀ path ∈ searched t directory explicit, ¬ made (t.place path))
    (hwritten : ∀ path ∈ searched t directory explicit, ¬ written (t.place path))
    (hload : ((loadSettings storage directory explicit).run t).1 = .ok settings) :
    ((loadSettings storage directory explicit).run t').1 = .ok settings := by
  have hread : ∀ path ∈ searched t directory explicit, ∀ text,
      t.read path = .ok text → t'.read path = .ok text := fun path hpath _ =>
    h.read (hwritten path hpath)
  cases explicit with
  | some name =>
    obtain ⟨text, htext, hparse⟩ := readSettings_eq_ok_iff.1 hload
    exact readSettings_eq_ok_iff.2 ⟨text, hread ⟨name⟩ List.mem_cons_self text htext, hparse⟩
  | none =>
    refine findSettings_again hread (fun path hpath => ?_) hload
    exact h.not_contains ht (hway path hpath) (hmade path hpath) (hwritten path hpath)

/-! ## Snapshots -/

theorem load_eq_ok_iff : ((Compile.load storage path).run t).1 = .ok db ↔
    ∃ source, t.read path = .ok source ∧ Compile.parse source = .ok db := by
  have hload : ((Compile.load storage path).run t).1 =
      (reported (t.read path)).mapError .storage >>= Compile.parse := by
    rw [Compile.load, (looks_read path).run_bind, run_read]
    cases t.read path with
    | error fault => rfl
    | ok source => rfl
  simp only [hload, bind_eq_ok_iff, mapError_eq_ok_iff, reported]

theorem consistent_of_parse {source : String} (h : Compile.parse source = .ok db) :
    db.Consistent := by
  obtain ⟨c, -, hc⟩ := Snapshot.parse_eq_ok_iff.1 (mapError_eq_ok_iff.1 h)
  obtain ⟨hconsistent, rfl⟩ := Database.ofContents_eq_ok_iff.1 hc
  exact hconsistent

/-! ## Runs -/

/-- A run looks at the tree until it saves. -/
theorem runIn_eq (directory : Option Path) (args : Arguments) (t : FileTree) :
    (runIn storage directory args).run t =
      match ((loadSettings storage directory args.config).run t).1 with
      | .error failure => (.error failure, t)
      | .ok settings =>
        match ((Compile.load storage ⟨args.snapshot⟩).run t).1 with
        | .error failure => (.error failure, t)
        | .ok db => (Compile.save (override args settings) storage db).run t := by
  rw [runIn, (looks_loadSettings directory args.config).run_bind]
  cases ((loadSettings storage directory args.config).run t).1 with
  | error failure => rfl
  | ok settings =>
    dsimp only
    rw [(looks_load ⟨args.snapshot⟩).run_bind]
    cases ((Compile.load storage ⟨args.snapshot⟩).run t).1 with
    | error failure => rfl
    | ok db => rfl

theorem runIn_eq_save {loaded : Settings}
    (hsettings : ((loadSettings storage directory args.config).run t).1 = .ok loaded)
    (hload : ((Compile.load storage ⟨args.snapshot⟩).run t).1 = .ok db) :
    (runIn storage directory args).run t =
      (Compile.save (override args loaded) storage db).run t := by
  rw [runIn_eq, hsettings]
  dsimp only
  rw [hload]

/-- What a run has found, and what it has rendered. -/
structure Found (t : FileTree) (directory : Option Path) (args : Arguments) (settings : Settings)
    (db : Database) (files : List GeneratedFile) : Prop where
  found : ∃ loaded, ((loadSettings storage directory args.config).run t).1 = .ok loaded ∧
    override args loaded = settings
  loaded : ((Compile.load storage ⟨args.snapshot⟩).run t).1 = .ok db
  rendered : Compile.generate settings db = .ok files

theorem found_of_runIn {report : SaveReport}
    (h : (runIn storage directory args).run t = (.ok report, t')) :
    ∃ settings db files, Found t directory args settings db files ∧
      (Compile.save settings storage db).run t = (.ok report, t') := by
  rw [runIn_eq] at h
  cases hloaded : ((loadSettings storage directory args.config).run t).1 with
  | error failure =>
    rw [hloaded] at h
    cases h
  | ok loaded =>
    rw [hloaded] at h
    dsimp only at h
    cases hdb : ((Compile.load storage ⟨args.snapshot⟩).run t).1 with
    | error failure =>
      rw [hdb] at h
      cases h
    | ok db =>
      rw [hdb] at h
      obtain ⟨files, -, hfiles, -⟩ := save_ok h
      exact ⟨_, db, files, ⟨⟨loaded, hloaded, rfl⟩, hdb, hfiles⟩, h⟩

/-- A run that has failed, but not while writing, has changed nothing. -/
theorem snd_of_runIn_error {failure : Failure}
    (h : (runIn storage directory args).run t = (.error failure, t'))
    (hfailure : ∀ listed, failure ≠ .write listed) : t' = t := by
  rw [runIn_eq] at h
  cases hloaded : ((loadSettings storage directory args.config).run t).1 with
  | error fault =>
    rw [hloaded] at h
    exact (congrArg Prod.snd h).symm
  | ok loaded =>
    rw [hloaded] at h
    dsimp only at h
    cases hdb : ((Compile.load storage ⟨args.snapshot⟩).run t).1 with
    | error fault =>
      rw [hdb] at h
      exact (congrArg Prod.snd h).symm
    | ok db =>
      rw [hdb] at h
      dsimp only at h
      cases houtputs : (Compile.writer (override args loaded)).outputs
          (override args loaded).codegen.backend.adapter db with
      | error fault =>
        rw [Compile.save, run_save_refused houtputs] at h
        exact (congrArg Prod.snd h).symm
      | ok outputs =>
        rw [Compile.save, run_save houtputs, Prod.mk.injEq] at h
        exact absurd (report_eq_error_iff.1 h.1).2 (hfailure _)

/-! ## Reports -/

/-- A successful report lists every output once. -/
theorem report_perm {results : List (Path × Written)} {report : SaveReport}
    (h : Writer.report results = .ok report) :
    (results.map (·.1)).Perm (report.written ++ report.unchanged) := by
  obtain ⟨hfailed, rfl⟩ := report_eq_ok_iff.1 h
  have hrest : results.filter (fun r => !decide (r.2 = .written)) =
      results.filter (·.2 = .unchanged) := by
    refine List.filter_congr fun (path, r) hmem => ?_
    cases r with
    | written | unchanged => rfl
    | failed e => exact absurd hmem (hfailed path e)
  rw [← List.map_append, ← hrest]
  exact ((List.filter_append_perm _ results).map _).symm

/-! ## The next run -/

/-- Nothing that a run reads is something that it writes, but for its snapshot. -/
structure Separate (t : FileTree) (directory : Option Path) (args : Arguments)
    (settings : Settings) (db : Database) (files : List GeneratedFile) : Prop where
  /-- All outputs go to different places. -/
  places : (((Compile.writer settings).plan db files).map (t.place ·.path)).Nodup
  /-- No output goes to a place that settings can come from, or beneath one. -/
  apart : ∀ o ∈ (Compile.writer settings).plan db files,
    ∀ path ∈ settingsPaths directory args.config, ¬ t.place path <+: t.place o.path
  /-- No generated file goes to the place of the snapshot that has been loaded. -/
  snapshot : ∀ file ∈ files, t.place (settings.output.root.join file.filename) ≠
    t.place ⟨args.snapshot⟩

instance (t : FileTree) (directory : Option Path) (args : Arguments) (settings : Settings)
    (db : Database) (files : List GeneratedFile) :
    Decidable (Separate t directory args settings db files) :=
  decidable_of_iff (_ ∧ _ ∧ _)
    ⟨fun h => ⟨h.1, h.2.1, h.2.2⟩, fun h => ⟨h.places, h.apart, h.snapshot⟩⟩

/-- A project without settings. -/
def bareTree : FileTree where
  entries := [(["in.json"], .file "\x7b\x7d")]

/-- The output root leads through the place of the project's settings. -/
def throughArguments : Arguments :=
  { snapshot := "in.json", output := some "gen/../sextant/config.toml/.." }

/-- A project whose user has settings, for another backend. -/
def userTree : FileTree where
  entries :=
    [ ([".config"], .directory)
    , ([".config", "sextant"], .directory)
    , ([".config", "sextant", "config.toml"], .file "[codegen]\nbackend = 'rust'\n")
    , (["in.json"], .file "\x7b\x7d") ]

/-- The output root leads through a directory that is not there. -/
def newArguments : Arguments := { snapshot := "in.json", output := some "new/out" }

/-- What is rendered of no environments. -/
def bareFiles : List GeneratedFile := [⟨"index.ts", "// " ++ generatedNotice ++ "\n\n", none⟩]

/-- A run reports `first` and keeps apart what it reads and what it writes, and the run after it
ends as `next`. -/
def Runs (t : FileTree) (directory : Option Path) (args : Arguments) (first : SaveReport)
    (next : Except Failure SaveReport) : Prop :=
  ∃ settings db files t', Found t directory args settings db files ∧
    Separate t directory args settings db files ∧
    (runIn storage directory args).run t = (.ok first, t') ∧
    ((runIn storage directory args).run t').1 = next

theorem runs_of_run {files : List GeneratedFile} {first : SaveReport}
    {next : Except Failure SaveReport} (hfound : Found t directory args settings db files)
    (hseparate : Separate t directory args settings db files)
    (hfirst : ((runIn storage directory args).run t).1 = .ok first)
    (hnext : ((runIn storage directory args).run ((runIn storage directory args).run t).2).1 =
      next) : Runs t directory args first next :=
  ⟨settings, db, files, _, hfound, hseparate, Prod.ext hfirst rfl, hnext⟩

/-- A run that keeps apart what it reads and what it writes can make a directory where settings are
looked for; then the next run fails. Or it can make the directory `new` that the way to the user's
settings goes through and leaves again, if the home directory is `new/..`; then the next run finds
these settings and writes a file for the other backend. -/
theorem rerun_finds_settings :
    Runs bareTree (settingsDirectory (some ⟨"home"⟩) none) throughArguments
        ⟨[⟨"gen/../sextant/config.toml/../database.json"⟩,
          ⟨"gen/../sextant/config.toml/../index.ts"⟩], []⟩
        (.error (.storage StorageFault.isADirectory.error)) ∧
      Runs userTree (settingsDirectory (some ⟨"new/.."⟩) none) newArguments
        ⟨[⟨"new/out/database.json"⟩, ⟨"new/out/index.ts"⟩], []⟩
        (.ok ⟨[⟨"new/out/src/lib.rs"⟩], [⟨"new/out/database.json"⟩]⟩) := by
  have hthrough : Found bareTree (settingsDirectory (some ⟨"home"⟩) none) throughArguments
      (override throughArguments {}) {} bareFiles :=
    ⟨⟨{}, by decide +kernel, rfl⟩, by decide +kernel, by decide +kernel⟩
  have hnew : Found userTree (settingsDirectory (some ⟨"new/.."⟩) none) newArguments
      (override newArguments {}) {} bareFiles :=
    ⟨⟨{}, by decide +kernel, rfl⟩, by decide +kernel, by decide +kernel⟩
  constructor
  · exact runs_of_run hthrough (by decide +kernel) (by decide +kernel) (by decide +kernel)
  · exact runs_of_run hnew (by decide +kernel) (by decide +kernel) (by decide +kernel)

/-- The outputs are kept apart from what a run reads, and no directory that is made for them brings
other settings to light. -/
structure Settled (t : FileTree) (directory : Option Path) (args : Arguments)
    (settings : Settings) (db : Database) (files : List GeneratedFile) : Prop
    extends Separate t directory args settings db files where
  /-- No output goes through a place where settings are looked for. -/
  through : ∀ o ∈ (Compile.writer settings).plan db files,
    ∀ path ∈ searched t directory args.config, ¬ t.Above o.path (t.place path)
  /-- If settings are looked for on a way that leads back, and something is at its end, then no
  output makes a directory that opens the way. -/
  way : ∀ o ∈ (Compile.writer settings).plan db files,
    ∀ path ∈ searched t directory args.config, .up ∈ path.components →
      t.lookup (t.place path) ≠ none → t.KeepsWay (t.Above o.path) path

instance (t : FileTree) (directory : Option Path) (args : Arguments) (settings : Settings)
    (db : Database) (files : List GeneratedFile) :
    Decidable (Settled t directory args settings db files) :=
  decidable_of_iff (_ ∧ _ ∧ _)
    ⟨fun h => ⟨h.1, h.2.1, h.2.2⟩, fun h => ⟨h.toSeparate, h.through, h.way⟩⟩

variable {files : List GeneratedFile} {results : List (Path × Written)}

/-- The settings are found again. -/
theorem Settled.loadSettings (h : Settled t directory args settings db files) (ht : t.Closed)
    (hsteps : OutputSteps t ((Compile.writer settings).plan db files) results t')
    {loaded : Settings}
    (hload : ((loadSettings storage directory args.config).run t).1 = .ok loaded) :
    ((loadSettings storage directory args.config).run t').1 = .ok loaded := by
  refine loadSettings_again hsteps.change ht ?_ ?_ ?_ hload
  · -- only a way that leads back can be opened
    rintro path hpath hthere x hx ⟨o, ho, habove⟩
    by_cases hup : .up ∈ path.components
    · exact h.way o ho path hpath hup hthere x hx habove
    · exact keepsWay_of_not_mem hup (t.Above o.path) x hx habove
  · rintro path hpath ⟨o, ho, habove⟩
    exact h.through o ho path hpath habove
  · intro path hpath hmem
    obtain ⟨o, ho, heq⟩ := List.mem_map.1 hmem
    exact h.apart o ho path (mem_of_mem_lookedFor hpath) (heq ▸ List.prefix_rfl)

/-- The snapshot is loaded again, as the same model: it is as it was, or it is the one that has been
saved. -/
theorem Settled.load (h : Settled t directory args settings db files)
    (hsteps : OutputSteps t ((Compile.writer settings).plan db files) results t')
    (hsaved : t'.read (Compile.writer settings).snapshotPath = .ok (Snapshot.print db))
    (hload : ((Compile.load storage ⟨args.snapshot⟩).run t).1 = .ok db) :
    ∃ again, ((Compile.load storage ⟨args.snapshot⟩).run t').1 = .ok again ∧
      again.SameModel db := by
  obtain ⟨source, hread, hparse⟩ := load_eq_ok_iff.1 hload
  have hchange := hsteps.change
  -- the path that is loaded may be spelled in another way than the one that is saved
  by_cases hplace : t.place ⟨args.snapshot⟩ = t.place (Compile.writer settings).snapshotPath
  · have hopens := hchange.opens (read_eq_ok_iff.1 hread).1
    have hfile := (read_eq_ok_iff.1 hsaved).2
    rw [hchange.place, ← hplace, ← hchange.place] at hfile
    have hagain := Compile.run_load (consistent_of_parse hparse) (read_eq_ok_iff.2 ⟨hopens, hfile⟩)
    exact ⟨db.contents.database, by rw [hagain], rfl⟩
  · refine ⟨db, load_eq_ok_iff.2 ⟨source, hchange.read (fun hmem => ?_) hread, hparse⟩, rfl⟩
    rw [plan, List.map_cons, List.mem_cons, List.map_map, List.mem_map] at hmem
    rcases hmem with heq | ⟨file, hfile, heq⟩
    · exact hplace heq
    · exact h.snapshot file hfile heq

/-- After a successful run, if its outputs are kept apart from what it reads and no directory that
is made for them brings other settings to light: the run has listed every output once, as written or
as unchanged, and the same run again lists all of them as unchanged and leaves the tree as it is. A
run that fails, but not while writing, leaves the tree as it is. -/
theorem rerun_changes_nothing (directory : Option Path) (args : Arguments) (t : FileTree) :
    (t.Closed → ∀ report t', (runIn storage directory args).run t = (.ok report, t') →
      ∃ settings db files, Found t directory args settings db files ∧
        (Settled t directory args settings db files →
          let paths := ((Compile.writer settings).plan db files).map (·.path)
          paths.Perm (report.written ++ report.unchanged) ∧
            (runIn storage directory args).run t' = (.ok ⟨[], paths⟩, t'))) ∧
      ∀ failure t', (runIn storage directory args).run t = (.error failure, t') →
        (∀ listed, failure ≠ .write listed) → t' = t := by
  refine ⟨fun ht report t' hrun => ?_, fun failure t' => snd_of_runIn_error⟩
  obtain ⟨settings, db, files, hfound, hsave⟩ := found_of_runIn hrun
  refine ⟨settings, db, files, hfound, fun hsettled => ?_⟩
  obtain ⟨files', results, hrender, -, hsteps, hreport⟩ := save_ok hsave
  obtain rfl : files = files' := Except.ok.inj (hfound.rendered.symm.trans hrender)
  obtain ⟨files', hrender', hagain⟩ := save_again hsave
  obtain rfl : files = files' := Except.ok.inj (hfound.rendered.symm.trans hrender')
  -- the next run saves what it loads, and that is the same model, with the same settings
  obtain ⟨hsaved, hagain⟩ := hagain hsettled.places
  obtain ⟨again, hload, hsame⟩ := hsettled.load hsteps hsaved hfound.loaded
  obtain ⟨loaded, hsettings, rfl⟩ := hfound.found
  have hperm := report_perm hreport
  rw [hsteps.paths] at hperm
  have hnext := hsettled.loadSettings ht hsteps hsettings
  exact ⟨hperm, (runIn_eq_save hnext hload).trans (hagain again hsame)⟩

/-- A project with settings and a snapshot that is not written as a save would write it. The index
is there already. -/
def projectTree : FileTree where
  entries :=
    [ (["sextant"], .directory)
    , (["sextant", "config.toml"], .file "[output]\nroot = 'out'\n")
    , (["out"], .directory)
    , (["out", "database.json"], .file "\x7b\"environments\": [[\"env-1\", \"Shop\"]]\x7d")
    , (["out", "index.ts"],
        .file "// @generated by sextant. Do not edit manually.\n\nexport * from \"./shop\";\n") ]

/-- What is loaded is the snapshot of the output root. -/
def projectArguments : Arguments := { snapshot := "out/database.json" }

/-- The settings of the project. -/
def projectSettings : Settings := { output := { root := ⟨"out"⟩ } }

/-- The database of the project. -/
def projectDatabase : Database := { environments := [⟨⟨"env-1"⟩, "Shop"⟩], lastEnvironment := 1 }

/-- What the first run reports. -/
def projectReport : SaveReport where
  written := [⟨"out/database.json"⟩, ⟨"out/shop.ts"⟩]
  unchanged := [⟨"out/index.ts"⟩]

theorem rerun_changes_nothing_sample :
    let directory := settingsDirectory (some ⟨"new/.."⟩) none
    let missing := { projectArguments with config := some "missing.toml" }
    let failure := Failure.configuration "Missing configuration file: missing.toml"
    let paths : List Path := [⟨"out/database.json"⟩, ⟨"out/shop.ts"⟩, ⟨"out/index.ts"⟩]
    (projectTree.Closed ∧
      ∃ files t', (runIn storage directory projectArguments).run projectTree =
          (.ok projectReport, t') ∧
        Settled projectTree directory projectArguments projectSettings projectDatabase files ∧
        paths.Perm (projectReport.written ++ projectReport.unchanged) ∧
        (runIn storage directory projectArguments).run t' = (.ok ⟨[], paths⟩, t')) ∧
      ∃ t', (runIn storage directory missing).run projectTree = (.error failure, t') ∧
        (∀ listed, failure ≠ .write listed) ∧ t' = projectTree := by
  intro directory missing failure paths
  have hclosed : projectTree.Closed := closed_of_entries (by decide +kernel)
  refine ⟨⟨hclosed, ?_⟩, ?_⟩
  · obtain ⟨t', hrun⟩ : ∃ t', (runIn storage directory projectArguments).run projectTree =
        (.ok projectReport, t') := exists_snd (by decide +kernel)
    obtain ⟨settings, db, files, hfound, hagain⟩ :=
      (rerun_changes_nothing directory projectArguments projectTree).1 hclosed _ _ hrun
    obtain ⟨loaded, hsettings, rfl⟩ := hfound.found
    have hloaded : ((loadSettings storage directory none).run projectTree).1 =
      .ok projectSettings := by decide +kernel
    have hdb : ((Compile.load storage ⟨projectArguments.snapshot⟩).run projectTree).1 =
      .ok projectDatabase := by decide +kernel
    obtain rfl : projectSettings = loaded := Except.ok.inj (hloaded.symm.trans hsettings)
    obtain rfl : projectDatabase = db := Except.ok.inj (hdb.symm.trans hfound.loaded)
    have hcheck : (Compile.generate projectSettings projectDatabase).toOption.all (fun files =>
        Settled projectTree directory projectArguments projectSettings projectDatabase files ∧
          ((Compile.writer projectSettings).plan projectDatabase files).map (·.path) = paths) =
        true := by decide +kernel
    have hrendered : Compile.generate projectSettings projectDatabase = .ok files := hfound.rendered
    rw [hrendered] at hcheck
    obtain ⟨hsettled, hpaths⟩ :
        Settled projectTree directory projectArguments projectSettings projectDatabase files ∧
          ((Compile.writer projectSettings).plan projectDatabase files).map (·.path) = paths :=
      of_decide_eq_true hcheck
    obtain ⟨hperm, hrerun⟩ := hagain hsettled
    have hplan : ((Compile.writer (override projectArguments projectSettings)).plan projectDatabase
        files).map (·.path) = paths := hpaths
    rw [hplan] at hperm hrerun
    exact ⟨files, t', hrun, hsettled, hperm, hrerun⟩
  · obtain ⟨t', hrun⟩ : ∃ t', (runIn storage directory missing).run projectTree =
        (.error failure, t') := exists_snd (by decide +kernel)
    have hfailure : ∀ listed, failure ≠ .write listed := nofun
    exact ⟨t', hrun, hfailure,
      (rerun_changes_nothing directory missing projectTree).2 failure t' hrun hfailure⟩

end Run

end Choreography
