import Choreography.Proofs.FileTree.Joined
import Choreography.Proofs.GeneratedFile

/-!
# Which fault of the generated files is reported

The files are looked at one after the other, and after them the services with their events. The
first fault ends the search, so of several faults one counts.

- `GeneratedFile.Contained` and `Adapter.Distinct`: what is asked of file names.
- `Adapter.FirstFault`: the error names the first fault, in the order of files, services and events.
- `fileFault?_eq_some_iff` and `declarationFault?_eq_some_iff`: the two searches find it.
- `generated_files_decided`: so the check passes files on, or reports their first fault.
-/

namespace Choreography

/-! ## Contained names -/

namespace Path

variable {p : Path}

/-- Only the empty text has no components: a first segment that falls away is a slash or a dot that
the path begins with. -/
theorem components_eq_nil_iff : p.components = [] ↔ p.text = "" := by
  constructor
  · intro h
    rw [components_eq, List.append_eq_nil_iff] at h
    obtain ⟨hlead, hnames⟩ := h
    cases hs : segments p.text.toList with
    | nil => exact absurd hs (segments_ne_nil _)
    | cons s more =>
      rw [hs] at hlead hnames
      -- the first segment falls away: a dot leaves a component, and so does an empty one in front
      have hfiller : component? s = none := List.filterMap_eq_nil_iff.1 hnames s List.mem_cons_self
      by_cases hempty : s = []
      · by_cases hmore : more = []
        · rw [hempty, hmore] at hs
          simpa using eq_nil_of_segments hs
        · simp [lead, hempty, hmore] at hlead
      · have hdot : s = ['.'] := by
          unfold component? at hfiller
          split at hfiller
          · exact absurd rfl hempty
          · rfl
          · cases hfiller
          · cases hfiller
        simp [lead, hdot] at hlead
  · intro h
    obtain rfl : p = ⟨""⟩ := congrArg Path.mk h
    decide

theorem isContained_iff :
    p.isContained = true ↔ p.text ≠ "" ∧ ∀ c ∈ p.components, ∃ name, c = .name name := by
  simp only [isContained, Bool.and_eq_true, Bool.not_eq_true', List.isEmpty_eq_false_iff, ne_eq,
    components_eq_nil_iff, List.all_eq_true]
  refine and_congr_right fun _ => forall₂_congr fun c _ => ?_
  cases c <;> simp

end Path

/-- The file's name is not empty, and its components are names of directories and files. -/
def GeneratedFile.Contained (file : GeneratedFile) : Prop :=
  file.filename ≠ "" ∧ ∀ c ∈ file.components, ∃ name, c = .name name

theorem GeneratedFile.contained_iff {file : GeneratedFile} :
    file.Contained ↔ Path.isContained ⟨file.filename⟩ = true :=
  (Path.isContained_iff (p := ⟨file.filename⟩)).symm

namespace Adapter

/-! ## The first fault -/

/-- The files stay beneath the output root, each at a path of its own. -/
structure Distinct (files : List GeneratedFile) : Prop where
  contained : ∀ file ∈ files, file.Contained
  nodup : (files.map (·.components)).Nodup

/-- The error names the first fault. Files are looked at before services, and what a service
receives before what it sends. -/
inductive FirstFault (adapter : Adapter) (services : List Service) (files : List GeneratedFile) :
    CodegenError → Prop where
  /-- A file leaves the output root. -/
  | outside {before after : List GeneratedFile} {file : GeneratedFile}
      (place : files = before ++ file :: after) (earlier : Distinct before)
      (outside : ¬ file.Contained) :
    FirstFault adapter services files (.invalidPath adapter.name file.filename)
  /-- A file has the path of an earlier one. -/
  | repeated {before after : List GeneratedFile} {file : GeneratedFile}
      (place : files = before ++ file :: after) (earlier : Distinct before)
      (contained : file.Contained) (taken : file.components ∈ before.map (·.components)) :
    FirstFault adapter services files (.duplicateFile adapter.name file.filename)
  /-- No file of a service spells an event that the service declares. -/
  | missing {before after : List Service} {s : Service} {declared more : List String}
      {event : String} (distinct : Distinct files) (place : services = before ++ s :: after)
      (earlier : ∀ r ∈ before, ∀ e ∈ r.operations ++ r.calls, adapter.Declares files r e)
      (events : s.operations ++ s.calls = declared ++ event :: more)
      (first : ∀ e ∈ declared, adapter.Declares files s e)
      (missing : ¬ adapter.Declares files s event) :
    FirstFault adapter services files (.missingDeclaration adapter.name s.id event)

variable {adapter : Adapter} {services : List Service} {files before after : List GeneratedFile}
  {file : GeneratedFile} {seen : List (List Path.Component)} {fault : CodegenError}

/-! ## The search through the files -/

theorem distinct_iff : Distinct files ↔ adapter.fileFault? [] files = none := by
  rw [fileFault?_eq_none_iff]
  constructor
  · rintro ⟨hcontained, hnodup⟩
    exact ⟨fun file hfile => GeneratedFile.contained_iff.1 (hcontained file hfile), hnodup,
      fun _ _ => List.not_mem_nil⟩
  · rintro ⟨hcontained, hnodup, -⟩
    exact ⟨fun file hfile => GeneratedFile.contained_iff.2 (hcontained file hfile), hnodup⟩

theorem fileFault?_outside (h : ¬ file.Contained) :
    adapter.fileFault? seen (file :: after) = some (.invalidPath adapter.name file.filename) := by
  rw [GeneratedFile.contained_iff, Bool.not_eq_true] at h
  simp [fileFault?, h]

theorem fileFault?_repeated (h : file.Contained) (hseen : file.components ∈ seen) :
    adapter.fileFault? seen (file :: after) =
      some (.duplicateFile adapter.name file.filename) := by
  rw [GeneratedFile.contained_iff] at h
  have hseen' : Path.components ⟨file.filename⟩ ∈ seen := hseen
  simp [fileFault?, h, hseen']

theorem fileFault?_new (h : file.Contained) (hseen : file.components ∉ seen) :
    adapter.fileFault? seen (file :: after) =
      adapter.fileFault? (file.components :: seen) after := by
  rw [GeneratedFile.contained_iff] at h
  have hseen' : Path.components ⟨file.filename⟩ ∉ seen := hseen
  simp [fileFault?, h, hseen', GeneratedFile.components]

/-- Files without a fault are passed over, and their paths are taken. -/
theorem fileFault?_append (after : List GeneratedFile)
    (h : adapter.fileFault? seen before = none) :
    ∃ taken, (∀ path, path ∈ taken ↔ path ∈ before.map (·.components) ∨ path ∈ seen) ∧
      adapter.fileFault? seen (before ++ after) = adapter.fileFault? taken after := by
  induction before generalizing seen with
  | nil => exact ⟨seen, by simp, rfl⟩
  | cons file before ih =>
    by_cases hcontained : file.Contained
    · by_cases hseen : file.components ∈ seen
      · rw [fileFault?_repeated hcontained hseen] at h
        cases h
      · rw [fileFault?_new hcontained hseen] at h
        obtain ⟨taken, htaken, hrest⟩ := ih h
        refine ⟨taken, fun path => ?_, ?_⟩
        · rw [htaken, List.map_cons, List.mem_cons, List.mem_cons]
          tauto
        · rw [List.cons_append, fileFault?_new hcontained hseen, hrest]
    · rw [fileFault?_outside hcontained] at h
      cases h

/-- A search that ends has come to a file through files without a fault. -/
theorem exists_of_fileFault?_eq_some (h : adapter.fileFault? seen files = some fault) :
    ∃ before file after, files = before ++ file :: after ∧
      adapter.fileFault? seen before = none ∧
      (¬ file.Contained ∨ file.Contained ∧
        (file.components ∈ before.map (·.components) ∨ file.components ∈ seen)) := by
  induction files generalizing seen with
  | nil => cases h
  | cons file files ih =>
    by_cases hcontained : file.Contained
    · by_cases hseen : file.components ∈ seen
      · exact ⟨[], file, files, rfl, rfl, .inr ⟨hcontained, .inr hseen⟩⟩
      · rw [fileFault?_new hcontained hseen] at h
        obtain ⟨before, last, after, rfl, hbefore, hlast⟩ := ih h
        refine ⟨file :: before, last, after, rfl, ?_, ?_⟩
        · rw [fileFault?_new hcontained hseen, hbefore]
        · rw [List.map_cons, List.mem_cons]
          rw [List.mem_cons] at hlast
          tauto
    · exact ⟨[], file, files, rfl, rfl, .inl hcontained⟩

/-- The file after some without a fault ends the search if it leaves the output root. -/
theorem fileFault?_of_outside (hbefore : Distinct before) (houtside : ¬ file.Contained) :
    adapter.fileFault? [] (before ++ file :: after) =
      some (.invalidPath adapter.name file.filename) := by
  have hnone : adapter.fileFault? [] before = none := distinct_iff.1 hbefore
  obtain ⟨taken, -, hsearch⟩ := fileFault?_append (file :: after) hnone
  rw [hsearch, fileFault?_outside houtside]

/-- The file after some without a fault ends the search if one of them has its path. -/
theorem fileFault?_of_repeated (hbefore : Distinct before) (hcontained : file.Contained)
    (htaken : file.components ∈ before.map (·.components)) :
    adapter.fileFault? [] (before ++ file :: after) =
      some (.duplicateFile adapter.name file.filename) := by
  have hnone : adapter.fileFault? [] before = none := distinct_iff.1 hbefore
  obtain ⟨taken, hmem, hsearch⟩ := fileFault?_append (file :: after) hnone
  rw [hsearch, fileFault?_repeated hcontained ((hmem _).2 (.inl htaken))]

/-- The search ends at the first file that leaves the output root or has the path of an earlier one,
and reports it by its own spelling. -/
theorem fileFault?_eq_some_iff :
    adapter.fileFault? [] files = some fault ↔
      ∃ (before : List GeneratedFile) (file : GeneratedFile) (after : List GeneratedFile),
        files = before ++ file :: after ∧ Distinct before ∧
        (¬ file.Contained ∧ fault = .invalidPath adapter.name file.filename ∨
          file.Contained ∧ file.components ∈ before.map (·.components) ∧
            fault = .duplicateFile adapter.name file.filename) := by
  constructor
  · intro h
    obtain ⟨before, file, after, rfl, hbefore, hfile⟩ := exists_of_fileFault?_eq_some h
    have hdistinct := distinct_iff.2 hbefore
    refine ⟨before, file, after, rfl, hdistinct, ?_⟩
    rcases hfile with houtside | ⟨hcontained, htaken | htaken⟩
    · rw [fileFault?_of_outside hdistinct houtside] at h
      exact .inl ⟨houtside, (Option.some.inj h).symm⟩
    · rw [fileFault?_of_repeated hdistinct hcontained htaken] at h
      exact .inr ⟨hcontained, htaken, (Option.some.inj h).symm⟩
    · exact absurd htaken List.not_mem_nil
  · rintro ⟨before, file, after, rfl, hdistinct, ⟨houtside, rfl⟩ | ⟨hcontained, htaken, rfl⟩⟩
    · exact fileFault?_of_outside hdistinct houtside
    · exact fileFault?_of_repeated hdistinct hcontained htaken

/-! ## The search through the services -/

/-- The search ends at the first service with a lost event, and reports the first of these. -/
theorem declarationFault?_eq_some_iff :
    adapter.declarationFault? services files = some fault ↔
      ∃ before s after declared event more, services = before ++ s :: after ∧
        (∀ r ∈ before, ∀ e ∈ r.operations ++ r.calls, adapter.Declares files r e) ∧
        s.operations ++ s.calls = declared ++ event :: more ∧
        (∀ e ∈ declared, adapter.Declares files s e) ∧ ¬ adapter.Declares files s event ∧
        fault = .missingDeclaration adapter.name s.id event := by
  simp only [declarationFault?, List.findSome?_eq_some_iff, Option.map_eq_none_iff,
    Option.map_eq_some_iff, lostEvent?_eq_some_iff, lostEvent?_eq_none_iff, Service.events]
  constructor
  · rintro ⟨before, s, after, hplace, ⟨event, hlost, rfl⟩, hearlier⟩
    obtain ⟨declared, more, hevents, hfirst, hlost⟩ := hlost
    exact ⟨before, s, after, declared, event, more, hplace, hearlier, hevents, hfirst, hlost, rfl⟩
  · rintro ⟨before, s, after, declared, event, more, hplace, hearlier, hevents, hfirst, hlost, rfl⟩
    refine ⟨before, s, after, hplace, ⟨event, ?_, rfl⟩, hearlier⟩
    exact ⟨declared, more, hevents, hfirst, hlost⟩

/-! ## Both together -/

theorem firstFault_iff :
    adapter.FirstFault services files fault ↔
      adapter.fileFault? [] files = some fault ∨
        adapter.fileFault? [] files = none ∧
          adapter.declarationFault? services files = some fault := by
  rw [fileFault?_eq_some_iff, ← distinct_iff, declarationFault?_eq_some_iff]
  constructor
  · intro h
    cases h with
    | outside place earlier outside =>
      exact .inl ⟨_, _, _, place, earlier, .inl ⟨outside, rfl⟩⟩
    | repeated place earlier contained taken =>
      exact .inl ⟨_, _, _, place, earlier, .inr ⟨contained, taken, rfl⟩⟩
    | missing distinct place earlier events first missing =>
      exact .inr ⟨distinct, _, _, _, _, _, _, place, earlier, events, first, missing, rfl⟩
  · rintro (⟨before, file, after, place, earlier, ⟨outside, rfl⟩ | ⟨contained, taken, rfl⟩⟩ |
      ⟨distinct, before, s, after, declared, event, more, place, hmissing⟩)
    · exact .outside place earlier outside
    · exact .repeated place earlier contained taken
    · obtain ⟨earlier, events, first, missing, rfl⟩ := hmissing
      exact .missing distinct place earlier events first missing

/-- If the adapter fails, its error is the answer. Otherwise its files are passed on as they are
exactly if they stay beneath the output root, each at a path of its own, and spell every declared
event in a file of its service; and if not, then the first fault is reported, files before services
and received events before sent ones. -/
theorem generated_files_decided (adapter : Adapter) (services : List Service) :
    (∀ e, adapter.generate services = .error e → adapter.generateChecked services = .error e) ∧
      ∀ files, adapter.generate services = .ok files →
        (adapter.generateChecked services = .ok files ↔
          (∀ file ∈ files, file.Contained) ∧ (files.map (·.components)).Nodup ∧
            ∀ s ∈ services, ∀ event ∈ s.operations ++ s.calls, adapter.Declares files s event) ∧
        (∀ others, adapter.generateChecked services = .ok others → others = files) ∧
        ∀ fault, adapter.generateChecked services = .error fault ↔
          adapter.FirstFault services files fault := by
  refine ⟨fun _ => generateChecked_of_error,
    fun files hfiles => ⟨?_, fun others hothers => ?_, fun fault => ?_⟩⟩
  · rw [generateChecked_eq_ok_iff, accepts_iff, declarationFault?_eq_none_iff, ← distinct_iff]
    constructor
    · rintro ⟨-, ⟨hcontained, hnodup⟩, hdeclared⟩
      exact ⟨hcontained, hnodup, hdeclared⟩
    · rintro ⟨hcontained, hnodup, hdeclared⟩
      exact ⟨hfiles, ⟨hcontained, hnodup⟩, hdeclared⟩
  · have hgenerated := (generateChecked_eq_ok_iff.1 hothers).1
    exact Except.ok.inj (hgenerated.symm.trans hfiles)
  · rw [generateChecked_eq hfiles, firstFault_iff]
    cases adapter.fileFault? [] files with
    | some first => simp
    | none => cases adapter.declarationFault? services files <;> simp

/-- A path in another spelling comes before one that leaves the root. Of two services with one
identifier, the second has lost an event, which a shared file spells. -/
theorem generated_files_decided_sample :
    let services : List Service :=
      [⟨⟨"env-1"⟩, "Shop", ["charge"], []⟩, ⟨⟨"env-1"⟩, "Bank", ["charge"], ["refund", "notify"]⟩]
    let twice : List GeneratedFile :=
      [⟨"a//b.ts", "", none⟩, ⟨"a/./b.ts/", "", none⟩, ⟨"../c.ts", "", none⟩]
    let lost : List GeneratedFile :=
      [⟨"a.ts", "<charge>", some ⟨"env-1"⟩⟩, ⟨"index.ts", "<refund>", none⟩]
    let failed : CodegenError := .render "canned" "a.ts" "no room"
    (canned (.error failed)).generateChecked services = .error failed ∧
      (canned (.ok twice)).FirstFault services twice (.duplicateFile "canned" "a/./b.ts/") ∧
      (canned (.ok lost)).FirstFault services lost
        (.missingDeclaration "canned" ⟨"env-1"⟩ "refund") := by
  intro services twice lost failed
  have h answer := generated_files_decided (canned answer) services
  exact ⟨(h (.error failed)).1 failed rfl, (((h (.ok twice)).2 twice rfl).2.2 _).1 (by decide),
    (((h (.ok lost)).2 lost rfl).2.2 _).1 (by decide)⟩

end Adapter

end Choreography
