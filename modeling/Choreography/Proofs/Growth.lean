import Choreography.Proofs.Generation

/-!
# Further services leave the earlier files alone

Names are given out from the first service to the last, and a file shows its own service only. So
further services bring further files, and of those that were there only the shared one changes.

- `TypeScript.take_files_append` and `Rust.take_files_append`: the files of the earlier services are
  the same.
- `Database.Consistent.services_addEnvironment`: a new environment is one more service, the last
  one, and it declares nothing.
- `earlier_files_stay`: so a new environment brings one more file and leaves those of the earlier
  environments as they are.
-/

namespace Choreography

open Naming

/-! ## Services -/

namespace TypeScript

/-- The earlier services keep their stems. -/
theorem exists_stemmed_append (services more : List Service) :
    ∃ added, stemmed (services ++ more) = stemmed services ++ added := by
  obtain ⟨modules, hmodules⟩ : ∃ modules,
      moduleStems (services ++ more) = moduleStems services ++ modules :=
    ⟨_, by rw [moduleStems, List.map_append, unique_append, moduleStems]⟩
  obtain ⟨stems, hstems⟩ : ∃ stems,
      exportStems (services ++ more) = exportStems services ++ stems :=
    ⟨_, by rw [exportStems, List.map_append, unique_append, exportStems]⟩
  refine ⟨more.zip (modules.zip stems), ?_⟩
  rw [stemmed, hmodules, hstems, List.zip_append (by simp), List.zip_append (by simp), stemmed]

theorem take_files_append (services more : List Service) :
    (files (services ++ more)).take services.length = (files services).take services.length := by
  obtain ⟨added, hadded⟩ := exists_stemmed_append services more
  have hlength : (stemmed services).length = services.length := by simp [stemmed]
  rw [files_eq, files_eq, hadded, List.map_append, List.append_assoc,
    List.take_left' (by simp [hlength]), List.take_left' (by simp [hlength])]

end TypeScript

namespace Rust

theorem take_files_append (services more : List Service) :
    (files (services ++ more)).take services.length = (files services).take services.length := by
  obtain ⟨names, hnames⟩ : ∃ names,
      moduleNames (services ++ more) = moduleNames services ++ names :=
    ⟨_, by rw [moduleNames, List.map_append, unique_append, moduleNames]⟩
  rw [files_eq, files_eq, hnames, List.zip_append (by simp), List.map_append, List.append_assoc,
    List.take_left' (by simp), List.take_left' (by simp)]

end Rust

/-- The files of some services, and those of the same services with further ones behind them. -/
structure Backend.Grown (services more : List Service) (files files' : List GeneratedFile) :
    Prop where
  /-- A file for each service, and the shared one. -/
  owners : files.map (·.service) = services.map (some ·.id) ++ [none]
  /-- The same for all services. -/
  owners' : files'.map (·.service) = services.map (some ·.id) ++ more.map (some ·.id) ++ [none]
  /-- The files of the earlier services are the same. -/
  same : files'.take services.length = files.take services.length

theorem Backend.exists_grown (backend : Backend) (services more : List Service) :
    ∃ files files', backend.adapter.generateChecked services = .ok files ∧
      backend.adapter.generateChecked (services ++ more) = .ok files' ∧
      Grown services more files files' := by
  cases backend with
  | typescript =>
    refine ⟨_, _, TypeScript.generateChecked_eq _, TypeScript.generateChecked_eq _,
      TypeScript.files_owners _, ?_, TypeScript.take_files_append _ _⟩
    rw [TypeScript.files_owners, List.map_append]
  | rust =>
    refine ⟨_, _, Rust.generateChecked_eq _, Rust.generateChecked_eq _, Rust.files_owners _, ?_,
      Rust.take_files_append _ _⟩
    rw [Rust.files_owners, List.map_append]

/-! ## Databases -/

namespace Database

variable {db : Database}

/-- A new environment is one more service. No step can name it yet. -/
theorem Consistent.services_addEnvironment (h : db.Consistent) {services : List Service}
    (hservices : db.services = .ok services) (name : String) :
    (db.addEnvironment name).2.services =
      .ok (services ++ [{ id := (db.addEnvironment name).1, name }]) := by
  let new : Environment := { id := (db.addEnvironment name).1, name }
  have hfresh : new.id ∉ db.environments.map (·.id) := Identifier.fresh_not_mem _ _
  -- the ends of all steps are known, and the new identifier was not
  have hends : ∀ s ∈ db.allSteps, s.sender ≠ new.id ∧ s.receiver ≠ new.id := by
    intro s hs
    obtain ⟨d, hd, hs⟩ := mem_allSteps.1 hs
    obtain ⟨hsender, hreceiver⟩ := h.stepKnown hd hs
    exact ⟨fun heq => hfresh (heq ▸ hsender), fun heq => hfresh (heq ▸ hreceiver)⟩
  have hsilent : Service.ofSteps db.allSteps new = { id := new.id, name } := by
    have hreceived : receivedEvents db.allSteps new.id = [] := by
      simp only [receivedEvents, List.map_eq_nil_iff, List.filter_eq_nil_iff, decide_eq_true_eq]
      exact fun s hs => (hends s hs).2
    have hsent : sentEvents db.allSteps new.id = [] := by
      simp only [sentEvents, List.map_eq_nil_iff, List.filter_eq_nil_iff, decide_eq_true_eq]
      exact fun s hs => (hends s hs).1
    rw [Service.ofSteps, hreceived, hsent]
    rfl
  have hdb : (db.addEnvironment name).2.services =
      .ok ((db.environments ++ [new]).map (Service.ofSteps db.allSteps)) :=
    (h.addEnvironment name).services_eq
  rw [h.services_eq] at hservices
  rw [hdb, List.map_append, List.map_singleton, hsilent, Except.ok.inj hservices]

end Database

namespace Compile

/-- For each backend, any services and any further ones behind them are rendered, and the files of
the earlier services are the same in both. So a new environment of a reachable database brings a
file of its own behind those of the earlier environments, which stay as they are, and otherwise
only another shared file. -/
theorem earlier_files_stay :
    (∀ (backend : Backend) (services more : List Service),
      ∃ files files', backend.adapter.generateChecked services = .ok files ∧
        backend.adapter.generateChecked (services ++ more) = .ok files' ∧
        Backend.Grown services more files files') ∧
    ∀ (db : Database) (settings : Settings) (name : String), db.Reachable →
      ∃ id db' files files', db.apply (.addEnvironment name) = .ok (.environmentCreated id, db') ∧
        generate settings db = .ok files ∧ generate settings db' = .ok files' ∧
        files.map (·.service) = db.environments.map (some ·.id) ++ [none] ∧
        files'.map (·.service) = db.environments.map (some ·.id) ++ [some id, none] ∧
        files'.take db.environments.length = files.take db.environments.length := by
  refine ⟨fun backend => backend.exists_grown, fun db settings name h => ?_⟩
  have hservices := h.consistent.services_eq
  -- a new environment is one more service at the end, without events
  have hadded := h.consistent.services_addEnvironment hservices name
  obtain ⟨files, files', hfiles, hfiles', hgrown⟩ :=
    settings.codegen.backend.exists_grown _ [{ id := (db.addEnvironment name).1, name }]
  refine ⟨_, _, files, files', rfl, generate_eq_ok hservices hfiles,
    generate_eq_ok hadded hfiles', ?_, ?_, ?_⟩
  · rw [hgrown.owners, List.map_map]
    rfl
  · rw [hgrown.owners', List.map_map, List.append_assoc]
    rfl
  · simpa using hgrown.same

/-- The new name is a keyword that two earlier services have come down to already. -/
theorem earlier_files_stay_sample :
    let db := sampleContents.database
    Database.ofContents sampleContents = .ok db ∧
      ∀ settings, ∃ db' files files',
        db.apply (.addEnvironment "type") = .ok (.environmentCreated ⟨"env-1"⟩, db') ∧
        generate settings db = .ok files ∧ generate settings db' = .ok files' ∧
        files'.map (·.service) =
          [some ⟨"a"⟩, some ⟨"b"⟩, some ⟨"c"⟩, some ⟨"d"⟩, some ⟨"e"⟩, some ⟨"f"⟩, some ⟨"env-1"⟩,
            none] ∧
        files'.take 6 = files.take 6 := by
  intro db
  have hload : Database.ofContents sampleContents = .ok db := by decide
  have hdb : db.Reachable := (Database.IsStart.of_ofContents hload).reachable
  refine ⟨hload, fun settings => ?_⟩
  obtain ⟨id, db', files, files', hadd, hfiles, hfiles', -, howners, hsame⟩ :=
    earlier_files_stay.2 db settings "type" hdb
  have hid : (db.apply (.addEnvironment "type")).toOption.map (·.1) =
      some (.environmentCreated ⟨"env-1"⟩) := by decide
  rw [hadd] at hid
  obtain rfl : id = ⟨"env-1"⟩ := by simpa [Except.toOption] using hid
  exact ⟨db', files, files', hadd, hfiles, hfiles', howners, hsame⟩

end Compile

end Choreography
