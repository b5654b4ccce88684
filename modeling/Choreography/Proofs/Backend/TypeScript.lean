import Choreography.Backend.TypeScript
import Choreography.Proofs.GeneratedFile
import Choreography.Proofs.Naming.Casing
import Choreography.Proofs.Naming.Unique
import Choreography.Proofs.Paths
import Mathlib.Data.List.Nodup

/-!
# TypeScript output is accepted

- `TypeScript.files_filenames` and `TypeScript.files_owners`: the names of the files and the
  services that they belong to.
- `TypeScript.within_moduleLines`: a module spells every event that its service declares.
- `TypeScript.accepts_files`: so nothing is wrong with the files of any services.
-/

namespace Choreography

namespace TypeScript

open Naming

variable {services : List Service}

/-! ## File names -/

@[simp] theorem length_moduleStems : (moduleStems services).length = services.length := by
  simp [moduleStems]

@[simp] theorem length_exportStems : (exportStems services).length = services.length := by
  simp [exportStems]

/-- The services with their stems, one pair of stems for each. -/
def stemmed (services : List Service) : List (Service × String × String) :=
  services.zip ((moduleStems services).zip (exportStems services))

theorem stemmed_services (services : List Service) : (stemmed services).map (·.1) = services :=
  List.map_fst_zip (by simp)

theorem stemmed_pairs (services : List Service) :
    (stemmed services).map (·.2) = (moduleStems services).zip (exportStems services) :=
  List.map_snd_zip (by simp)

theorem stemmed_stems (services : List Service) :
    (stemmed services).map (·.2.1) = moduleStems services := by
  have hstems : ((moduleStems services).zip (exportStems services)).map (·.1) =
      moduleStems services := List.map_fst_zip (by simp)
  rw [← stemmed_pairs, List.map_map] at hstems
  exact hstems

theorem stemmed_exportStems (services : List Service) :
    (stemmed services).map (·.2.2) = exportStems services := by
  have hstems : ((moduleStems services).zip (exportStems services)).map (·.2) =
      exportStems services := List.map_snd_zip (by simp)
  rw [← stemmed_pairs, List.map_map] at hstems
  exact hstems

theorem files_eq (services : List Service) :
    files services = (stemmed services).map (fun (s, moduleStem, stem) =>
      moduleFile s moduleStem stem) ++ [indexFile (moduleStems services)] := rfl

theorem files_filenames (services : List Service) :
    (files services).map (·.filename) = (moduleStems services ++ ["index"]).map (· ++ ".ts") := by
  rw [files_eq, List.map_append, List.map_append, List.map_map]
  congr 1
  calc (stemmed services).map (fun x => x.2.1 ++ ".ts")
      = ((stemmed services).map (·.2.1)).map (· ++ ".ts") := by rw [List.map_map]; rfl
    _ = (moduleStems services).map (· ++ ".ts") := by rw [stemmed_stems]

theorem files_owners (services : List Service) :
    (files services).map (·.service) = services.map (some ·.id) ++ [none] := by
  rw [files_eq, List.map_append, List.map_map]
  congr 1
  calc (stemmed services).map (fun x => some x.1.id)
      = ((stemmed services).map (·.1)).map (some ·.id) := by rw [List.map_map]; rfl
    _ = services.map (some ·.id) := by rw [stemmed_services]

/-- The file of a service stands where the service and its stems do. -/
theorem getElem?_files_of_stems {i : Nat} {s : Service} {moduleStem stem : String}
    (h : services[i]? = some s) (hmodule : (moduleStems services)[i]? = some moduleStem)
    (hstem : (exportStems services)[i]? = some stem) :
    (files services)[i]? = some (moduleFile s moduleStem stem) := by
  have hstemmed : (stemmed services)[i]? = some (s, moduleStem, stem) :=
    List.getElem?_zip_eq_some.2 ⟨h, List.getElem?_zip_eq_some.2 ⟨hmodule, hstem⟩⟩
  rw [files_eq, List.getElem?_append_left, List.getElem?_map, hstemmed, Option.map_some]
  rw [List.length_map]
  exact (List.getElem?_eq_some_iff.1 hstemmed).1

theorem getElem?_files {i : Nat} {s : Service} (h : services[i]? = some s) :
    ∃ moduleStem stem, (exportStems services)[i]? = some stem ∧
      (files services)[i]? = some (moduleFile s moduleStem stem) := by
  obtain ⟨hi, -⟩ := List.getElem?_eq_some_iff.1 h
  obtain ⟨moduleStem, hmodule⟩ : ∃ moduleStem, (moduleStems services)[i]? = some moduleStem :=
    ⟨_, List.getElem?_eq_getElem (by simpa using hi)⟩
  obtain ⟨stem, hstem⟩ : ∃ stem, (exportStems services)[i]? = some stem :=
    ⟨_, List.getElem?_eq_getElem (by simpa using hi)⟩
  exact ⟨moduleStem, stem, hstem, getElem?_files_of_stems h hmodule hstem⟩

/-- Every service has a file. -/
theorem exists_moduleFile {s : Service} (h : s ∈ services) :
    ∃ moduleStem stem, moduleFile s moduleStem stem ∈ files services := by
  obtain ⟨i, hi⟩ := List.getElem?_of_mem h
  obtain ⟨moduleStem, stem, -, hfile⟩ := getElem?_files hi
  exact ⟨moduleStem, stem, List.mem_of_getElem? hfile⟩

/-- The characters of a module's stem are letters, digits, hyphens and underscores. -/
theorem mem_moduleStems {stem : String} (h : stem ∈ moduleStems services) {c : Char}
    (hc : c ∈ stem.toList) : c.isAlphanum = true ∨ c = '-' ∨ c = '_' := by
  refine forall_mem_unique
    (P := fun stem => ∀ c ∈ stem.toList, c.isAlphanum = true ∨ c = '-' ∨ c = '_') ?_ ?_ stem h c hc
  · intro stem hstem c hc
    obtain ⟨s, -, rfl⟩ := List.mem_map.1 hstem
    rw [Casing.toList_name] at hc
    rcases Casing.mem_nameChars Casing.kebab_sound hc with h | h
    · exact .inl h
    · exact .inr (.inl (List.mem_singleton.1 h))
  · intro name n hname c hc
    rw [suffixed_eq, String.toList_append, List.mem_append] at hc
    rcases hc with hc | hc
    · exact hname c hc
    · rcases mem_suffix hc with rfl | hdigit
      · exact .inr (.inr rfl)
      · exact .inl (Bool.or_eq_true_iff.2 (.inr hdigit))

/-! ## Declared events -/

theorem within_unlines {part line : String} {lines : List String} (h : Text.Within part line)
    (hline : line ∈ lines) : Text.Within part (unlines lines) :=
  (h.append_right "\n").join (List.mem_map.2 ⟨line, hline, rfl⟩)

theorem within_memberLine (event : String) :
    Text.Within (Json.quote event) (memberLine event) :=
  ((Text.Within.refl _).append_left _).append_right _

theorem memberLine_mem_interfaceLines {event : String} {events : List String} (name : String)
    (h : event ∈ events) : memberLine event ∈ interfaceLines name events := by
  have hne : events.isEmpty = false := by
    cases events with
    | nil => cases h
    | cons => rfl
  have hmem : memberLine event ∈ events.map memberLine := List.mem_map.2 ⟨event, h, rfl⟩
  rw [interfaceLines, if_neg (by simp [hne])]
  exact List.mem_append_left _ (List.mem_append_right _ hmem)

/-- A module spells every event of its service. -/
theorem within_moduleLines {s : Service} {event : String} (stem : String) (h : event ∈ s.events) :
    Text.Within (Json.quote event) (unlines (moduleLines stem s)) := by
  have hline : memberLine event ∈ moduleLines stem s := by
    unfold moduleLines
    rcases List.mem_append.1 h with hoperation | hcall
    · have := memberLine_mem_interfaceLines (stem ++ "Operations") hoperation
      simp [this]
    · have := memberLine_mem_interfaceLines (stem ++ "Calls") hcall
      simp [this]
  exact within_unlines (within_memberLine event) hline

/-! ## Checked output -/

theorem components_filename {stem : String} (h : stem ∈ moduleStems services ++ ["index"]) :
    Path.components ⟨stem ++ ".ts"⟩ = [.name (stem ++ ".ts")] := by
  have hslash : '/' ∉ stem.toList := by
    rcases List.mem_append.1 h with h | h
    · exact fun hmem => absurd (mem_moduleStems h hmem) (by decide)
    · rw [List.mem_singleton.1 h]
      decide
  refine Path.components_file ⟨?_, ?_⟩
  · simpa using hslash
  · simp

theorem files_components (services : List Service) :
    (files services).map (·.components) =
      (moduleStems services ++ ["index"]).map fun stem => [.name (stem ++ ".ts")] := by
  calc (files services).map (·.components)
      = ((files services).map (·.filename)).map (Path.components ⟨·⟩) := by rw [List.map_map]; rfl
    _ = (moduleStems services ++ ["index"]).map fun stem => Path.components ⟨stem ++ ".ts"⟩ := by
        rw [files_filenames, List.map_map]; rfl
    _ = _ := List.map_congr_left fun _ h => components_filename h

/-- Nothing is wrong with the files of any services. -/
theorem accepts_files (services : List Service) : adapter.Accepts services (files services) where
  contained file hfile := by
    have hmem : file.components ∈ (files services).map (·.components) :=
      List.mem_map.2 ⟨file, hfile, rfl⟩
    rw [files_components] at hmem
    obtain ⟨stem, -, hstem⟩ := List.mem_map.1 hmem
    exact Path.isContained_of_components (List.cons_ne_nil _ []) hstem.symm
  nodup := by
    rw [files_components]
    have hstems : (moduleStems services ++ ["index"]).Nodup :=
      unique_append_nodup List.mem_cons_self
    refine hstems.map fun a b h => ?_
    simpa using h
  declared s hs event hevent := by
    obtain ⟨moduleStem, stem, hfile⟩ := exists_moduleFile hs
    exact ⟨_, hfile, rfl, within_moduleLines stem hevent⟩

/-- TypeScript is rendered for any services. -/
theorem generateChecked_eq (services : List Service) :
    adapter.generateChecked services = .ok (files services) :=
  Adapter.generateChecked_eq_ok_iff.2 ⟨rfl, accepts_files services⟩

end TypeScript

end Choreography
