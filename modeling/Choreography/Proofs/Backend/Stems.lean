import Choreography.Proofs.Backend.Exports
import Choreography.Proofs.Naming.Counted

/-!
# The stems of TypeScript modules in closed form

Stems are made by casings that write no underscores. So the stem of a service has the number of the
services up to it that come down to the same stem as its suffix, and other services do not count.

- `suffixable_kebab` and `suffixable_exportStem`: both casings keep clear of the suffixes.
- `stems_are_counted`: the closed form of both stems, with the file of the service and what it exports.
-/

namespace Choreography

namespace TypeScript

open Naming

theorem suffixable_kebab : Suffixable (fun s : Service => Casing.kebab.name s.name) ["index"] where
  bare s hmem := by
    rw [Casing.toList_name] at hmem
    exact absurd (Casing.mem_nameChars Casing.kebab_sound hmem) (by decide)
  reserved_bare := by decide
  reserved_nodup := by decide

theorem suffixable_exportStem : Suffixable (fun s : Service => exportStem s.name) [] where
  bare s hmem := absurd (mem_exportStem hmem) (by decide)
  reserved_bare := by decide
  reserved_nodup := by decide

/-- The services that come down to a name by a casing. -/
def named (casing : String → String) (services : List Service) (name : String) : List Service :=
  services.filter (casing ·.name = name)

/-- How many services come down to a name by a casing, up to the `i`-th of them. -/
def rank (casing : String → String) (services : List Service) (i : Nat) (name : String) : Nat :=
  (services.take (i + 1)).countP (casing ·.name = name)

variable {services : List Service} {i : Nat} {s : Service}

theorem getElem?_moduleStems (h : services[i]? = some s) :
    (moduleStems services)[i]? = some (nthSpelling (Casing.kebab.name s.name)
      (rank Casing.kebab.name services i (Casing.kebab.name s.name) +
        if Casing.kebab.name s.name = "index" then 1 else 0)) := by
  have hindex : ["index"].count (Casing.kebab.name s.name) =
      if Casing.kebab.name s.name = "index" then 1 else 0 := by
    simp only [List.count_singleton, beq_iff_eq, eq_comm (a := "index")]
  rw [moduleStems, suffixable_kebab.getElem?_unique h, hindex]
  rfl

theorem getElem?_exportStems (h : services[i]? = some s) :
    (exportStems services)[i]? = some (nthSpelling (exportStem s.name)
      (rank exportStem services i (exportStem s.name))) :=
  suffixable_exportStem.getElem?_unique h

/-- Whatever the services are called, their module stems and export stems are counted. The suffix of
a service is the number of services up to it that come down to the same name, one more if the name
is that of the index module, and the first of them has none. By these stems its file is called, and
the names that the file exports are made. So the services that come down to one name have the stems
that they would have without all others. -/
theorem stems_are_counted (services : List Service) :
    adapter.generateChecked services = .ok (files services) ∧
    (∀ (i : Nat) (s : Service), services[i]? = some s →
      let kebab := Casing.kebab.name s.name
      let moduleStem := nthSpelling kebab
        (rank Casing.kebab.name services i kebab + if kebab = "index" then 1 else 0)
      let stem := nthSpelling (exportStem s.name)
        (rank exportStem services i (exportStem s.name))
      (moduleStems services)[i]? = some moduleStem ∧ (exportStems services)[i]? = some stem ∧
        ∃ file : GeneratedFile, (files services)[i]? = some file ∧ file.service = some s.id ∧
          file.filename = moduleStem ++ ".ts" ∧ Exports stem s file.content) ∧
    (∀ name, (services.zip (moduleStems services)).filter (Casing.kebab.name ·.1.name = name) =
      (named Casing.kebab.name services name).zip
        (moduleStems (named Casing.kebab.name services name))) ∧
    ∀ name, (services.zip (exportStems services)).filter (exportStem ·.1.name = name) =
      (named exportStem services name).zip (exportStems (named exportStem services name)) := by
  refine ⟨generateChecked_eq services, fun i s hs => ?_,
    suffixable_kebab.filter_zip_unique services, suffixable_exportStem.filter_zip_unique services⟩
  have hmodule := getElem?_moduleStems hs
  have hstem := getElem?_exportStems hs
  have hexports := exports_moduleFile (isStem_of_mem (List.mem_of_getElem? hstem)) s
  exact ⟨hmodule, hstem, _, getElem?_files_of_stems hs hmodule hstem, rfl, rfl, hexports _⟩

/-- Two services that are called like the index, and two that come down to one name of exports, but
not of modules. -/
def countedServices : List Service :=
  [ { id := ⟨"env-1"⟩, name := "Index" }
  , { id := ⟨"env-2"⟩, name := "Order API" }
  , { id := ⟨"env-3"⟩, name := "order-api service" }
  , { id := ⟨"env-4"⟩, name := "index!" } ]

theorem stems_are_counted_sample :
    (moduleStems countedServices)[3]? = some "index_3" ∧
    (exportStems countedServices)[3]? = some "Index_2" ∧
    (∃ file : GeneratedFile, (files countedServices)[3]? = some file ∧
      file.service = some ⟨"env-4"⟩ ∧ file.filename = "index_3" ++ ".ts" ∧
      Exports "Index_2" { id := ⟨"env-4"⟩, name := "index!" } file.content) ∧
    (countedServices.zip (exportStems countedServices)).filter (exportStem ·.1.name = "OrderApi") =
      [ ({ id := ⟨"env-2"⟩, name := "Order API" }, "OrderApi")
      , ({ id := ⟨"env-3"⟩, name := "order-api service" }, "OrderApi_2") ] := by
  obtain ⟨-, hstems, -, hown⟩ := stems_are_counted countedServices
  have hkebab : Casing.kebab.name "index!" = "index" := by decide
  have hstem : exportStem "index!" = "Index" := by decide
  have hrank : rank Casing.kebab.name countedServices 3 "index" = 2 := by decide
  have hrankStem : rank exportStem countedServices 3 "Index" = 2 := by decide
  obtain ⟨hindex, hindexStem, hfile⟩ := hstems 3 { id := ⟨"env-4"⟩, name := "index!" } rfl
  simp only [hkebab, hstem, hrank, hrankStem] at hindex hindexStem hfile
  refine ⟨hindex, hindexStem, hfile, (hown "OrderApi").trans ?_⟩
  decide

end TypeScript

end Choreography
