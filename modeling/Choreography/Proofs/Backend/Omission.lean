import Choreography.Proofs.Backend.Interfaces
import Choreography.Proofs.Json.Occurrence

/-!
# Events left out of a TypeScript module

The check of generated files looks for spelled events and does not ask where they stand. If a module
leaves out an event that its service declares, this is noticed exactly if the event is not spelled
by something else in the files of the service.

- `TypeScript.filesWithout`: the files, but for one event of one list of one service. One module is
  another, the rest is as usual (`filesWithout_eq_set`).
- `Service.Spells`: all the ways in which a module spells an event (`within_moduleFile_iff`): the
  name of the service or a declared event echoes it, or it stands in the head comment together with
  the identifier.
- `TypeScript.omission_detected_iff`: which omissions are refused.
- `TypeScript.omission_accepted`: an event that is both received and sent can be left out once.
-/

namespace Choreography

/-! ## Declarations -/

/-- The two lists in which a service declares events. -/
inductive Declarations where
  | operations
  | calls
  deriving DecidableEq, Repr

namespace Service

/-- The events of one of the lists. -/
def declared (s : Service) : Declarations → List String
  | .operations => s.operations
  | .calls => s.calls

/-- The service without an event in one of its lists. -/
def without (s : Service) (list : Declarations) (event : String) : Service :=
  match list with
  | .operations => { s with operations := s.operations.filter (· ≠ event) }
  | .calls => { s with calls := s.calls.filter (· ≠ event) }

/-- The module of the service spells the event: the name or a declared event echoes it, or it stands
in the head comment between the closing quote of the name and the bracket behind the identifier. -/
def Spells (s : Service) (event : String) : Prop :=
  (∃ text ∈ s.name :: s.events, Json.Echoes text event) ∨
    Text.Within (Json.quote event) ("\" (" ++ s.id.text ++ ")")

instance (s : Service) (event : String) : Decidable (s.Spells event) :=
  inferInstanceAs (Decidable (_ ∨ _))

variable {s : Service} {list : Declarations} {event : String}

theorem spells_of_mem_events (h : event ∈ s.events) : s.Spells event :=
  .inl ⟨event, List.mem_cons_of_mem s.name h, .inl rfl⟩

theorem mem_events_of_declared (h : event ∈ s.declared list) : event ∈ s.events := by
  cases list with
  | operations => exact List.mem_append_left _ h
  | calls => exact List.mem_append_right _ h

@[simp] theorem without_id : (s.without list event).id = s.id := by
  cases list <;> rfl

@[simp] theorem without_name : (s.without list event).name = s.name := by
  cases list <;> rfl

theorem mem_events_without {other : String} (h : other ∈ s.events) (hne : other ≠ event) :
    other ∈ (s.without list event).events := by
  have hfilter : ∀ {l : List String}, other ∈ l → other ∈ l.filter (· ≠ event) :=
    fun hl => List.mem_filter.2 ⟨hl, by simpa using hne⟩
  rw [events, List.mem_append] at h ⊢
  cases list with
  | operations => exact h.imp_left hfilter
  | calls => exact h.imp_right hfilter

end Service

namespace TypeScript

open Naming

variable {services : List Service} {s : Service} {event : String}

/-! ## What a module spells -/

theorem within_unlines_iff {lines : List String} :
    Text.Within (Json.quote event) (unlines lines) ↔
      ∃ line ∈ lines, Text.Within (Json.quote event) line := by
  induction lines with
  | nil =>
    have hquote := Json.mem_quote event
    simp only [List.not_mem_nil, false_and, exists_false, iff_false]
    exact fun h => by simpa [unlines] using h.subset hquote
  | cons line lines ih =>
    have hlines : (unlines (line :: lines)).toList =
        line.toList ++ '\n' :: (unlines lines).toList := by
      simp [unlines]
    rw [Text.Within, hlines, infix_append_cons_iff (oneLine_quote event), ← Text.Within,
      ← Text.Within, ih]
    simp

theorem not_within_of_quoteMark {line : String} (h : '"' ∉ line.toList) :
    ¬ Text.Within (Json.quote event) line :=
  fun hwithin => h (hwithin.subset (Json.mem_quote event))

theorem within_headLines_iff (s : Service) (event : String) :
    (∃ line ∈ headLines s, Text.Within (Json.quote event) line) ↔
      Json.Echoes s.name event ∨ Text.Within (Json.quote event) ("\" (" ++ s.id.text ++ ")") := by
  have hnotice : ¬ Text.Within (Json.quote event) ("// " ++ generatedNotice) :=
    not_within_of_quoteMark (by decide)
  have hservice : "// Service " ++ Json.quote s.name ++ " (" ++ s.id.text ++ ")" =
      "// Service " ++ Json.quote s.name ++ (" (" ++ s.id.text ++ ")") := by
    simp only [String.append_assoc]
  have hmark : "\"" ++ (" (" ++ s.id.text ++ ")") = "\" (" ++ s.id.text ++ ")" := by
    rw [← String.append_assoc, ← String.append_assoc]
    rfl
  simp only [headLines, List.mem_cons, List.not_mem_nil, or_false, exists_eq_or_imp,
    exists_eq_left, hnotice, false_or, hservice]
  rw [Json.within_spelled_iff event s.name (by decide), hmark]

theorem within_memberLine_iff (event text : String) :
    Text.Within (Json.quote event) (memberLine text) ↔ Json.Echoes text event :=
  Json.within_only_spelled_iff event text (by decide) (by decide)

theorem within_interfaceLines_iff {name : String} (hname : '"' ∉ name.toList)
    (event : String) (events : List String) :
    (∃ line ∈ interfaceLines name events, Text.Within (Json.quote event) line) ↔
      ∃ text ∈ events, Json.Echoes text event := by
  have hblank : ¬ Text.Within (Json.quote event) "" := not_within_of_quoteMark (by decide)
  have hbrace : ¬ Text.Within (Json.quote event) "\x7d" := not_within_of_quoteMark (by decide)
  -- a quoted text has a quotation mark, and the fixed lines have none
  have hheader : ∀ brace : String, '"' ∉ brace.toList →
      ¬ Text.Within (Json.quote event) ("export interface " ++ name ++ brace) := by
    intro brace hbrace
    refine not_within_of_quoteMark ?_
    simp only [String.toList_append, List.mem_append, not_or]
    exact ⟨⟨by decide, hname⟩, hbrace⟩
  by_cases hevents : events = []
  · subst hevents
    simp [interfaceLines, hblank, hheader]
  · simp only [interfaceLines, List.isEmpty_iff, hevents, if_false, List.mem_append, List.mem_cons,
      List.not_mem_nil, or_false, List.mem_map, or_and_right, exists_or, exists_eq_left, hblank,
      hheader " \x7b" (by decide), hbrace, false_or, or_false]
    constructor
    · rintro ⟨-, ⟨text, htext, rfl⟩, hwithin⟩
      exact ⟨text, htext, (within_memberLine_iff event text).1 hwithin⟩
    · rintro ⟨text, htext, hechoes⟩
      exact ⟨_, ⟨text, htext, rfl⟩, (within_memberLine_iff event text).2 hechoes⟩

theorem within_factoryLines_iff {stem : String} (hstem : '"' ∉ stem.toList) (s : Service)
    (event : String) : (∃ line ∈ factoryLines stem s, Text.Within (Json.quote event) line) ↔
      Json.Echoes s.name event := by
  have hwith : ∀ a b : String, '"' ∉ a.toList → '"' ∉ b.toList →
      ¬ Text.Within (Json.quote event) (a ++ stem ++ b) := by
    intro a b ha hb
    refine not_within_of_quoteMark ?_
    simp only [String.toList_append, List.mem_append, not_or]
    exact ⟨⟨ha, hstem⟩, hb⟩
  have hblank : ¬ Text.Within (Json.quote event) "" := not_within_of_quoteMark (by decide)
  have hbracket := hwith "export const create" "Service = (" (by decide) (by decide)
  have hoperations := hwith "  operations: " "Operations," (by decide) (by decide)
  have hcalls := hwith "  calls: " "Calls," (by decide) (by decide)
  simp only [factoryLines, List.mem_cons, List.not_mem_nil, or_false, exists_eq_or_imp,
    exists_eq_left, hblank, hbracket, hoperations, hcalls, false_or]
  exact Json.within_only_spelled_iff event s.name (by decide) (by decide)

/-- A module spells the events of `Service.Spells` and no others. -/
theorem within_moduleFile_iff {stem : String} (hstem : '"' ∉ stem.toList) (s : Service)
    (moduleStem event : String) :
    Text.Within (Json.quote event) (moduleFile s moduleStem stem).content ↔ s.Spells event := by
  have hname : ∀ ending : String, '"' ∉ ending.toList → '"' ∉ (stem ++ ending).toList := by
    intro ending hending
    rw [String.toList_append, List.mem_append]
    exact fun h => h.elim hstem hending
  have hevents : (∃ text ∈ s.name :: s.events, Json.Echoes text event) ↔
      Json.Echoes s.name event ∨ (∃ text ∈ s.operations, Json.Echoes text event) ∨
        ∃ text ∈ s.calls, Json.Echoes text event := by
    simp only [Service.events, List.mem_cons, List.mem_append, or_and_right, exists_or,
      exists_eq_left]
  -- a quoted event has no line end, so it stands in one of the lines, and these have four kinds
  rw [moduleFile, within_unlines_iff, Service.Spells, hevents]
  simp only [moduleLines, List.mem_append, or_and_right, exists_or]
  rw [within_headLines_iff, within_factoryLines_iff hstem,
    within_interfaceLines_iff (hname "Operations" (by decide)),
    within_interfaceLines_iff (hname "Calls" (by decide))]
  constructor
  · rintro ((((h | h) | h) | h) | h)
    · exact .inl (.inl h)
    · exact .inr h
    · exact .inl (.inr (.inl h))
    · exact .inl (.inr (.inr h))
    · exact .inl (.inl h)
  · rintro ((h | h | h) | h)
    · exact .inr h
    · exact .inl (.inl (.inr h))
    · exact .inl (.inr h)
    · exact .inl (.inl (.inl (.inr h)))

/-! ## Files with an omission -/

/-- The files of the services, but for the module of the one at place `i`, which leaves out an event
in one of its lists. -/
def filesWithout (services : List Service) (i : Nat) (list : Declarations) (event : String) :
    List GeneratedFile :=
  files (services.modify i (·.without list event))

section

variable {i : Nat} {list : Declarations}

theorem getElem?_modify_without (services : List Service) (i : Nat) (list : Declarations)
    (event : String) (j : Nat) :
    (services.modify i (·.without list event))[j]? =
      services[j]?.map fun s => if i = j then s.without list event else s := by
  rw [List.getElem?_modify]
  rfl

/-- Names are not affected, nor what is made of them. -/
theorem map_modify_without {α : Type} (f : String → α) :
    (services.modify i (·.without list event)).map (f ·.name) = services.map (f ·.name) := by
  refine List.ext_getElem? fun j => ?_
  rw [List.getElem?_map, List.getElem?_map, getElem?_modify_without, Option.map_map]
  congr 1
  funext s
  simp only [Function.comp]
  split
  · rw [Service.without_name]
  · rfl

theorem moduleStems_modify_without :
    moduleStems (services.modify i (·.without list event)) = moduleStems services := by
  rw [moduleStems, map_modify_without, moduleStems]

theorem exportStems_modify_without :
    exportStems (services.modify i (·.without list event)) = exportStems services := by
  rw [exportStems, map_modify_without, exportStems]

theorem getElem?_stemmed_modify_without (j : Nat) :
    (stemmed (services.modify i (·.without list event)))[j]? =
      (stemmed services)[j]?.map fun x => if i = j then (x.1.without list event, x.2) else x := by
  rw [stemmed, stemmed, moduleStems_modify_without, exportStems_modify_without]
  generalize (moduleStems services).zip (exportStems services) = stems
  simp only [List.zip_eq_zipWith, List.getElem?_zipWith, getElem?_modify_without]
  cases services[j]? with
  | none => rfl
  | some s =>
    cases stems[j]? with
    | none => rfl
    | some pair =>
      simp only [Option.map_some]
      split <;> rfl

/-- All other files are as usual, and so is the path of this one. -/
theorem filesWithout_eq_set {moduleStem stem : String} (hs : services[i]? = some s)
    (hmodule : (moduleStems services)[i]? = some moduleStem)
    (hstem : (exportStems services)[i]? = some stem) :
    filesWithout services i list event =
      (files services).set i (moduleFile (s.without list event) moduleStem stem) := by
  have hat : (stemmed services)[i]? = some (s, moduleStem, stem) :=
    List.getElem?_zip_eq_some.2 ⟨hs, List.getElem?_zip_eq_some.2 ⟨hmodule, hstem⟩⟩
  have hi : i < (stemmed services).length := (List.getElem?_eq_some_iff.1 hat).1
  rw [filesWithout, files_eq, files_eq, moduleStems_modify_without,
    List.set_append_left _ _ (by simpa using hi)]
  congr 1
  refine List.ext_getElem? fun j => ?_
  rw [List.getElem?_map, getElem?_stemmed_modify_without, List.getElem?_set, List.getElem?_map]
  by_cases hj : i = j
  · subst hj
    rw [hat, if_pos rfl, if_pos (by simpa using hi)]
    simp
  · simp [hj]

/-! ## What the check notices -/

variable {adapter : Adapter}

theorem quoteMark_not_mem_exportStems {stem : String} (h : stem ∈ exportStems services) :
    '"' ∉ stem.toList :=
  fun hmark => absurd (mem_exportStems h hmark) (by decide)

/-- The files of a service spell an event if one of the modules under its identifier does. -/
theorem declares_files_iff (hquote : adapter.quoteEvent = Json.quote) :
    adapter.Declares (files services) s event ↔ ∃ r ∈ services, r.id = s.id ∧ r.Spells event := by
  have hstem : ∀ x ∈ stemmed services, '"' ∉ x.2.2.toList := fun x hx =>
    quoteMark_not_mem_exportStems (List.of_mem_zip (List.of_mem_zip hx).2).2
  rw [Adapter.Declares, hquote, files_eq]
  constructor
  · rintro ⟨file, hfile, howner, hwithin⟩
    rcases List.mem_append.1 hfile with hfile | hfile
    · obtain ⟨⟨r, moduleStem, stem⟩, hr, rfl⟩ := List.mem_map.1 hfile
      exact ⟨r, (List.of_mem_zip hr).1, Option.some.inj howner,
        (within_moduleFile_iff (hstem _ hr) r moduleStem event).1 hwithin⟩
    · rw [List.mem_singleton.1 hfile] at howner
      cases howner
  · rintro ⟨r, hr, hid, hspells⟩
    rw [← stemmed_services services] at hr
    obtain ⟨⟨r, moduleStem, stem⟩, hmem, rfl⟩ := List.mem_map.1 hr
    exact ⟨_, List.mem_append_left _ (List.mem_map.2 ⟨_, hmem, rfl⟩), congrArg some hid,
      (within_moduleFile_iff (hstem _ hmem) r moduleStem event).2 hspells⟩

/-- Of all declared events only the omitted one can be missing. -/
theorem declares_filesWithout (list : Declarations) (event : String)
    (hquote : adapter.quoteEvent = Json.quote) (hs : services[i]? = some s) {r : Service}
    (hr : r ∈ services) {other : String} (hother : other ∈ r.events) :
    adapter.Declares (filesWithout services i list event) r other ∨
      r.id = s.id ∧ other = event := by
  obtain ⟨j, hj⟩ := List.mem_iff_getElem?.1 hr
  have hmem := getElem?_modify_without services i list event j
  rw [hj, Option.map_some] at hmem
  -- the file of another service is as it was, even if the service has the same identifier
  by_cases hij : i = j
  · subst hij
    obtain rfl : s = r := Option.some.inj (hs.symm.trans hj)
    by_cases hne : other = event
    · exact .inr ⟨rfl, hne⟩
    · rw [if_pos rfl] at hmem
      exact .inl ((declares_files_iff hquote).2 ⟨_, List.mem_of_getElem? hmem, Service.without_id,
        Service.spells_of_mem_events (Service.mem_events_without hother hne)⟩)
  · rw [if_neg hij] at hmem
    exact .inl ((declares_files_iff hquote).2 ⟨r, List.mem_of_getElem? hmem, rfl,
      Service.spells_of_mem_events hother⟩)

/-- Files in which something else spells the omitted event are passed on. -/
theorem generateChecked_of_spelled (hquote : adapter.quoteEvent = Json.quote)
    (hs : services[i]? = some s)
    (hfiles : adapter.generate services = .ok (filesWithout services i list event))
    (hspelled : ∃ r ∈ services.modify i (·.without list event), r.id = s.id ∧ r.Spells event) :
    adapter.generateChecked services = .ok (filesWithout services i list event) := by
  have haccepts := accepts_files (services.modify i (·.without list event))
  refine Adapter.generateChecked_eq_ok_iff.2
    ⟨hfiles, haccepts.contained, haccepts.nodup, fun r hr other hother => ?_⟩
  rcases declares_filesWithout list event hquote hs hr hother with h | ⟨hid, rfl⟩
  · exact h
  · rw [Adapter.Declares, hid]
    exact (declares_files_iff hquote).2 hspelled

/-- Otherwise they are refused for that event. -/
theorem generateChecked_of_not_spelled (hquote : adapter.quoteEvent = Json.quote)
    (hs : services[i]? = some s) (hevent : event ∈ s.declared list)
    (hfiles : adapter.generate services = .ok (filesWithout services i list event))
    (hspelled : ¬ ∃ r ∈ services.modify i (·.without list event), r.id = s.id ∧ r.Spells event) :
    adapter.generateChecked services = .error (.missingDeclaration adapter.name s.id event) := by
  have haccepts := accepts_files (services.modify i (·.without list event))
  have hpaths : adapter.fileFault? [] (filesWithout services i list event) = none :=
    Adapter.fileFault?_eq_none_iff.2
      ⟨haccepts.contained, haccepts.nodup, fun _ _ => List.not_mem_nil⟩
  refine Adapter.generateChecked_eq_error hfiles hpaths ?_
  exact Adapter.declarationFault?_eq_missing (List.mem_of_getElem? hs)
    (Service.mem_events_of_declared hevent) (mt (declares_files_iff hquote).1 hspelled)
    fun r hr other hother => declares_filesWithout list event hquote hs hr hother

/-- If a module leaves out an event that its service declares, then the files are refused for it, or
they are passed on because what is left under the identifier of the service spells the event. -/
theorem omission_detected_iff (hquote : adapter.quoteEvent = Json.quote)
    (hs : services[i]? = some s) (hevent : event ∈ s.declared list)
    (hfiles : adapter.generate services = .ok (filesWithout services i list event)) :
    let spelled := ∃ r ∈ services.modify i (·.without list event), r.id = s.id ∧ r.Spells event
    (adapter.generateChecked services = .error (.missingDeclaration adapter.name s.id event) ↔
        ¬ spelled) ∧
      (adapter.generateChecked services = .ok (filesWithout services i list event) ↔ spelled) := by
  intro spelled
  by_cases hspelled : spelled
  · simp [generateChecked_of_spelled hquote hs hfiles hspelled, hspelled]
  · simp [generateChecked_of_not_spelled hquote hs hevent hfiles hspelled, hspelled]

end

/-- TypeScript with an omission. -/
def omitting (i : Nat) (list : Declarations) (event : String) : Adapter :=
  { adapter with generate := fun services => .ok (filesWithout services i list event) }

/-- One of the events ends with a quote and another one. -/
def sampleEchoes : List Service :=
  [ ⟨⟨"env-1"⟩, "Ledger", ["notify"], []⟩
  , ⟨⟨"env-2"⟩, "Billing", ["charge", "re\"charge"], ["notify"]⟩ ]

theorem omission_detected_iff_sample :
    let billing : Service := ⟨⟨"env-2"⟩, "Billing", ["charge", "re\"charge"], ["notify"]⟩
    sampleEchoes[1]? = some billing ∧
      ("notify" ∈ billing.declared .calls ∧
        (omitting 1 .calls "notify").generateChecked sampleEchoes =
          .error (.missingDeclaration "typescript" ⟨"env-2"⟩ "notify")) ∧
      ("charge" ∈ billing.declared .operations ∧
        (omitting 1 .operations "charge").generateChecked sampleEchoes =
          .ok (filesWithout sampleEchoes 1 .operations "charge")) := by
  intro billing
  have hs : sampleEchoes[1]? = some billing := rfl
  have hnotify : "notify" ∈ billing.declared .calls := by decide
  have hcharge : "charge" ∈ billing.declared .operations := by decide
  exact ⟨hs, ⟨hnotify, (omission_detected_iff rfl hs hnotify rfl).1.2 (by decide +kernel)⟩,
    hcharge, (omission_detected_iff rfl hs hcharge rfl).2.2 (by decide +kernel)⟩

/-- An event that is received and sent is left out among the calls, and nobody notices. -/
theorem omission_accepted :
    let shop : Service := ⟨⟨"env-1"⟩, "Shop", ["paid"], ["paid"]⟩
    let forgetful := omitting 0 .calls "paid"
    [shop][0]? = some shop ∧ "paid" ∈ shop.declared .calls ∧ forgetful.quoteEvent = Json.quote ∧
      forgetful.generate [shop] = .ok (filesWithout [shop] 0 .calls "paid") ∧
      forgetful.generateChecked [shop] = .ok (filesWithout [shop] 0 .calls "paid") :=
  ⟨rfl, by decide, rfl, rfl, generateChecked_of_spelled rfl rfl rfl
    ⟨⟨⟨"env-1"⟩, "Shop", ["paid"], []⟩, by decide, rfl,
      Service.spells_of_mem_events (List.mem_singleton_self _)⟩⟩

end TypeScript

end Choreography
