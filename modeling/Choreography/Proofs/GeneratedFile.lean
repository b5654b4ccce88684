import Choreography.GeneratedFile
import Choreography.Proofs.Texts

/-!
# What checked output looks like

- `Adapter.Accepts`: the files stay inside the output root, name different paths, and spell every
  declared event in a file of its service.
- `Adapter.generateChecked_eq_ok_iff`: these files are passed on, and no others.
-/

namespace Choreography

/-- The components of a file's name. -/
def GeneratedFile.components (file : GeneratedFile) : List Path.Component :=
  Path.components ⟨file.filename⟩

namespace Adapter

variable {adapter : Adapter} {services : List Service} {files : List GeneratedFile}

/-- A file of the service spells the event. -/
def Declares (adapter : Adapter) (files : List GeneratedFile) (s : Service) (event : String) :
    Prop :=
  ∃ file ∈ files, file.service = some s.id ∧ Text.Within (adapter.quoteEvent event) file.content

/-- Nothing is wrong with the files. -/
structure Accepts (adapter : Adapter) (services : List Service) (files : List GeneratedFile) :
    Prop where
  contained : ∀ file ∈ files, Path.isContained ⟨file.filename⟩ = true
  nodup : (files.map (·.components)).Nodup
  declared : ∀ s ∈ services, ∀ event ∈ s.events, adapter.Declares files s event

theorem fileFault?_eq_none_iff {seen : List (List Path.Component)} :
    adapter.fileFault? seen files = none ↔
      (∀ file ∈ files, Path.isContained ⟨file.filename⟩ = true) ∧
        (files.map (·.components)).Nodup ∧ ∀ file ∈ files, file.components ∉ seen := by
  induction files generalizing seen with
  | nil => simp [fileFault?]
  | cons file files ih =>
    unfold fileFault?
    by_cases hcontained : Path.isContained ⟨file.filename⟩ = true
    · by_cases hseen : file.components ∈ seen
      · have hseen' : Path.components ⟨file.filename⟩ ∈ seen := hseen
        simp [hcontained, hseen, hseen']
      · have hseen' : Path.components ⟨file.filename⟩ ∉ seen := hseen
        simp only [hcontained, Bool.not_true, Bool.false_eq_true, if_false, if_neg hseen', ih,
          List.map_cons, List.nodup_cons, List.mem_map, List.mem_cons, forall_eq_or_imp]
        constructor
        · rintro ⟨hall, hnodup, hnew⟩
          refine ⟨⟨trivial, hall⟩, ⟨?_, hnodup⟩, hseen, fun f hf => (not_or.1 (hnew f hf)).2⟩
          rintro ⟨f, hf, heq⟩
          exact (not_or.1 (hnew f hf)).1 heq
        · rintro ⟨⟨-, hall⟩, ⟨hnot, hnodup⟩, -, hnew⟩
          exact ⟨hall, hnodup, fun f hf => not_or.2 ⟨fun heq => hnot ⟨f, hf, heq⟩, hnew f hf⟩⟩
    · simp [hcontained]

/-- The search through the files of a service finds exactly the events that one of them spells. -/
theorem any_occursIn_iff {s : Service} {event : String} :
    ((files.filter (·.service = some s.id)).map (·.content.toList)).any
        (Text.occursIn (adapter.quoteEvent event).toList) = true ↔
      adapter.Declares files s event := by
  simp only [List.any_eq_true, List.mem_map, List.mem_filter, decide_eq_true_eq]
  constructor
  · rintro ⟨-, ⟨file, ⟨hfile, hservice⟩, rfl⟩, hoccurs⟩
    exact ⟨file, hfile, hservice, Text.occursIn_iff_infix.1 hoccurs⟩
  · rintro ⟨file, hfile, hservice, hwithin⟩
    exact ⟨_, ⟨file, ⟨hfile, hservice⟩, rfl⟩, Text.occursIn_iff_infix.2 hwithin⟩

theorem lostEvent?_eq_none_iff {s : Service} :
    adapter.lostEvent? files s = none ↔ ∀ event ∈ s.events, adapter.Declares files s event := by
  simp only [lostEvent?, List.find?_eq_none, Bool.not_eq_true', Bool.not_eq_false,
    any_occursIn_iff]

/-- The first event that no file of the service spells. -/
theorem lostEvent?_eq_some_iff {s : Service} {event : String} :
    adapter.lostEvent? files s = some event ↔
      ∃ declared more, s.events = declared ++ event :: more ∧
        (∀ e ∈ declared, adapter.Declares files s e) ∧ ¬ adapter.Declares files s event := by
  simp only [lostEvent?, List.find?_eq_some_iff_append, Bool.not_not, any_occursIn_iff,
    Bool.not_eq_true', ← Bool.not_eq_true]
  constructor
  · rintro ⟨hlost, declared, more, hevents, hdeclared⟩
    exact ⟨declared, more, hevents, hdeclared, hlost⟩
  · rintro ⟨declared, more, hevents, hdeclared, hlost⟩
    exact ⟨hlost, declared, more, hevents, hdeclared⟩

theorem declarationFault?_eq_none_iff :
    adapter.declarationFault? services files = none ↔
      ∀ s ∈ services, ∀ event ∈ s.events, adapter.Declares files s event := by
  simp only [declarationFault?, List.findSome?_eq_none_iff, Option.map_eq_none_iff,
    lostEvent?_eq_none_iff]

theorem accepts_iff :
    adapter.Accepts services files ↔
      adapter.fileFault? [] files = none ∧ adapter.declarationFault? services files = none := by
  rw [fileFault?_eq_none_iff, declarationFault?_eq_none_iff]
  constructor
  · rintro ⟨hcontained, hnodup, hdeclared⟩
    exact ⟨⟨hcontained, hnodup, fun _ _ => List.not_mem_nil⟩, hdeclared⟩
  · rintro ⟨⟨hcontained, hnodup, -⟩, hdeclared⟩
    exact ⟨hcontained, hnodup, hdeclared⟩

/-- What the check makes of rendered files: the first fault is the answer, and a fault of the paths
comes before any lost event. -/
theorem generateChecked_eq (h : adapter.generate services = .ok files) :
    adapter.generateChecked services =
      match (adapter.fileFault? [] files).or (adapter.declarationFault? services files) with
      | some fault => .error fault
      | none => .ok files := by
  rw [generateChecked, h]
  cases hfile : adapter.fileFault? [] files with
  | some fault =>
    simp only [bind, Except.bind, hfile]
    rfl
  | none =>
    cases hevent : adapter.declarationFault? services files with
    | some fault | none =>
      simp only [bind, Except.bind, hfile, hevent]
      rfl

/-- The error of an adapter is passed on. -/
theorem generateChecked_of_error {e : CodegenError} (h : adapter.generate services = .error e) :
    adapter.generateChecked services = .error e := by
  rw [generateChecked, h]
  rfl

/-- The output of an adapter is passed on exactly if nothing is wrong with it. -/
theorem generateChecked_eq_ok_iff :
    adapter.generateChecked services = .ok files ↔
      adapter.generate services = .ok files ∧ adapter.Accepts services files := by
  rw [accepts_iff]
  cases hgenerate : adapter.generate services with
  | error e => simp [generateChecked_of_error hgenerate]
  | ok generated =>
    rw [generateChecked_eq hgenerate, Except.ok.injEq, ← Option.or_eq_none_iff]
    constructor
    · intro h
      split at h
      · cases h
      · next hnone =>
        cases h
        exact ⟨rfl, hnone⟩
    · rintro ⟨rfl, hnone⟩
      rw [hnone]

/-- If one event is missing, and no other one but under the same identifier, then it is reported. -/
theorem declarationFault?_eq_missing {s : Service} {event : String} (hs : s ∈ services)
    (hevent : event ∈ s.events) (hlost : ¬ adapter.Declares files s event)
    (hothers : ∀ r ∈ services, ∀ other ∈ r.events,
      adapter.Declares files r other ∨ r.id = s.id ∧ other = event) :
    adapter.declarationFault? services files =
      some (.missingDeclaration adapter.name s.id event) := by
  cases hfault : adapter.declarationFault? services files with
  | none => exact absurd (declarationFault?_eq_none_iff.1 hfault s hs event hevent) hlost
  | some fault =>
    obtain ⟨r, hr, hreported⟩ := List.exists_of_findSome?_eq_some hfault
    obtain ⟨other, hother, rfl⟩ := Option.map_eq_some_iff.1 hreported
    obtain ⟨-, -, -, -, hmissing⟩ := lostEvent?_eq_some_iff.1 hother
    obtain ⟨hid, rfl⟩ :=
      (hothers r hr other (List.mem_of_find?_eq_some hother)).resolve_left hmissing
    rw [hid]

/-- The first lost event is the answer if nothing is wrong with the paths. -/
theorem generateChecked_eq_error {fault : CodegenError}
    (hgenerate : adapter.generate services = .ok files)
    (hfile : adapter.fileFault? [] files = none)
    (hfault : adapter.declarationFault? services files = some fault) :
    adapter.generateChecked services = .error fault := by
  rw [generateChecked_eq hgenerate, hfile, hfault]
  rfl

/-- An adapter that answers the same to all services, and writes events in angle brackets. -/
def canned (answer : Except CodegenError (List GeneratedFile)) : Adapter where
  name := "canned"
  generate _ := answer
  quoteEvent event := "<" ++ event ++ ">"

end Adapter

end Choreography
