import Choreography.Backend.Rust
import Choreography.Proofs.GeneratedFile
import Choreography.Proofs.Naming.Casing
import Choreography.Proofs.Naming.Unique
import Choreography.Proofs.Paths
import Mathlib.Data.List.Nodup

/-!
# Rust output is rendered and accepted

- `Rust.isIdentifier_of_underscore`: a word with a letter in front and an underscore is no keyword.
- `Rust.renderFault?_eq_none`: every declared word is an identifier, so every file is rendered.
- `Rust.files_filenames` and `Rust.files_owners`: the names of the files and the services that
  they belong to.
- `Rust.within_moduleText`: a module spells every event that its service declares.
- `Rust.accepts_files`: so nothing is wrong with the files of any services.
-/

namespace Choreography

namespace Rust

open Naming

/-! ## Words -/

/-- A word with a letter in front. It is an identifier unless it is a keyword. -/
structure IsWord (word : String) : Prop where
  first : word.toList.head?.any Char.isAlpha = true
  chars : ∀ c ∈ word.toList, isWordChar c = true

variable {word : String}

theorem isWordChar_of_isAlphanum {c : Char} (h : c.isAlphanum = true) : isWordChar c = true := by
  rw [isWordChar, h, Bool.true_or]

theorem IsWord.append (h : IsWord word) {more : String}
    (hmore : ∀ c ∈ more.toList, isWordChar c = true) : IsWord (word ++ more) := by
  obtain ⟨hfirst, hchars⟩ := h
  constructor
  · rw [String.toList_append]
    cases hword : word.toList with
    | nil => simp [hword] at hfirst
    | cons c rest => simpa [hword] using hfirst
  · intro c hc
    rw [String.toList_append, List.mem_append] at hc
    rcases hc with hc | hc
    · exact hchars c hc
    · exact hmore c hc

theorem IsWord.suffixed (h : IsWord word) (n : Nat) : IsWord (suffixed word n) := by
  rw [suffixed_eq]
  refine h.append fun c hc => ?_
  rcases mem_suffix hc with rfl | hdigit
  · rfl
  · exact isWordChar_of_isAlphanum (Bool.or_eq_true_iff.2 (.inr hdigit))

theorem IsWord.isIdentifier (h : IsWord word) (hkeyword : word ∉ keywords) :
    isIdentifier word = true := by
  obtain ⟨hfirst, hchars⟩ := h
  cases hword : word.toList with
  | nil => simp [hword] at hfirst
  | cons c rest =>
    have hletter : c.isAlpha = true := by simpa [hword] using hfirst
    have hdigit : c.isDigit = false := isDigit_eq_false_of_isAlpha hletter
    have hall : (c :: rest).all isWordChar = true := List.all_eq_true.2 (hword ▸ hchars)
    simp [Rust.isIdentifier, hword, hdigit, hkeyword, hall]

/-- Only the lone underscore is a keyword that holds one. -/
theorem isIdentifier_of_underscore (h : IsWord word) (hmem : '_' ∈ word.toList) :
    isIdentifier word = true := by
  have hkeywords : keywords.all (fun k => !(k.toList.head?.any Char.isAlpha && k.toList.elem '_')) =
      true := by decide
  refine h.isIdentifier fun hkeyword => ?_
  have := List.all_eq_true.1 hkeywords word hkeyword
  simp [h.first, hmem] at this

/-- A casing makes words if its separator is made of word characters. -/
theorem isWord_name {casing : Casing} (h : casing.Sound)
    (hseparator : casing.separator.toList.all isWordChar = true) (text : String) :
    IsWord (casing.name text) := by
  constructor
  · rw [casing.toList_name]
    exact Casing.nameChars_head h _
  · intro c hc
    rw [casing.toList_name] at hc
    rcases Casing.mem_nameChars h hc with hc | hc
    · exact isWordChar_of_isAlphanum hc
    · exact List.all_eq_true.1 hseparator c hc

theorem isWord_snake (text : String) : IsWord (Casing.snake.name text) :=
  isWord_name Casing.snake_sound (by decide) text

theorem isWord_pascal (text : String) : IsWord (Casing.pascal.name text) :=
  isWord_name Casing.pascal_sound (by decide) text

/-! ## Declared words -/

theorem moduleName_spec (name : String) :
    IsWord (moduleName name) ∧ isIdentifier (moduleName name) = true := by
  have hsnake := isWord_snake name
  have hservice : IsWord (Casing.snake.name name ++ "_service") :=
    hsnake.append (List.all_eq_true.1 (by decide))
  unfold moduleName
  by_cases h : isIdentifier (Casing.snake.name name) = true
  · rw [if_pos h]
    exact ⟨hsnake, h⟩
  · rw [if_neg h]
    exact ⟨hservice, isIdentifier_of_underscore hservice (by simp)⟩

/-- A chosen module name is an identifier. If it has got a suffix, that holds an underscore. -/
theorem moduleNames_spec (services : List Service) :
    ∀ name ∈ moduleNames services, IsWord name ∧ isIdentifier name = true := by
  refine forall_mem_unique (P := fun name => IsWord name ∧ isIdentifier name = true) ?_ ?_
  · intro name hname
    obtain ⟨s, -, rfl⟩ := List.mem_map.1 hname
    exact moduleName_spec s.name
  · rintro name n ⟨hword, -⟩
    exact ⟨hword.suffixed n,
      isIdentifier_of_underscore (hword.suffixed n) (underscore_mem_suffixed name n)⟩

theorem isWord_on : IsWord "on" := ⟨by decide, List.all_eq_true.1 (by decide)⟩

theorem isWord_send : IsWord "send" := ⟨by decide, List.all_eq_true.1 (by decide)⟩

theorem isWord_method {verb : String} (hverb : IsWord verb) (event : String) :
    IsWord (verb ++ "_" ++ Casing.snake.name event) :=
  (hverb.append (List.all_eq_true.1 (by decide))).append (isWord_snake event).chars

/-- The name of a method holds an underscore from the start, behind its verb. -/
theorem methodNames_spec {verb : String} (hverb : IsWord verb) (events : List String) :
    ∀ name ∈ methodNames verb events, isIdentifier name = true := by
  have hspec : ∀ name ∈ methodNames verb events, IsWord name ∧ '_' ∈ name.toList := by
    refine forall_mem_unique (P := fun name => IsWord name ∧ '_' ∈ name.toList) ?_ ?_
    · intro name hname
      obtain ⟨event, -, rfl⟩ := List.mem_map.1 hname
      exact ⟨isWord_method hverb event, by simp⟩
    · rintro name n ⟨hword, -⟩
      exact ⟨hword.suffixed n, underscore_mem_suffixed name n⟩
  intro name hname
  obtain ⟨hword, hmem⟩ := hspec name hname
  exact isIdentifier_of_underscore hword hmem

/-- No keyword ends in the second half of a trait's name. -/
theorem isIdentifier_trait {ending : String} (hending : IsWord ending)
    (hkeywords : keywords.all (fun k => !ending.toList.isSuffixOf k.toList) = true)
    (name : String) : isIdentifier (Casing.pascal.name name ++ ending) = true := by
  refine ((isWord_pascal name).append hending.chars).isIdentifier fun hkeyword => ?_
  have := List.all_eq_true.1 hkeywords _ hkeyword
  rw [String.toList_append, List.isSuffixOf_iff_suffix.2 (List.suffix_append _ _)] at this
  cases this

theorem declaredWords_spec (s : Service) : ∀ word ∈ declaredWords s, isIdentifier word = true := by
  have hoperations : IsWord "Operations" := ⟨by decide, List.all_eq_true.1 (by decide)⟩
  have hcalls : IsWord "Calls" := ⟨by decide, List.all_eq_true.1 (by decide)⟩
  intro word hword
  rw [declaredWords, List.cons_append, List.mem_cons, List.mem_append, List.mem_cons] at hword
  rcases hword with rfl | hword | rfl | hword
  · exact isIdentifier_trait hoperations (by decide) s.name
  · exact methodNames_spec isWord_on s.operations word hword
  · exact isIdentifier_trait hcalls (by decide) s.name
  · exact methodNames_spec isWord_send s.calls word hword

theorem wordFault?_eq_none {filename : String} {words : List String}
    (h : ∀ word ∈ words, isIdentifier word = true) : wordFault? filename words = none := by
  have hfind : words.find? (!isIdentifier ·) = none := by
    rw [List.find?_eq_none]
    intro word hword
    simp [h word hword]
  rw [wordFault?, hfind, Option.map_none]

/-- Every file is rendered, whatever the services are called. -/
theorem renderFault?_eq_none (services : List Service) : renderFault? services = none := by
  unfold renderFault?
  rw [List.findSome?_eq_none_iff]
  rintro ⟨filename, words⟩ h
  apply wordFault?_eq_none
  rcases List.mem_append.1 h with h | h
  · obtain ⟨⟨s, name⟩, -, heq⟩ := List.mem_map.1 h
    cases heq
    exact declaredWords_spec s
  · cases List.mem_singleton.1 h
    exact fun name hname => (moduleNames_spec services name hname).2

/-! ## File names -/

variable {services : List Service}

@[simp] theorem length_moduleNames : (moduleNames services).length = services.length := by
  simp [moduleNames]

theorem files_eq (services : List Service) :
    files services = (services.zip (moduleNames services)).map (fun (s, name) =>
      moduleFile s name) ++ [rootFile (moduleNames services)] := rfl

theorem files_filenames (services : List Service) :
    (files services).map (·.filename) =
      (moduleNames services ++ ["lib"]).map moduleFilename := by
  rw [files_eq, List.map_append, List.map_append, List.map_map]
  congr 1
  calc (services.zip (moduleNames services)).map (fun x => moduleFilename x.2)
      = ((services.zip (moduleNames services)).map (·.2)).map moduleFilename := by
        rw [List.map_map]; rfl
    _ = (moduleNames services).map moduleFilename := by rw [List.map_snd_zip (by simp)]

theorem files_owners (services : List Service) :
    (files services).map (·.service) = services.map (some ·.id) ++ [none] := by
  rw [files_eq, List.map_append, List.map_map]
  congr 1
  calc (services.zip (moduleNames services)).map (fun x => some x.1.id)
      = ((services.zip (moduleNames services)).map (·.1)).map (some ·.id) := by
        rw [List.map_map]; rfl
    _ = services.map (some ·.id) := by rw [List.map_fst_zip (by simp)]

/-- The file of a service stands where the service does. -/
theorem getElem?_files {i : Nat} {s : Service} (h : services[i]? = some s) :
    ∃ name, (files services)[i]? = some (moduleFile s name) := by
  obtain ⟨hi, -⟩ := List.getElem?_eq_some_iff.1 h
  obtain ⟨name, hname⟩ : ∃ name, (moduleNames services)[i]? = some name :=
    ⟨_, List.getElem?_eq_getElem (by simpa using hi)⟩
  have hzip : (services.zip (moduleNames services))[i]? = some (s, name) :=
    List.getElem?_zip_eq_some.2 ⟨h, hname⟩
  refine ⟨name, ?_⟩
  rw [files_eq, List.getElem?_append_left, List.getElem?_map, hzip, Option.map_some]
  rw [List.length_map]
  exact (List.getElem?_eq_some_iff.1 hzip).1

/-- Every service has a file. -/
theorem exists_moduleFile {s : Service} (h : s ∈ services) :
    ∃ name, moduleFile s name ∈ files services := by
  obtain ⟨i, hi⟩ := List.getElem?_of_mem h
  obtain ⟨name, hfile⟩ := getElem?_files hi
  exact ⟨name, List.mem_of_getElem? hfile⟩

theorem components_moduleFilename {name : String} (h : name ∈ moduleNames services ++ ["lib"]) :
    Path.components ⟨moduleFilename name⟩ = [.name "src", .name (name ++ ".rs")] := by
  have hslash : '/' ∉ name.toList := by
    rcases List.mem_append.1 h with h | h
    · intro hmem
      exact absurd ((moduleNames_spec services name h).1.chars '/' hmem) (by decide)
    · rw [List.mem_singleton.1 h]
      decide
  have hfile : Path.IsPlain (name ++ ".rs") := ⟨by simpa using hslash, by simp⟩
  have hfilename : moduleFilename name = "src" ++ "/" ++ (name ++ ".rs") := by
    rw [moduleFilename, String.append_assoc]
    rfl
  rw [hfilename, Path.components_directory_file ⟨by decide, by decide⟩ hfile]

theorem files_components (services : List Service) :
    (files services).map (·.components) =
      (moduleNames services ++ ["lib"]).map fun name => [.name "src", .name (name ++ ".rs")] := by
  calc (files services).map (·.components)
      = ((files services).map (·.filename)).map (Path.components ⟨·⟩) := by rw [List.map_map]; rfl
    _ = ((moduleNames services ++ ["lib"]).map moduleFilename).map (Path.components ⟨·⟩) := by
        rw [files_filenames]
    _ = (moduleNames services ++ ["lib"]).map (Path.components ⟨moduleFilename ·⟩) := by
        rw [List.map_map]; rfl
    _ = _ := List.map_congr_left fun _ h => components_moduleFilename h

/-! ## Declared events -/

theorem within_line {part text : String} (depth : Nat) (h : Text.Within part text) :
    Text.Within part (line depth text) :=
  (h.append_left _).append_right _

/-- A table spells its entries, on one line or on many. -/
theorem within_table {event : String} {events : List String} (name : String) (h : event ∈ events) :
    Text.Within (RustLiteral.quote event) (table name events) := by
  have hliteral : RustLiteral.quote event ∈ events.map RustLiteral.quote :=
    List.mem_map.2 ⟨event, h, rfl⟩
  unfold table
  dsimp only
  split
  · refine within_line 0 (Text.Within.append_right ?_ _)
    exact ((Text.Within.refl _).intercalate hliteral _).append_left _
  · have hline : Text.Within (RustLiteral.quote event) (line 1 (RustLiteral.quote event ++ ",")) :=
      within_line 1 ((Text.Within.refl _).append_right _)
    refine Text.Within.append_right (Text.Within.append_left ?_ _) _
    exact hline.join (List.mem_map.2 ⟨_, hliteral, rfl⟩)

/-- A module spells every event of its service. -/
theorem within_moduleText {s : Service} {event : String} (h : event ∈ s.events) :
    Text.Within (RustLiteral.quote event) (moduleText s) := by
  unfold moduleText
  -- what follows the tables is passed over, one part at a time
  rcases List.mem_append.1 h with hoperation | hcall
  · iterate 6 refine Text.Within.append_right ?_ _
    exact (within_table "OPERATIONS" hoperation).append_left _
  · iterate 4 refine Text.Within.append_right ?_ _
    exact (within_table "CALLS" hcall).append_left _

/-! ## Checked output -/

/-- Nothing is wrong with the files of any services. -/
theorem accepts_files (services : List Service) : adapter.Accepts services (files services) where
  contained file hfile := by
    have hmem : file.components ∈ (files services).map (·.components) :=
      List.mem_map.2 ⟨file, hfile, rfl⟩
    rw [files_components] at hmem
    obtain ⟨name, -, hname⟩ := List.mem_map.1 hmem
    exact Path.isContained_of_components (List.cons_ne_nil _ [_]) hname.symm
  nodup := by
    rw [files_components]
    have hnames : (moduleNames services ++ ["lib"]).Nodup := unique_append_nodup List.mem_cons_self
    refine hnames.map fun a b h => ?_
    simpa using h
  declared s hs event hevent := by
    obtain ⟨name, hfile⟩ := exists_moduleFile hs
    exact ⟨_, hfile, rfl, within_moduleText hevent⟩

/-- Rust is rendered for any services. -/
theorem generateChecked_eq (services : List Service) :
    adapter.generateChecked services = .ok (files services) := by
  refine Adapter.generateChecked_eq_ok_iff.2 ⟨?_, accepts_files services⟩
  simp only [adapter, renderFault?_eq_none]

end Rust

end Choreography
