import Choreography.Backend
import Choreography.Proofs.Backend.Declarations
import Choreography.Proofs.Backend.Interfaces

/-!
# The index declares the modules

Behind the modules of the services stands one file that belongs to no service. It declares the
modules to the outside, by the stems of their file names.

- `TypeScript.exportedModules?` and `Rust.declaredModules?` read such a file. They refuse whatever
  is no declaration of a module.
- `index_declares_modules`: so the file declares one module for each service, in their order, and
  nothing else. No two modules have the same file, and none takes a file of the backend itself.
- In Rust all stems, and the method names of all traits, can name something (`Rust.IsName`).
-/

namespace Choreography

open Naming

/-! ## TypeScript -/

namespace TypeScript

/-- The module that a line exports again. -/
def exportedModule? (line : String) : Option String := do
  let quoted ← line.toList.dropPrefix? "export * from \"./".toList
  if quoted.dropWhile (· ≠ '"') = "\";".toList then
    return String.ofList (quoted.takeWhile (· ≠ '"'))
  else none

/-- A line with nothing but a comment, or with nothing at all. -/
def isIdle (line : String) : Bool :=
  line.toList.isEmpty || "//".toList.isPrefixOf line.toList

/-- The modules that the lines of a text export again, one in each line that is not idle. -/
def exportedModules? (text : String) : Option (List String) :=
  ((lines text).filter (!isIdle ·)).mapM exportedModule?

variable {services : List Service} {stem : String} {stems : List String}

theorem toList_exportLine (stem : String) : (exportLine stem).toList =
    "export * from \"./".toList ++ (stem.toList ++ "\";".toList) := by
  unfold exportLine
  rw [String.toList_append, String.toList_append, List.append_assoc]

theorem isIdle_exportLine (stem : String) : isIdle (exportLine stem) = false := by
  unfold isIdle
  rw [toList_exportLine]
  rfl

theorem exportedModule?_exportLine (h : '"' ∉ stem.toList) :
    exportedModule? (exportLine stem) = some stem := by
  have hdrop : (exportLine stem).toList.dropPrefix? "export * from \"./".toList =
      some (stem.toList ++ "\";".toList) :=
    List.dropPrefix?_eq_some_iff.2 ⟨_, toList_exportLine stem, beq_self_eq_true _⟩
  have hchars : ∀ c ∈ stem.toList, decide (c ≠ '"') = true :=
    fun c hc => decide_eq_true fun heq => h (heq ▸ hc)
  rw [exportedModule?, hdrop, Option.bind_eq_bind, Option.bind_some,
    List.dropWhile_append_of_pos hchars, List.takeWhile_append_of_pos hchars]
  simp

theorem mapM_exportedModule? (h : ∀ stem ∈ stems, '"' ∉ stem.toList) :
    (stems.map exportLine).mapM exportedModule? = some stems := by
  induction stems with
  | nil => rfl
  | cons stem stems ih =>
    obtain ⟨hstem, hstems⟩ := List.forall_mem_cons.1 h
    rw [List.map_cons, List.mapM_cons, exportedModule?_exportLine hstem, ih hstems]
    rfl

theorem oneLine_exportLine (h : OneLine stem) : OneLine (exportLine stem) := by
  unfold exportLine
  exact (OneLine.append (by decide) h).append (by decide)

/-- An index declares its modules. -/
theorem exportedModules?_indexFile (hquote : ∀ stem ∈ stems, '"' ∉ stem.toList)
    (hline : ∀ stem ∈ stems, OneLine stem) :
    exportedModules? (indexFile stems).content = some stems := by
  have hlines : ∀ l ∈ ("// " ++ generatedNotice) :: "" :: stems.map exportLine, OneLine l := by
    simp only [List.forall_mem_cons, List.forall_mem_map]
    exact ⟨by decide, by decide, fun stem hstem => oneLine_exportLine (hline stem hstem)⟩
  have hnotice : isIdle ("// " ++ generatedNotice) = true := by decide
  have hblank : isIdle "" = true := by decide
  have hkept : (stems.map exportLine).filter (!isIdle ·) = stems.map exportLine := by
    rw [List.filter_eq_self]
    intro line hmem
    obtain ⟨stem, -, rfl⟩ := List.mem_map.1 hmem
    rw [isIdle_exportLine, Bool.not_false]
  rw [exportedModules?, indexFile, lines_unlines, flatMap_lines hlines, List.filter_append,
    List.filter_cons_of_neg (by simp [hnotice]), List.filter_cons_of_neg (by simp [hblank]), hkept,
    List.filter_cons_of_neg (by simp [hblank]), List.filter_nil, List.append_nil,
    mapM_exportedModule? hquote]

end TypeScript

/-! ## Rust -/

namespace Rust

/-- The modules that tokens declare. There is nothing else among them. -/
def declaredModules? : List Token → Option (List String)
  | [] => some []
  | .word "pub" :: .word "mod" :: .word name :: .mark ';' :: rest => do
    return name :: (← declaredModules? rest)
  | _ => none

/-- Something can be named by the word: it begins with a letter, goes on with letters, digits and
underscores, and is no keyword. -/
def IsName (word : String) : Prop := IsWord word ∧ word ∉ keywords

/-- The methods of a trait: one for each event, and they can be named. -/
structure IsNamedMethodsOf (verb : String) (events methodNames : List String) : Prop
    extends IsMethodsOf verb events methodNames where
  names : ∀ name ∈ methodNames, IsName name

variable {services : List Service} {name : String} {names : List String}

/-- The tokens of a declaration. -/
def declaration (name : String) : List Token :=
  [.word "pub", .word "mod", .word name, .mark ';']

theorem lexes_rootFile (h : ∀ name ∈ names, isIdentifier name = true) :
    Lexes (rootFile names).content (names.flatMap declaration) := by
  have hhead : Lexes head [] := by decide
  have hkeywords : Lexes "pub mod " [.word "pub", .word "mod"] := by decide
  have hclosing : Lexes ";" [.mark ';'] := by decide
  refine hhead.append (Lexes.join fun name hname => Lexes.line 0 ?_)
  rw [String.append_assoc]
  exact hkeywords.append (hclosing.word (h name hname) rfl (by decide))

theorem declaredModules?_declarations (names : List String) :
    declaredModules? (names.flatMap declaration) = some names := by
  induction names with
  | nil => rfl
  | cons name names ih =>
    have hcons : (name :: names).flatMap declaration = .word "pub" :: .word "mod" :: .word name ::
        .mark ';' :: names.flatMap declaration := rfl
    rw [hcons, declaredModules?, ih]
    rfl

theorem isName_of_mem_moduleNames (h : name ∈ moduleNames services) : IsName name :=
  have hname := moduleNames_spec services name h
  ⟨hname.1, (isIdentifier_spec hname.2).2.2⟩

/-- The name of a method holds an underscore, so it is no keyword. -/
theorem NamedAfter.isName {verb event : String} (hverb : IsWord verb)
    (h : NamedAfter verb name event) : IsName name := by
  have hword := isWord_method hverb event
  have hname : ∀ {word : String}, IsWord word → '_' ∈ word.toList → IsName word := fun hword hmem =>
    ⟨hword, (isIdentifier_spec (isIdentifier_of_underscore hword hmem)).2.2⟩
  rcases h with rfl | ⟨n, rfl⟩
  · exact hname hword (by simp)
  · exact hname (hword.suffixed n) (underscore_mem_suffixed _ n)

theorem IsMethodsOf.isNamed {verb : String} {events : List String} (hverb : IsWord verb)
    (h : IsMethodsOf verb events names) : IsNamedMethodsOf verb events names where
  toIsMethodsOf := h
  names := by
    have hboth := h.named.imp fun _ _ hnamed => And.intro (hnamed.isName hverb) hnamed
    exact ((List.forall₂_and_left _ _).1 hboth).1

/-- All words under which the modules of services are declared, or declare something themselves. -/
structure Named (services : List Service) (stems : List String) (files : List GeneratedFile) :
    Prop where
  modules : ∀ stem ∈ stems, IsName stem
  methods : ∀ (i : Nat) (s : Service), services[i]? = some s →
    ∃ file ts handlers senders, files[i]? = some file ∧ tokens? file.content = some ts ∧
      trait? (operationsTrait s) ts = some handlers ∧
      IsNamedMethodsOf "on" s.operations handlers ∧
      trait? (callsTrait s) ts = some senders ∧ IsNamedMethodsOf "send" s.calls senders

theorem named_files (services : List Service) :
    Named services (moduleNames services) (files services) where
  modules _ := isName_of_mem_moduleNames
  methods i s hs := by
    obtain ⟨file, ts, hfile, -, hts, hdeclares⟩ := declares_files hs
    obtain ⟨handlers, hhandlers, hon⟩ := hdeclares.handlers
    obtain ⟨senders, hsenders, hsend⟩ := hdeclares.senders
    exact ⟨file, ts, handlers, senders, hfile, hts, hhandlers, hon.isNamed isWord_on, hsenders,
      hsend.isNamed isWord_send⟩

end Rust

/-! ## Both backends -/

namespace Backend

/-- The file of a module. -/
def moduleFilename : Backend → String → String
  | .typescript, stem => stem ++ ".ts"
  | .rust, stem => Rust.moduleFilename stem

/-- The file that declares the modules. -/
def indexFilename : Backend → String
  | .typescript => "index.ts"
  | .rust => "src/lib.rs"

/-- The files that are no module of a service. -/
def ownFilenames : Backend → List String
  | .typescript => ["index.ts"]
  | .rust => ["src/lib.rs", "src/main.rs"]

/-- The modules that a text declares, if it declares nothing else. -/
def declaredModules? : Backend → String → Option (List String)
  | .typescript, text => TypeScript.exportedModules? text
  | .rust, text => (Rust.tokens? text).bind Rust.declaredModules?

/-- There is a module for each service, and a file that declares the modules by these stems. -/
structure Indexed (backend : Backend) (services : List Service) (stems : List String)
    (files : List GeneratedFile) : Prop where
  /-- Only the last file belongs to no service. -/
  owners : files.map (·.service) = services.map (some ·.id) ++ [none]
  filenames : files.map (·.filename) = stems.map backend.moduleFilename ++ [backend.indexFilename]
  nodup : (stems.map backend.moduleFilename).Nodup
  own : ∀ stem ∈ stems, backend.moduleFilename stem ∉ backend.ownFilenames
  /-- No module is declared twice. -/
  once : stems.Nodup
  declared : ∃ index, files.getLast? = some index ∧
    backend.declaredModules? index.content = some stems

end Backend

variable (services : List Service)

theorem TypeScript.indexed_files :
    Backend.Indexed .typescript services (moduleStems services) (files services) where
  owners := files_owners services
  filenames := by
    rw [files_filenames, List.map_append]
    rfl
  nodup := (unique_nodup _ _).map fun a b h => by simpa [Backend.moduleFilename] using h
  own stem hstem := by
    have hindex : "index.ts" = "index" ++ ".ts" := by decide
    intro hmem
    rw [Backend.ownFilenames, List.mem_singleton, hindex] at hmem
    exact unique_not_reserved hstem (List.mem_singleton.2 ((String.append_left_inj _).1 hmem))
  once := unique_nodup _ _
  declared := by
    refine ⟨indexFile (moduleStems services), by rw [files_eq, List.getLast?_concat], ?_⟩
    refine exportedModules?_indexFile (fun stem hstem hmem => ?_) fun stem hstem hmem => ?_
    · exact absurd (mem_moduleStems hstem hmem) (by decide)
    · exact absurd (mem_moduleStems hstem hmem) (by decide)

theorem Rust.indexed_files :
    Backend.Indexed .rust services (moduleNames services) (files services) where
  owners := files_owners services
  filenames := by
    rw [files_filenames, List.map_append]
    rfl
  nodup := (unique_nodup _ _).map fun a b h => by
    simpa [Backend.moduleFilename, Rust.moduleFilename] using h
  own stem hstem := by
    -- the files of the crate itself have reserved names
    have hroots : Backend.ownFilenames .rust = ["lib", "main"].map moduleFilename := by decide
    intro hmem
    rw [hroots, List.mem_map] at hmem
    obtain ⟨root, hroot, heq⟩ := hmem
    have hstems : root = stem := by simpa [Backend.moduleFilename, moduleFilename] using heq
    exact unique_not_reserved hstem (hstems ▸ hroot)
  once := unique_nodup _ _
  declared := by
    have hnames : ∀ name ∈ moduleNames services, isIdentifier name = true := fun name hname =>
      (moduleNames_spec services name hname).2
    refine ⟨rootFile (moduleNames services), by rw [files_eq, List.getLast?_concat], ?_⟩
    rw [Backend.declaredModules?, (lexes_rootFile hnames).tokens?, Option.bind_some,
      declaredModules?_declarations]

namespace Backend

/-- For any services, whatever their names: both backends give each service a file of its own, and
one more file, the last one, that declares exactly the modules of these files, in the order of the
services. In Rust the declared modules and the methods of all traits have names that can be used. -/
theorem index_declares_modules (backend : Backend) (services : List Service) :
    ∃ files stems, backend.adapter.generateChecked services = .ok files ∧
      backend.Indexed services stems files ∧
      (backend = .rust → Rust.Named services stems files) := by
  cases backend with
  | typescript =>
    exact ⟨_, _, TypeScript.generateChecked_eq services, TypeScript.indexed_files services, nofun⟩
  | rust =>
    exact ⟨_, _, Rust.generateChecked_eq services, Rust.indexed_files services,
      fun _ => Rust.named_files services⟩

/-- A keyword, the name of a crate root, and names that they get by their suffixes. -/
def reservedServices : List Service :=
  [ { id := ⟨"env-1"⟩, name := "type", operations := ["paid", "Paid"] }
  , { id := ⟨"env-2"⟩, name := "Type service", calls := ["self"] }
  , { id := ⟨"env-3"⟩, name := "lib_2" }
  , { id := ⟨"env-4"⟩, name := "Lib" } ]

theorem index_declares_modules_sample :
    ∃ files stems, Backend.rust = .rust ∧
      Backend.rust.adapter.generateChecked reservedServices = .ok files ∧
      Backend.rust.Indexed reservedServices stems files ∧
      Rust.Named reservedServices stems files ∧
      stems = ["type_service", "type_service_2", "lib_2", "lib_3"] := by
  obtain ⟨files, stems, hfiles, hindexed, hnamed⟩ := index_declares_modules .rust reservedServices
  refine ⟨files, stems, rfl, hfiles, hindexed, hnamed rfl, ?_⟩
  have hmap : stems.map Rust.moduleFilename =
      (Rust.moduleNames reservedServices).map Rust.moduleFilename := by
    have hnames := hindexed.filenames
    cases (Rust.generateChecked_eq reservedServices).symm.trans hfiles
    rw [Rust.files_filenames, List.map_append] at hnames
    exact (List.append_inj_left' hnames rfl).symm
  have hinj : Function.Injective Rust.moduleFilename := fun a b h => by
    simpa [Rust.moduleFilename] using h
  rw [List.map_injective_iff.2 hinj hmap]
  decide

end Backend

end Choreography
