import Choreography.Proofs.Backend.Declarations
import Choreography.Proofs.Backend.Interfaces
import Choreography.Proofs.Generation

/-!
# Every step is declared in the generated code

- `Backend.Declares`: what is read back from a module, in the language of the backend.
- `Backend.exists_rendered`: the module of each service declares the events of the service.
- `steps_declared_once`: so the event of a step is declared once in the module of the receiver and
  once in that of the sender, whatever the event is.
-/

namespace Choreography

namespace Backend

/-- The module at some place declares the events of the service. -/
def Declares (backend : Backend) (services : List Service) (i : Nat) (s : Service)
    (text : String) : Prop :=
  match backend with
  | .typescript => ∃ stem, (TypeScript.exportStems services)[i]? = some stem ∧
      TypeScript.Declares stem s text
  | .rust => ∃ ts, Rust.tokens? text = some ts ∧ Rust.Declares s ts

/-- The file at some place belongs to the service at that place and declares its events. -/
structure Rendered (backend : Backend) (services : List Service) (files : List GeneratedFile)
    (i : Nat) (s : Service) (file : GeneratedFile) : Prop where
  service_at : services[i]? = some s
  file_at : files[i]? = some file
  owner : file.service = some s.id
  declares : backend.Declares services i s file.content

/-- Any services are rendered, and each of them in a file that declares its events. -/
theorem exists_rendered (backend : Backend) (services : List Service) :
    ∃ files, backend.adapter.generateChecked services = .ok files ∧
      ∀ i s, services[i]? = some s → ∃ file, backend.Rendered services files i s file := by
  cases backend with
  | typescript =>
    refine ⟨_, TypeScript.generateChecked_eq services, fun i s hs => ?_⟩
    obtain ⟨stem, file, hstem, hfile, howner, hdeclares⟩ := TypeScript.declares_files hs
    exact ⟨file, hs, hfile, howner, stem, hstem, hdeclares⟩
  | rust =>
    refine ⟨_, Rust.generateChecked_eq services, fun i s hs => ?_⟩
    obtain ⟨file, ts, hfile, howner, hts, hdeclares⟩ := Rust.declares_files hs
    exact ⟨file, hs, hfile, howner, ts, hts, hdeclares⟩

end Backend

namespace Compile

variable {db : Database}

/-- The code of a consistent database is generated, and each environment has a file from which the
events of its service are read back, one by one and in their order. The event of a step is listed
once among the operations of the receiver and once among the calls of the sender, whatever
characters it has. -/
theorem steps_declared_once (h : db.Consistent) (settings : Settings) :
    let backend := settings.codegen.backend
    ∃ services files, db.services = .ok services ∧ generate settings db = .ok files ∧
      (∀ i s, services[i]? = some s → ∃ file, backend.Rendered services files i s file) ∧
      ∀ d ∈ db.diagrams, ∀ step ∈ d.steps,
        (∃ i s file, backend.Rendered services files i s file ∧ s.id = step.receiver ∧
          s.operations.count step.event = 1) ∧
        ∃ i s file, backend.Rendered services files i s file ∧ s.id = step.sender ∧
          s.calls.count step.event = 1 := by
  intro backend
  obtain ⟨files, hfiles, hrendered⟩ :=
    backend.exists_rendered (db.environments.map (Service.ofSteps db.allSteps))
  -- each environment has its service at its own place
  have hservice : ∀ e ∈ db.environments, ∃ i file, backend.Rendered
      (db.environments.map (Service.ofSteps db.allSteps)) files i
      (Service.ofSteps db.allSteps e) file := by
    intro e he
    obtain ⟨i, hi⟩ :=
      List.mem_iff_getElem?.1 (List.mem_map_of_mem (f := Service.ofSteps db.allSteps) he)
    obtain ⟨file, hfile⟩ := hrendered i _ hi
    exact ⟨i, file, hfile⟩
  refine ⟨_, files, h.services_eq, generate_eq_ok h.services_eq hfiles, hrendered,
    fun d hd step hstep => ⟨?_, ?_⟩⟩
  · obtain ⟨e, he, hid, hevent⟩ := h.exists_receiver hd hstep
    obtain ⟨i, file, hfile⟩ := hservice e he
    exact ⟨i, _, file, hfile, hid, List.count_eq_one_of_mem (nodup_eraseDups _) hevent⟩
  · obtain ⟨e, he, hid, hevent⟩ := h.exists_sender hd hstep
    obtain ⟨i, file, hfile⟩ := hservice e he
    exact ⟨i, _, file, hfile, hid, List.count_eq_one_of_mem (nodup_eraseDups _) hevent⟩

/-- Events that look like the code around them, one that has not been typed and one that occurs
twice. The second identifier goes on in a line that looks like an interface. -/
def sampleImitations : Contents where
  environments :=
    [⟨⟨"a"⟩, "Shop"⟩, ⟨⟨"b\nexport interface BankCalls \x7b\x7d\n"⟩, "Bank"⟩]
  diagrams :=
    let shop : EnvironmentId := ⟨"a"⟩
    let bank : EnvironmentId := ⟨"b\nexport interface BankCalls \x7b\x7d\n"⟩
    [⟨⟨"d"⟩, "", ∅, [⟨shop, bank, "\"];\n\x7d"⟩, ⟨bank, shop, "*/"⟩, ⟨shop, bank, ""⟩,
      ⟨shop, bank, "\"];\n\x7d"⟩]⟩]

theorem steps_declared_once_sample :
    let db := sampleImitations.database
    let rust := ({} : Settings).withBackend .rust
    db.Consistent ∧
      (∃ files shop bank, generate {} db = .ok files ∧ files[0]? = some shop ∧
        files[1]? = some bank ∧
        TypeScript.interfaces (TypeScript.lines shop.content) =
          [("ShopOperations", ["*/"]), ("ShopCalls", ["\"];\n\x7d", ""])] ∧
        [("BankOperations", ["\"];\n\x7d", ""]), ("BankCalls", ["*/"])] <:+
          TypeScript.interfaces (TypeScript.lines bank.content)) ∧
      ∃ files bank ts, generate rust db = .ok files ∧ files[1]? = some bank ∧
        Rust.tokens? bank.content = some ts ∧
        Rust.table? "OPERATIONS" ts = some ["\"\\\"];\\n\x7d\"", "\"\""] ∧
        Rust.table? "CALLS" ts = some ["\"*/\""] := by
  intro db rust
  have hload : Database.ofContents sampleImitations = .ok db := by decide
  have h : db.Consistent := (Database.ofContents_eq_ok_iff.1 hload).1
  let shop : Service := ⟨⟨"a"⟩, "Shop", ["*/"], ["\"];\n\x7d", ""]⟩
  let bank : Service := ⟨⟨"b\nexport interface BankCalls \x7b\x7d\n"⟩, "Bank",
    ["\"];\n\x7d", ""], ["*/"]⟩
  have hall : db.services = .ok [shop, bank] := by decide
  have hstems : TypeScript.exportStems [shop, bank] = ["Shop", "Bank"] := by decide
  refine ⟨h, ?_, ?_⟩
  · obtain ⟨services, files, hservices, hfiles, hrendered, -⟩ := steps_declared_once h {}
    obtain rfl : [shop, bank] = services := Except.ok.inj (hall.symm.trans hservices)
    obtain ⟨file₀, -, hfile₀, -, stem₀, hstem₀, hdeclares₀⟩ := hrendered 0 shop rfl
    obtain ⟨file₁, -, hfile₁, -, stem₁, hstem₁, hdeclares₁⟩ := hrendered 1 bank rfl
    rw [hstems] at hstem₀ hstem₁
    cases hstem₀
    cases hstem₁
    exact ⟨files, file₀, file₁, hfiles, hfile₀, hfile₁, hdeclares₀.only (by decide),
      hdeclares₁.last⟩
  · obtain ⟨services, files, hservices, hfiles, hrendered, -⟩ := steps_declared_once h rust
    obtain rfl : [shop, bank] = services := Except.ok.inj (hall.symm.trans hservices)
    obtain ⟨file, -, hfile, -, ts, hts, hdeclares⟩ := hrendered 1 bank rfl
    refine ⟨files, file, ts, hfiles, hfile, hts, ?_, ?_⟩
    · rw [hdeclares.operations]
      decide
    · rw [hdeclares.calls]
      decide

end Compile

end Choreography
