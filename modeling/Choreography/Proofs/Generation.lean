import Choreography.Compile
import Choreography.Proofs.Backend.Rust
import Choreography.Proofs.Backend.TypeScript
import Choreography.Proofs.Except
import Choreography.Proofs.Invariant
import Choreography.Proofs.Services

/-!
# Code generation never fails

- `Backend.generateChecked_ok`: both backends render any services, and what they render is accepted.
- `reachable_databases_render`: with `Database.Consistent.services` this reaches from the
  databases to their files.
-/

namespace Choreography

/-- Any services are rendered, into one file each and a shared one. -/
theorem Backend.generateChecked_ok (backend : Backend) (services : List Service) :
    ∃ files, backend.adapter.generateChecked services = .ok files ∧
      files.map (·.service) = services.map (some ·.id) ++ [none] := by
  cases backend with
  | typescript =>
    exact ⟨_, TypeScript.generateChecked_eq services, TypeScript.files_owners services⟩
  | rust => exact ⟨_, Rust.generateChecked_eq services, Rust.files_owners services⟩

namespace Compile

/-- What the backend renders for the services is passed on. -/
theorem generate_eq_ok {db : Database} {settings : Settings} {services : List Service}
    {files : List GeneratedFile} (hservices : db.services = .ok services)
    (hfiles : settings.codegen.backend.adapter.generateChecked services = .ok files) :
    generate settings db = .ok files := by
  rw [generate, Writer.render, hservices, mapError_ok]
  exact mapError_eq_ok_iff.2 hfiles

/-- Every reachable database is rendered by every backend, whatever its names and events are: no
step dangles, and no file is refused. Each environment has a file, in order of creation, and a
shared file comes last. -/
theorem reachable_databases_render {db : Database} (h : db.Reachable) (settings : Settings) :
    ∃ files, generate settings db = .ok files ∧
      files.length = db.environments.length + 1 ∧
      files.map (·.service) = db.environments.map (some ·.id) ++ [none] := by
  obtain ⟨services, hservices, henvironments⟩ := h.consistent.services
  obtain ⟨files, hfiles, howners⟩ :=
    settings.codegen.backend.generateChecked_ok services
  have hgenerate : generate settings db = .ok files := generate_eq_ok hservices hfiles
  have hids : files.map (·.service) = db.environments.map (some ·.id) ++ [none] := by
    rw [howners, ← henvironments, List.map_map]
    rfl
  refine ⟨files, hgenerate, ?_, hids⟩
  have hlength := congrArg List.length hids
  simpa using hlength

/-- Names that agree, that are keywords or taken, or that hold no letters; events with quotes and
control characters. -/
def sampleContents : Contents where
  environments :=
    [⟨⟨"a"⟩, "type"⟩, ⟨⟨"b"⟩, "Type"⟩, ⟨⟨"c"⟩, "lib"⟩, ⟨⟨"d"⟩, "index"⟩, ⟨⟨"e"⟩, "?!"⟩, ⟨⟨"f"⟩, ""⟩]
  diagrams :=
    [⟨⟨"diagram-1"⟩, "", .ofList [⟨"a"⟩, ⟨"e"⟩],
      [⟨⟨"a"⟩, ⟨"e"⟩, "\"\\\n"⟩, ⟨⟨"e"⟩, ⟨"a"⟩, "\x00"⟩, ⟨⟨"a"⟩, ⟨"e"⟩, ""⟩]⟩]

theorem reachable_databases_render_sample :
    Database.ofContents sampleContents = .ok sampleContents.database ∧
      ∀ settings, ∃ files, generate settings sampleContents.database = .ok files ∧
        files.length = 7 ∧
        files.map (·.service) = [some ⟨"a"⟩, some ⟨"b"⟩, some ⟨"c"⟩, some ⟨"d"⟩, some ⟨"e"⟩,
          some ⟨"f"⟩, none] := by
  have hload : Database.ofContents sampleContents = .ok sampleContents.database := by decide
  exact ⟨hload, reachable_databases_render (Database.IsStart.of_ofContents hload).reachable⟩

end Compile

end Choreography
