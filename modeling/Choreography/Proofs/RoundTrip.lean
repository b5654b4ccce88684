import Choreography.Proofs.Invariant
import Choreography.Proofs.Json.Values
import Choreography.Snapshot

/-!
# Saved databases load again

- `parseContents_print`: a printed text is read as what was printed.
- `parse_print`: the rules of the model admit it, as every state of a run keeps them. Only the
  counters can change: they are set to the highest numbers in use.
- `saved_databases_load`: both together, for reachable databases and for loaded ones.
-/

namespace Choreography

namespace Snapshot

open Json

/-! ## Single values -/

theorem spells_text (s : String) : Spells readText (printText s) s :=
  spells_string "a string" s

theorem spells_identifier {kind : Kind} (id : Identifier kind) :
    Spells readIdentifier (printText id.text) id :=
  (spells_text id.text).map Identifier.mk

theorem spells_attached (depth : Nat) (ids : OrderedSet EnvironmentId) :
    Spells readAttached (printList depth (ids.toList.map (printText ·.text))) ids := by
  have h := spells_list "a set" depth ids.toList fun id _ => spells_identifier id
  have := h.map OrderedSet.ofList
  rwa [OrderedSet.ofList_toList] at this

/-- A field reads what its value reads, and puts it into the record. -/
theorem spells_field {α β : Type} {key : String} {required : Bool} {read : Reader β}
    {put : α → β → α} {text : List Char} {b : β} (h : Spells read text b) (a : α) :
    Spells ((field key required read put).read a) text (put a b) :=
  h.map (put a)

/-! ## Records -/

theorem spells_environment (depth : Nat) (e : Environment) :
    Spells environmentShape.read (printEnvironment depth e) e := by
  refine Shape.spells_record (.member rfl (by decide) (spells_field (spells_identifier e.id) _) ?_)
  refine .member rfl (by decide) (spells_field (spells_text e.name) _) (.done ?_)
  decide

theorem spells_step (depth : Nat) (s : Step) : Spells stepShape.read (printStep depth s) s := by
  refine Shape.spells_record (.member rfl (by decide) (spells_field (spells_identifier s.sender) _)
    ?_)
  refine .member rfl (by decide) (spells_field (spells_identifier s.receiver) _) ?_
  refine .member rfl (by decide) (spells_field (spells_text s.event) _) (.done ?_)
  decide

theorem spells_diagram (depth : Nat) (d : Diagram) :
    Spells diagramShape.read (printDiagram depth d) d := by
  have hsteps := spells_list "a sequence" (depth + 1) d.steps
    fun s _ => spells_step (depth + 2) s
  refine Shape.spells_record (.member rfl (by decide) (spells_field (spells_identifier d.id) _) ?_)
  refine .member rfl (by decide) (spells_field (spells_text d.title) _) ?_
  refine .member rfl (by decide) (spells_field (spells_attached (depth + 1) d.environments) _) ?_
  refine .member rfl (by decide) (spells_field hsteps _) (.done ?_)
  decide

theorem spells_contents (c : Contents) : Spells contentsShape.read (printContents c) c := by
  have henvironments := spells_list "a sequence" 1 c.environments
    fun e _ => spells_environment 2 e
  have hdiagrams := spells_list "a sequence" 1 c.diagrams
    fun d _ => spells_diagram 2 d
  refine Shape.spells_record (.member rfl (by decide) (spells_field henvironments _) ?_)
  refine .member rfl (by decide) (spells_field hdiagrams _) (.done ?_)
  decide

/-! ## Whole texts -/

theorem parseContents_print (db : Database) : parseContents (print db) = .ok db.contents := by
  have hread := (spells_contents db.contents).reads_append ['\n']
  have hend : readEnd ['\n'] = .ok () := rfl
  simp [parseContents, print, decode, hread, hend, bind, Except.bind, pure, Except.pure]

theorem parse_eq_ok_iff {source : String} {db : Database} :
    parse source = .ok db ↔ ∃ c, parseContents source = .ok c ∧ Database.ofContents c = .ok db := by
  unfold parse
  cases parseContents source with
  | error f => simp
  | ok c => cases h : Database.ofContents c <;> simp [h]

/-- The text of a database that keeps the rules is read as its environments and diagrams, with the
counters of a loaded one. -/
theorem parse_print {db : Database} (h : db.Consistent) :
    parse (print db) = .ok db.contents.database :=
  parse_eq_ok_iff.2 ⟨db.contents, parseContents_print db, h.ofContents_contents⟩

/-- Every reachable database is loaded again from the text that it is saved as: the same
environments and diagrams, with everything in the same order. One that comes from a text itself
is loaded with the same counters, so its saved text is never saved as another one. -/
theorem saved_databases_load :
    (∀ db : Database, db.Reachable →
      ∃ loaded, parse (print db) = .ok loaded ∧ loaded.SameModel db) ∧
    ∀ source db, parse source = .ok db →
      ∃ loaded, parse (print db) = .ok loaded ∧ loaded.SameModel db ∧
        loaded.lastEnvironment = db.lastEnvironment ∧ loaded.lastDiagram = db.lastDiagram ∧
        print loaded = print db := by
  refine ⟨fun db hdb => ⟨_, parse_print hdb.consistent, rfl⟩, ?_⟩
  intro source db hdb
  obtain ⟨c, -, hc⟩ := parse_eq_ok_iff.1 hdb
  obtain ⟨h, rfl⟩ := Database.ofContents_eq_ok_iff.1 hc
  exact ⟨_, parse_print h, rfl, rfl, rfl, rfl⟩

/-- A text with the fields in another order, an escaped letter and an odd identifier. -/
def sampleSource : String :=
  "\x7b\"diagrams\": [], " ++
    "\"environments\": [\x7b\"name\": \"Caf\\u00e9\", \"id\": \"env-07\"\x7d]\x7d"

/-- What the text holds. -/
def sampleLoaded : Database :=
  { environments := [⟨⟨"env-07"⟩, "Café"⟩], lastEnvironment := 7 }

theorem saved_databases_load_sample :
    (∃ loaded, parse (print (Database.sampleContents.database.run Database.sampleOperations)) =
      .ok loaded ∧
      loaded.SameModel (Database.sampleContents.database.run Database.sampleOperations)) ∧
    ∃ loaded, parse (print sampleLoaded) = .ok loaded ∧ loaded.SameModel sampleLoaded ∧
      loaded.lastEnvironment = 7 ∧ loaded.lastDiagram = 0 ∧ print loaded = print sampleLoaded :=
  ⟨saved_databases_load.1 _ ⟨_, Database.isStart_sampleContents, Database.sampleOperations, rfl⟩,
    saved_databases_load.2 sampleSource sampleLoaded (by decide)⟩

end Snapshot

end Choreography
