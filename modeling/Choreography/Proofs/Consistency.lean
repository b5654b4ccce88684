import Choreography.Proofs.Operations
import Mathlib.Data.List.InsertIdx
import Mathlib.Data.List.Nodup

/-!
# Consistent databases

- `Diagram.Sound known`: the diagram refers to known environments only, and none of its steps
  connects an environment to itself. One lemma for each operation on a diagram.
- `Database.Consistent`: identifiers do not repeat, and every diagram is sound for the environments
  of the database. A consistent database is what `Database.validate` and `Database.ofContents`
  accept (`validate_eq_ok_iff`, `ofContents_eq_ok_iff`).
-/

namespace Choreography

/-! ## Diagrams -/

/-- The references of a diagram are known, and no step connects an environment to itself. -/
structure Diagram.Sound (known : EnvironmentId → Prop) (d : Diagram) : Prop where
  attached : ∀ id ∈ d.environments, known id
  steps : ∀ s ∈ d.steps, s.sender ≠ s.receiver ∧ known s.sender ∧ known s.receiver

namespace Diagram.Sound

variable {known : EnvironmentId → Prop} {d : Diagram}

theorem mono {known' : EnvironmentId → Prop} (h : d.Sound known)
    (hk : ∀ id, known id → known' id) : d.Sound known' where
  attached id hid := hk id (h.attached id hid)
  steps s hs := by
    obtain ⟨hne, hsender, hreceiver⟩ := h.steps s hs
    exact ⟨hne, hk _ hsender, hk _ hreceiver⟩

/-- Only the references count, not the identifier and the title. -/
theorem congr {d' : Diagram} (h : d.Sound known) (he : d'.environments = d.environments)
    (hs : d'.steps = d.steps) : d'.Sound known where
  attached := he ▸ h.attached
  steps := hs ▸ h.steps

theorem blank (id : DiagramId) (title : String) : Diagram.Sound known { id, title } where
  attached id hid := absurd hid (OrderedSet.not_mem_empty id)
  steps _ hs := nomatch hs

theorem attach {id : EnvironmentId} (h : d.Sound known) (hid : known id) :
    (d.attach id).Sound known where
  attached x hx := by
    rcases OrderedSet.mem_insert.1 hx with hx | rfl
    · exact h.attached x hx
    · exact hid
  steps := h.steps

theorem insertStep {s : Step} (h : d.Sound known) (index : Nat) (hne : s.sender ≠ s.receiver)
    (hsender : known s.sender) (hreceiver : known s.receiver) :
    (d.insertStep index s).Sound known where
  attached := ((h.attach hsender).attach hreceiver).attached
  steps x hx := by
    rcases List.eq_or_mem_of_mem_insertIdx hx with rfl | hx
    · exact ⟨hne, hsender, hreceiver⟩
    · exact h.steps x hx

/-- A step with another event has the same ends. -/
theorem mem_setEvent {index : Nat} {event : String} {s : Step}
    (hs : s ∈ (d.setEvent index event).steps) :
    ∃ old ∈ d.steps, old.sender = s.sender ∧ old.receiver = s.receiver := by
  obtain ⟨i, hi, rfl⟩ := List.mem_iff_getElem.1 hs
  have hlt : i < d.steps.length := by simpa [Diagram.setEvent] using hi
  refine ⟨d.steps[i], List.getElem_mem hlt, ?_⟩
  simp only [Diagram.setEvent, List.getElem_modify]
  split <;> exact ⟨rfl, rfl⟩

theorem setEvent (h : d.Sound known) (index : Nat) (event : String) :
    (d.setEvent index event).Sound known where
  attached := h.attached
  steps s hs := by
    obtain ⟨old, hold, hsender, hreceiver⟩ := mem_setEvent hs
    rw [← hsender, ← hreceiver]
    exact h.steps old hold

theorem eraseStep (h : d.Sound known) (index : Nat) : (d.eraseStep index).Sound known where
  attached := h.attached
  steps s hs := h.steps s (List.mem_of_mem_eraseIdx hs)

/-- After a purge nothing refers to the environment any more. -/
theorem purge (h : d.Sound known) (id : EnvironmentId) :
    (d.purge id).Sound fun x => known x ∧ x ≠ id where
  attached x hx := by
    obtain ⟨hx, hne⟩ := OrderedSet.mem_erase.1 hx
    exact ⟨h.attached x hx, hne⟩
  steps s hs := by
    obtain ⟨hs, hinv⟩ := List.mem_filter.1 hs
    obtain ⟨hne, hsender, hreceiver⟩ := h.steps s hs
    simp only [Step.Involves, not_or, decide_eq_true_eq] at hinv
    exact ⟨hne, ⟨hsender, hinv.1⟩, hreceiver, hinv.2⟩

end Diagram.Sound

/-! ## Databases -/

/-- In a list whose keys do not repeat, a key finds the one member that has it. -/
theorem find?_key_eq_some_iff {α κ : Type} [DecidableEq κ] {key : α → κ} {l : List α}
    (h : (l.map key).Nodup) {k : κ} {a : α} : l.find? (key · = k) = some a ↔ a ∈ l ∧ key a = k := by
  constructor
  · intro hf
    exact ⟨List.mem_of_find?_eq_some hf, by simpa using List.find?_some hf⟩
  · rintro ⟨ha, rfl⟩
    cases hf : l.find? (key · = key a) with
    | none => exact absurd (List.find?_eq_none.1 hf a ha) (by simp)
    | some b =>
      have hkey : key b = key a := by simpa using List.find?_some hf
      rw [List.inj_on_of_nodup_map h (List.mem_of_find?_eq_some hf) ha hkey]

namespace Database

/-- The rules of the model. -/
structure Consistent (db : Database) : Prop where
  environments_nodup : (db.environments.map (·.id)).Nodup
  diagrams_nodup : (db.diagrams.map (·.id)).Nodup
  sound : ∀ d ∈ db.diagrams, d.Sound (db.hasEnvironment ·)

variable {db : Database}

theorem Consistent.environment?_eq_some_iff (h : db.Consistent) {id : EnvironmentId}
    {e : Environment} : db.environment? id = some e ↔ e ∈ db.environments ∧ e.id = id :=
  find?_key_eq_some_iff h.environments_nodup

theorem Consistent.diagram?_eq_some_iff (h : db.Consistent) {id : DiagramId} {d : Diagram} :
    db.diagram? id = some d ↔ d ∈ db.diagrams ∧ d.id = id :=
  find?_key_eq_some_iff h.diagrams_nodup

/-! ## Validation -/

theorem diagramViolation?_eq_none_iff {d : Diagram} :
    db.diagramViolation? d = none ↔ d.Sound (db.hasEnvironment ·) := by
  have hattached : d.environments.toList.find? (!db.hasEnvironment ·) = none ↔
      ∀ id ∈ d.environments, db.hasEnvironment id = true := by
    simp [List.find?_eq_none, OrderedSet.mem_toList]
  have hsteps : d.steps.findSome? (fun s => db.endpointViolation? s.sender s.receiver) = none ↔
      ∀ s ∈ d.steps, s.sender ≠ s.receiver ∧ db.hasEnvironment s.sender = true ∧
        db.hasEnvironment s.receiver = true := by
    simp only [List.findSome?_eq_none_iff, endpointViolation?_eq_none_iff]
  unfold diagramViolation?
  constructor
  · intro h
    split at h
    · cases h
    · next hnone => exact ⟨hattached.1 hnone, hsteps.1 h⟩
  · intro h
    rw [hattached.2 h.attached]
    exact hsteps.2 h.steps

theorem violation?_eq_none_iff :
    db.violation? = none ↔ ∀ d ∈ db.diagrams, d.Sound (db.hasEnvironment ·) := by
  simp only [violation?, List.findSome?_eq_none_iff, diagramViolation?_eq_none_iff]

/-- Validation accepts exactly the databases whose diagrams are sound. -/
theorem validate_eq_ok_iff :
    db.validate = .ok () ↔ ∀ d ∈ db.diagrams, d.Sound (db.hasEnvironment ·) := by
  rw [← violation?_eq_none_iff]
  cases h : db.violation? <;> simp [validate, h]

end Database

/-! ## Loading -/

theorem firstRepeat?_eq_none_iff {α : Type} [DecidableEq α] {seen l : List α} :
    firstRepeat? seen l = none ↔ l.Nodup ∧ ∀ a ∈ l, a ∉ seen := by
  induction l generalizing seen with
  | nil => simp [firstRepeat?]
  | cons a l ih =>
    unfold firstRepeat?
    by_cases ha : a ∈ seen
    · simp [ha]
    · rw [if_neg ha, ih, List.nodup_cons]
      simp only [List.mem_cons, not_or, forall_eq_or_imp]
      constructor
      · rintro ⟨hl, h⟩
        exact ⟨⟨fun hal => (h a hal).1 rfl, hl⟩, ha, fun x hx => (h x hx).2⟩
      · rintro ⟨⟨hal, hl⟩, -, h⟩
        refine ⟨hl, fun x hx => ⟨?_, h x hx⟩⟩
        rintro rfl
        exact hal hx

/-- The database that loading makes of listed contents, before it is checked. -/
def Contents.database (c : Contents) : Database where
  environments := c.environments
  diagrams := c.diagrams
  lastEnvironment := Identifier.highestNumber (c.environments.map (·.id))
  lastDiagram := Identifier.highestNumber (c.diagrams.map (·.id))

theorem firstRepeat?_nil_eq_none_iff {α : Type} [DecidableEq α] {l : List α} :
    firstRepeat? [] l = none ↔ l.Nodup := by
  simp [firstRepeat?_eq_none_iff]

/-- Loading accepts exactly the lists that make a consistent database, and sets each counter to
the highest number in use. -/
theorem Database.ofContents_eq_ok_iff {c : Contents} {db : Database} :
    ofContents c = .ok db ↔ c.database.Consistent ∧ c.database = db := by
  unfold ofContents
  constructor
  · intro h
    -- the three checks in turn; each one that passes is one part of consistency
    cases he : firstRepeat? [] (c.environments.map (·.id)) with
    | some id => simp [he, bind, Except.bind, throw, throwThe, MonadExceptOf.throw] at h
    | none =>
      cases hd : firstRepeat? [] (c.diagrams.map (·.id)) with
      | some id => simp [he, hd, bind, Except.bind, throw, throwThe, MonadExceptOf.throw] at h
      | none =>
        cases hv : c.database.validate with
        | error e =>
          rw [Contents.database] at hv
          simp [he, hd, hv, bind, Except.bind] at h
        | ok u =>
          have hsound := validate_eq_ok_iff.1 hv
          rw [Contents.database] at hv
          simp only [he, hd, hv, bind, Except.bind, pure, Except.pure, Except.ok.injEq] at h
          exact ⟨⟨firstRepeat?_nil_eq_none_iff.1 he, firstRepeat?_nil_eq_none_iff.1 hd, hsound⟩, h⟩
  · rintro ⟨h, rfl⟩
    have he := firstRepeat?_nil_eq_none_iff.2 h.environments_nodup
    have hd := firstRepeat?_nil_eq_none_iff.2 h.diagrams_nodup
    have hv := validate_eq_ok_iff.2 h.sound
    simp only [Contents.database] at he hd hv
    simp only [he, hd, hv, bind, Except.bind, pure, Except.pure, Contents.database]

/-- The contents of a consistent database load. -/
theorem Database.Consistent.ofContents_contents {db : Database} (h : db.Consistent) :
    ofContents db.contents = .ok db.contents.database :=
  ofContents_eq_ok_iff.2 ⟨⟨h.environments_nodup, h.diagrams_nodup, h.sound⟩, rfl⟩

end Choreography
