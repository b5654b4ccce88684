import Choreography.Proofs.Consistency
import Choreography.Proofs.Except
import Choreography.Proofs.Numbering

/-!
# What loading accepts, and what it refuses

The rules that listed contents have to keep, and the error that names the first broken one, are
written down here without the passes that look for it.

- `Contents.Valid`: identifiers do not repeat, and every diagram is sound for the listed
  environments.
- `Contents.Breaks c e`: `e` names the first rule that the contents break. A repeated environment
  comes before a repeated diagram, and both come before references; among these the first diagram
  counts (`Diagram.Breaks`), with its attached environments before its steps, and the first step
  (`Step.Breaks`).
- `Identifier.IsHighest`: what a counter is set to.
- `loading_decided`: `Database.ofContents` accepts the valid contents, as they are listed, and
  answers with the error of the first broken rule otherwise.
-/

namespace Choreography

/-! ## The first member of its kind -/

/-- The first member that an earlier one equals: those before it are all different. -/
def FirstRepeat {α : Type} (l : List α) (a : α) : Prop :=
  ∃ before after, l = before ++ a :: after ∧ before.Nodup ∧ a ∈ before

theorem firstRepeat?_eq_some_iff {α : Type} [DecidableEq α] {seen l : List α} {a : α} :
    firstRepeat? seen l = some a ↔
      ∃ before after, l = before ++ a :: after ∧ before.Nodup ∧ (∀ b ∈ before, b ∉ seen) ∧
        (a ∈ seen ∨ a ∈ before) := by
  induction l generalizing seen with
  | nil => simp [firstRepeat?]
  | cons x l ih =>
    unfold firstRepeat?
    -- a head that has been seen is the answer; any other goes over from `before` to `seen`
    by_cases hx : x ∈ seen
    · rw [if_pos hx, Option.some.injEq]
      constructor
      · rintro rfl
        exact ⟨[], l, rfl, List.nodup_nil, fun _ hb => absurd hb List.not_mem_nil, .inl hx⟩
      · rintro ⟨before, after, hl, -, hnew, -⟩
        cases before with
        | nil => exact (List.cons.inj hl).1
        | cons b before =>
          obtain ⟨rfl, -⟩ := List.cons.inj hl
          exact absurd hx (hnew x List.mem_cons_self)
    · rw [if_neg hx, ih]
      constructor
      · rintro ⟨before, after, rfl, hnodup, hnew, ha⟩
        have hxbefore : x ∉ before := fun hb => hnew x hb List.mem_cons_self
        refine ⟨x :: before, after, rfl, List.nodup_cons.2 ⟨hxbefore, hnodup⟩, ?_, ?_⟩
        · refine List.forall_mem_cons.2 ⟨hx, fun b hb => ?_⟩
          exact (not_or.1 (List.mem_cons.not.1 (hnew b hb))).2
        · rcases ha with ha | ha
          · rcases List.mem_cons.1 ha with rfl | ha
            · exact .inr List.mem_cons_self
            · exact .inl ha
          · exact .inr (List.mem_cons_of_mem x ha)
      · rintro ⟨before, after, hl, hnodup, hnew, ha⟩
        cases before with
        | nil =>
          obtain ⟨rfl, -⟩ := List.cons.inj hl
          exact absurd ha (by simp [hx])
        | cons b before =>
          obtain ⟨rfl, rfl⟩ := List.cons.inj hl
          obtain ⟨hbefore, hnodup⟩ := List.nodup_cons.1 hnodup
          refine ⟨before, after, rfl, hnodup, fun b hb => ?_, ?_⟩
          · rw [List.mem_cons, not_or]
            exact ⟨fun h => hbefore (h ▸ hb), hnew b (List.mem_cons_of_mem x hb)⟩
          · simpa [or_assoc, or_left_comm] using ha

theorem firstRepeat?_nil_eq_some_iff {α : Type} [DecidableEq α] {l : List α} {a : α} :
    firstRepeat? [] l = some a ↔ FirstRepeat l a := by
  simp [firstRepeat?_eq_some_iff, FirstRepeat]

/-! ## Broken rules -/

/-- The ends of a step differ, and both are known. -/
def Step.Sound (known : EnvironmentId → Prop) (s : Step) : Prop :=
  s.sender ≠ s.receiver ∧ known s.sender ∧ known s.receiver

/-- The error names the first rule that a step breaks. -/
inductive Step.Breaks (known : EnvironmentId → Prop) (s : Step) : ModelError → Prop where
  | selfLoop (same : s.sender = s.receiver) : Breaks known s (.selfLoop s.sender)
  | sender (differ : s.sender ≠ s.receiver) (unknown : ¬ known s.sender) :
    Breaks known s (.unknownEndpoint s.sender)
  | receiver (differ : s.sender ≠ s.receiver) (sender : known s.sender)
      (unknown : ¬ known s.receiver) : Breaks known s (.unknownEndpoint s.receiver)

/-- The error names the first rule that a diagram breaks: its attached environments are looked at
before its steps. -/
inductive Diagram.Breaks (known : EnvironmentId → Prop) (d : Diagram) : ModelError → Prop where
  | attached {before after : List EnvironmentId} {id : EnvironmentId}
      (place : d.environments.toList = before ++ id :: after) (earlier : ∀ x ∈ before, known x)
      (unknown : ¬ known id) : Breaks known d (.environmentNotFound id)
  | step {before after : List Step} {s : Step} {e : ModelError}
      (attached : ∀ id ∈ d.environments, known id) (place : d.steps = before ++ s :: after)
      (earlier : ∀ x ∈ before, x.Sound known) (broken : s.Breaks known e) : Breaks known d e

namespace Contents

variable {c : Contents} {e : ModelError}

/-- An environment with this identifier is listed. -/
def Knows (c : Contents) (id : EnvironmentId) : Prop :=
  id ∈ c.environments.map (·.id)

/-- The contents keep the rules. -/
structure Valid (c : Contents) : Prop where
  environments_nodup : (c.environments.map (·.id)).Nodup
  diagrams_nodup : (c.diagrams.map (·.id)).Nodup
  sound : ∀ d ∈ c.diagrams, d.Sound c.Knows

/-- The error names the first rule that the contents break. -/
inductive Breaks (c : Contents) : ModelError → Prop where
  | environment {id : EnvironmentId} (repeated : FirstRepeat (c.environments.map (·.id)) id) :
    Breaks c (.duplicateEnvironment id)
  | diagram {id : DiagramId} (environments : (c.environments.map (·.id)).Nodup)
      (repeated : FirstRepeat (c.diagrams.map (·.id)) id) : Breaks c (.duplicateDiagram id)
  | reference {before after : List Diagram} {d : Diagram} {e : ModelError}
      (environments : (c.environments.map (·.id)).Nodup)
      (diagrams : (c.diagrams.map (·.id)).Nodup) (place : c.diagrams = before ++ d :: after)
      (earlier : ∀ x ∈ before, x.Sound c.Knows) (broken : d.Breaks c.Knows e) : Breaks c e

end Contents

/-! ## They are found -/

namespace Database

variable {db : Database} {known : EnvironmentId → Prop} {e : ModelError}

theorem endpointViolation?_eq_some_iff (hknown : ∀ id, db.hasEnvironment id = true ↔ known id)
    {s : Step} : db.endpointViolation? s.sender s.receiver = some e ↔ s.Breaks known e := by
  unfold endpointViolation?
  constructor
  · intro h
    split at h
    · next same =>
      cases h
      exact .selfLoop same
    next differ =>
    split at h
    · next unknown =>
      cases h
      exact .sender differ fun hs => by simp [(hknown _).2 hs] at unknown
    next hsender =>
    split at h
    · next unknown =>
      cases h
      refine .receiver differ ((hknown _).1 (by simpa using hsender)) fun hr => ?_
      simp [(hknown _).2 hr] at unknown
    · cases h
  · intro h
    cases h with
    | selfLoop same => rw [if_pos same]
    | sender differ unknown =>
      have hsender : db.hasEnvironment s.sender = false := by simpa [← hknown] using unknown
      simp [differ, hsender]
    | receiver differ sender unknown =>
      have hreceiver : db.hasEnvironment s.receiver = false := by simpa [← hknown] using unknown
      simp [differ, (hknown _).2 sender, hreceiver]

theorem diagramViolation?_eq_some_iff (hknown : ∀ id, db.hasEnvironment id = true ↔ known id)
    {d : Diagram} : db.diagramViolation? d = some e ↔ d.Breaks known e := by
  have hstep : ∀ s : Step, db.endpointViolation? s.sender s.receiver = none ↔ s.Sound known := by
    intro s
    rw [endpointViolation?_eq_none_iff, hknown, hknown, Step.Sound]
  have hunknown : ∀ id, (!db.hasEnvironment id) = true ↔ ¬ known id := by
    intro id
    rw [← hknown, Bool.not_eq_true', Bool.not_eq_true]
  unfold diagramViolation?
  -- attached environments come before steps, and each search splits its list at the first offender
  constructor
  · intro h
    split at h
    · next id hfind =>
      cases h
      obtain ⟨hid, before, after, hplace, hearlier⟩ := List.find?_eq_some_iff_append.1 hfind
      exact .attached hplace (fun x hx => (hknown x).1 (by simpa using hearlier x hx))
        ((hunknown id).1 hid)
    · next hfind =>
      obtain ⟨before, s, after, hplace, hs, hearlier⟩ := List.findSome?_eq_some_iff.1 h
      refine .step (fun id hid => ?_) hplace (fun x hx => (hstep x).1 (hearlier x hx))
        ((endpointViolation?_eq_some_iff hknown).1 hs)
      have hid := List.find?_eq_none.1 hfind id (OrderedSet.mem_toList.2 hid)
      exact not_not.1 fun hnot => hid ((hunknown id).2 hnot)
  · intro h
    cases h with
    | @attached before after id place earlier unknown =>
      have hfind : d.environments.toList.find? (!db.hasEnvironment ·) = some id := by
        refine List.find?_eq_some_iff_append.2
          ⟨(hunknown id).2 unknown, before, after, place, fun x hx => ?_⟩
        simp [(hknown x).2 (earlier x hx)]
      rw [hfind]
    | @step before after s _ attached place earlier broken =>
      have hfind : d.environments.toList.find? (!db.hasEnvironment ·) = none :=
        List.find?_eq_none.2 fun id hid hnot =>
          (hunknown id).1 hnot (attached id (OrderedSet.mem_toList.1 hid))
      rw [hfind]
      exact List.findSome?_eq_some_iff.2 ⟨before, s, after, place,
        (endpointViolation?_eq_some_iff hknown).2 broken,
        fun x hx => (hstep x).2 (earlier x hx)⟩

end Database

namespace Contents

variable {c : Contents} {e : ModelError}

theorem hasEnvironment_database (c : Contents) (id : EnvironmentId) :
    c.database.hasEnvironment id = true ↔ c.Knows id :=
  Database.hasEnvironment_iff

theorem sound_iff (c : Contents) (d : Diagram) :
    d.Sound (c.database.hasEnvironment ·) ↔ d.Sound c.Knows :=
  ⟨fun h => h.mono fun id => (c.hasEnvironment_database id).1,
    fun h => h.mono fun id => (c.hasEnvironment_database id).2⟩

theorem valid_iff : c.Valid ↔ c.database.Consistent :=
  ⟨fun h => ⟨h.environments_nodup, h.diagrams_nodup, fun d hd => (c.sound_iff d).2 (h.sound d hd)⟩,
    fun h => ⟨h.environments_nodup, h.diagrams_nodup, fun d hd => (c.sound_iff d).1 (h.sound d hd)⟩⟩

theorem violation?_eq_some_iff : c.database.violation? = some e ↔
    ∃ before d after, c.diagrams = before ++ d :: after ∧ d.Breaks c.Knows e ∧
      ∀ x ∈ before, x.Sound c.Knows := by
  rw [Database.violation?, List.findSome?_eq_some_iff]
  simp only [Database.diagramViolation?_eq_some_iff c.hasEnvironment_database,
    Database.diagramViolation?_eq_none_iff, sound_iff]
  rfl

end Contents

/-! ## Counters -/

namespace Identifier

variable {kind : Kind} {ids : List (Identifier kind)} {n : Nat}

/-- The highest number that the identifiers carry, zero if none carries one. -/
structure IsHighest (ids : List (Identifier kind)) (n : Nat) : Prop where
  bound : ∀ id ∈ ids, ∀ m, id.number? = some m → m ≤ n
  carried : (∃ id ∈ ids, id.number? = some n) ∨ (∀ id ∈ ids, id.number? = none) ∧ n = 0

theorem foldl_max_mem (ns : List Nat) (m : Nat) : ns.foldl max m = m ∨ ns.foldl max m ∈ ns := by
  induction ns generalizing m with
  | nil => exact .inl rfl
  | cons k ns ih =>
    rcases ih (max m k) with h | h
    · rw [List.foldl_cons, h]
      rcases Nat.le_total m k with hle | hle
      · rw [Nat.max_eq_right hle]
        exact .inr List.mem_cons_self
      · exact .inl (Nat.max_eq_left hle)
    · exact .inr (List.mem_cons_of_mem k h)

theorem isHighest_highestNumber (ids : List (Identifier kind)) :
    IsHighest ids (highestNumber ids) where
  bound _ hid _ hm := number?_le_highestNumber hid hm
  carried := by
    by_cases hnone : ∀ id ∈ ids, id.number? = none
    · refine .inr ⟨hnone, ?_⟩
      rw [highestNumber, List.filterMap_eq_nil_iff.2 hnone]
      rfl
    · obtain ⟨id, hid, m, hm⟩ : ∃ id ∈ ids, ∃ m, id.number? = some m := by
        simpa [Option.ne_none_iff_exists'] using hnone
      rcases foldl_max_mem (ids.filterMap (·.number?)) 0 with h | h
      · -- then all numbers are zero, and one of them is the highest
        have hzero : highestNumber ids = 0 := h
        have hle := number?_le_highestNumber hid hm
        obtain rfl : m = 0 := by omega
        exact .inl ⟨id, hid, by rw [hzero, hm]⟩
      · obtain ⟨id, hid, hn⟩ := List.mem_filterMap.1 h
        exact .inl ⟨id, hid, hn⟩

theorem isHighest_iff : IsHighest ids n ↔ highestNumber ids = n := by
  constructor
  · intro h
    have hown := isHighest_highestNumber ids
    rcases h.carried with ⟨id, hid, hn⟩ | ⟨hnone, rfl⟩
    · have hle := hown.bound id hid n hn
      rcases hown.carried with ⟨id', hid', hn'⟩ | ⟨hnone, -⟩
      · exact Nat.le_antisymm (h.bound id' hid' _ hn') hle
      · rw [hnone id hid] at hn
        cases hn
    · rcases hown.carried with ⟨id', hid', hn'⟩ | ⟨-, hzero⟩
      · rw [hnone id' hid'] at hn'
        cases hn'
      · exact hzero
  · rintro rfl
    exact isHighest_highestNumber ids

end Identifier

/-! ## Loading -/

namespace Database

open Identifier

variable {c : Contents} {db : Database} {e : ModelError}

theorem ofContents_eq (c : Contents) : ofContents c =
    match firstRepeat? [] (c.environments.map (·.id)) with
    | some id => .error (.duplicateEnvironment id)
    | none =>
      match firstRepeat? [] (c.diagrams.map (·.id)) with
      | some id => .error (.duplicateDiagram id)
      | none =>
        match c.database.violation? with
        | some violation => .error violation
        | none => .ok c.database := by
  unfold ofContents validate
  cases henvironments : firstRepeat? [] (c.environments.map (·.id)) with
  | some id =>
    simp only [henvironments, throw_bind]
    rfl
  | none =>
    cases hdiagrams : firstRepeat? [] (c.diagrams.map (·.id)) with
    | some id =>
      simp only [henvironments, hdiagrams, throw_bind]
      rfl
    | none =>
      cases hviolation : c.database.violation? with
      | some violation | none =>
        rw [Contents.database] at hviolation
        simp only [henvironments, hdiagrams, hviolation]
        rfl

theorem ofContents_of_breaks (h : c.Breaks e) : ofContents c = .error e := by
  rw [ofContents_eq]
  cases h with
  | environment repeated => rw [firstRepeat?_nil_eq_some_iff.2 repeated]
  | diagram environments repeated =>
    rw [firstRepeat?_nil_eq_none_iff.2 environments, firstRepeat?_nil_eq_some_iff.2 repeated]
  | reference environments diagrams place earlier broken =>
    rw [firstRepeat?_nil_eq_none_iff.2 environments, firstRepeat?_nil_eq_none_iff.2 diagrams,
      Contents.violation?_eq_some_iff.2 ⟨_, _, _, place, broken, earlier⟩]

theorem breaks_of_ofContents (h : ofContents c = .error e) : c.Breaks e := by
  -- each branch keeps what the checks in front of it have found
  rw [ofContents_eq] at h
  split at h
  · next id repeated =>
    cases h
    exact .environment (firstRepeat?_nil_eq_some_iff.1 repeated)
  next environments =>
  split at h
  · next id repeated =>
    cases h
    exact .diagram (firstRepeat?_nil_eq_none_iff.1 environments)
      (firstRepeat?_nil_eq_some_iff.1 repeated)
  next diagrams =>
  split at h
  · next violation hviolation =>
    cases h
    obtain ⟨before, d, after, place, broken, earlier⟩ :=
      Contents.violation?_eq_some_iff.1 hviolation
    exact .reference (firstRepeat?_nil_eq_none_iff.1 environments)
      (firstRepeat?_nil_eq_none_iff.1 diagrams) place earlier broken
  · cases h

/-- Contents are loaded exactly if they are valid. The database then lists them in their order, and
its counters are the highest numbers in use. Contents that are not valid are refused with the error
of the first rule that they break. -/
theorem loading_decided (c : Contents) :
    ((∃ db, ofContents c = .ok db) ↔ c.Valid) ∧
      (∀ db, ofContents c = .ok db ↔ c.Valid ∧ db.environments = c.environments ∧
        db.diagrams = c.diagrams ∧ IsHighest (c.environments.map (·.id)) db.lastEnvironment ∧
        IsHighest (c.diagrams.map (·.id)) db.lastDiagram) ∧
      ∀ e, ofContents c = .error e ↔ c.Breaks e := by
  refine ⟨?_, fun db => ?_, fun e => ⟨breaks_of_ofContents, ofContents_of_breaks⟩⟩
  · simp only [ofContents_eq_ok_iff, Contents.valid_iff]
    exact ⟨fun ⟨_, h, _⟩ => h, fun h => ⟨_, h, rfl⟩⟩
  -- a database is its two lists and its two counters
  · rw [ofContents_eq_ok_iff, Contents.valid_iff, isHighest_iff, isHighest_iff]
    refine and_congr_right fun _ => ?_
    constructor
    · rintro rfl
      exact ⟨rfl, rfl, rfl, rfl⟩
    · rintro ⟨henvironments, hdiagrams, hlastEnvironment, hlastDiagram⟩
      cases db
      subst henvironments hdiagrams hlastEnvironment hlastDiagram
      rfl

/-- A step that leads from an unknown environment to itself is refused as a loop. -/
example : ofContents ⟨[], [⟨⟨"dia-1"⟩, "Sale", ∅, [⟨⟨"env-1"⟩, ⟨"env-1"⟩, "paid"⟩]⟩]⟩ =
    .error (.selfLoop ⟨"env-1"⟩) := by decide

end Database

end Choreography
