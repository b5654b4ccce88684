import Choreography.Proofs.Session.History
import Mathlib.Algebra.Ring.Parity
import Mathlib.Data.List.Induction

/-!
# Clicks pair up, diagram by diagram

All diagrams share one database, but their gestures do not get in each other's way: a click reads
and changes its own diagram and selection only, and of the environments it asks no more than which
there are.

- `Database.AgreeOn` and `Session.AgreeOn`: nothing that a click on the diagram reads is different.
- `AgreeOn.click` and `agreeOn_click_elsewhere`: one click, on the diagram and on another one. So
  the clicks on other diagrams can be left out (`agreeOn_clicked`).
- `selection_clicked`: with every second click a gesture is over.
- `clicks_pair_up`: both together, with what each click of a gesture does.
-/

namespace Choreography

namespace Database

variable {db db' db'' : Database} {diagram id : DiagramId} {sender receiver : EnvironmentId}
variable {index : Nat}

/-- The databases have the same environments, and the same diagram under this identifier. -/
structure AgreeOn (diagram : DiagramId) (db db' : Database) : Prop where
  found : db.diagram? diagram = db'.diagram? diagram
  known : ∀ id, db.hasEnvironment id = db'.hasEnvironment id

namespace AgreeOn

theorem refl (diagram : DiagramId) (db : Database) : AgreeOn diagram db db := ⟨rfl, fun _ => rfl⟩

theorem trans (h : AgreeOn diagram db db') (h' : AgreeOn diagram db' db'') :
    AgreeOn diagram db db'' :=
  ⟨h.found.trans h'.found, fun id => (h.known id).trans (h'.known id)⟩

theorem endpointViolation? (h : AgreeOn diagram db db') (sender receiver : EnvironmentId) :
    db.endpointViolation? sender receiver = db'.endpointViolation? sender receiver := by
  simp only [Database.endpointViolation?, h.known]

end AgreeOn

/-- Whether a step is added depends on its ends and on the length of the diagram. -/
theorem perform_addStep_found {d : Diagram} (found : db.diagram? id = some d) :
    db.perform (.addStep id sender receiver index) =
      match db.endpointViolation? sender receiver with
      | some e => (.error e, db)
      | none =>
        if index ≤ d.steps.length then
          (.ok .applied, db.updateDiagram id (·.insertStep index ⟨sender, receiver, ""⟩))
        else (.error (.insertOutOfRange id index d.steps.length), db) := by
  rw [perform]
  cases he : db.endpointViolation? sender receiver with
  | some e =>
    rw [addStep_violation id index he]
    rfl
  | none =>
    by_cases hi : index ≤ d.steps.length
    · rw [addStep_allowed found he hi]
      simp only [if_pos hi]
      rfl
    · rw [addStep_outside found he (by omega)]
      simp only [if_neg hi]
      rfl

theorem diagram?_insertStep (db : Database) (id diagram : DiagramId) (index : Nat) (s : Step) :
    (db.updateDiagram id (·.insertStep index s)).diagram? diagram =
      (db.diagram? diagram).map fun d => if diagram = id then d.insertStep index s else d :=
  diagram?_updateDiagram (f := (·.insertStep index s)) id (fun _ => rfl) diagram

/-- A step that is added to another diagram is not noticed. -/
theorem Transition.agreeOn_addStep {answer : Answer}
    (ht : Transition db (.addStep id sender receiver index) answer db') (h : diagram ≠ id) :
    AgreeOn diagram db' db := by
  cases ht with
  | refused => exact .refl diagram db
  | stepAdded =>
    refine ⟨?_, fun _ => rfl⟩
    rw [diagram?_insertStep]
    simp [h]

/-- Adding a step takes no diagram away. -/
theorem Transition.isSome_diagram?_addStep {answer : Answer}
    (ht : Transition db (.addStep id sender receiver index) answer db') (diagram : DiagramId) :
    (db'.diagram? diagram).isSome = (db.diagram? diagram).isSome := by
  cases ht with
  | refused => rfl
  | stepAdded => rw [diagram?_insertStep, Option.isSome_map]

/-- Adding a step to equal diagrams gives equal diagrams. -/
theorem AgreeOn.addStep {d : Diagram} (h : AgreeOn id db db') (found : db.diagram? id = some d)
    (sender receiver : EnvironmentId) (index : Nat) :
    AgreeOn id (db.perform (.addStep id sender receiver index)).2
      (db'.perform (.addStep id sender receiver index)).2 := by
  have found' : db'.diagram? id = some d := h.found ▸ found
  rw [perform_addStep_found found, perform_addStep_found found', h.endpointViolation?]
  cases db'.endpointViolation? sender receiver with
  | some e => exact h
  | none =>
    by_cases hi : index ≤ d.steps.length
    · simp only [if_pos hi]
      refine ⟨?_, h.known⟩
      rw [diagram?_insertStep, diagram?_insertStep, h.found]
    · simp only [if_neg hi]
      exact h

end Database

namespace Session

variable {s s' s'' : Session} {diagram x : DiagramId} {cell start : Cell}

/-- What a click does: its answer and the database after it, and the selection of its diagram. The
other selections stay as they are. -/
structure Leads (s : Session) (diagram : DiagramId) (cell : Cell) (result : Answer × Database)
    (selection : Selection) : Prop where
  answer : (s.perform (.click diagram cell)).1 = result.1
  database : (s.perform (.click diagram cell)).2.database = result.2
  selection : ∀ x, (s.perform (.click diagram cell)).2.selection x =
    if x = diagram then selection else s.selection x

section Leads

variable {d : Diagram}

theorem leads_of_eq {answer : Answer} {db : Database} {selection : Selection}
    (h : s.perform (.click diagram cell) =
      (answer, { s.setSelection diagram selection with database := db })) :
    s.Leads diagram cell (answer, db) selection where
  answer := by rw [h]
  database := by rw [h]
  selection x := by
    rw [h]
    exact selection_setSelection s diagram selection x

/-- The first click of a gesture is remembered. -/
theorem leads_first (cell : Cell) (found : s.database.diagram? diagram = some d)
    (idle : s.selection diagram = .idle) :
    s.Leads diagram cell (.ok .applied, s.database) (.origin cell) :=
  leads_of_eq (perform_click_first cell found idle)

/-- The second click of a gesture ends it. On the same cell it does nothing else, and on another one
it adds a step. -/
theorem leads_second (cell : Cell) (found : s.database.diagram? diagram = some d)
    (pending : s.selection diagram = .origin start) :
    s.Leads diagram cell
      (if start = cell then (.ok .applied, s.database)
        else s.database.perform (.addStep diagram start.environment cell.environment cell.row))
      .idle := by
  by_cases hcell : start = cell
  · subst hcell
    rw [if_pos rfl]
    exact leads_of_eq (perform_click_same found pending)
  · rw [if_neg hcell]
    exact leads_of_eq (perform_click_other found pending hcell)

end Leads

/-- A click changes the database by a step of its diagram, if at all. -/
theorem database_click (s : Session) (x : DiagramId) (cell : Cell) :
    (s.perform (.click x cell)).2.database = s.database ∨
      ∃ sender receiver index, (s.perform (.click x cell)).2.database =
        (s.database.perform (.addStep x sender receiver index)).2 := by
  cases hd : s.database.diagram? x with
  | none =>
    rw [perform_click_missing cell hd]
    exact .inl rfl
  | some d =>
    cases hs : s.selection x with
    | idle => exact .inl (leads_first cell hd hs).database
    | origin start =>
      have hdatabase := (leads_second cell hd hs).database
      split at hdatabase
      · exact .inl hdatabase
      · exact .inr ⟨_, _, _, hdatabase⟩

theorem selection_click_elsewhere (s : Session) (cell : Cell) (h : diagram ≠ x) :
    (s.perform (.click x cell)).2.selection diagram = s.selection diagram := by
  cases hd : s.database.diagram? x with
  | none => rw [perform_click_missing cell hd]
  | some d =>
    cases hs : s.selection x with
    | idle => rw [(leads_first cell hd hs).selection, if_neg h]
    | origin start => rw [(leads_second cell hd hs).selection, if_neg h]

theorem isSome_diagram?_click (s : Session) (x : DiagramId) (cell : Cell) (diagram : DiagramId) :
    ((s.perform (.click x cell)).2.database.diagram? diagram).isSome =
      (s.database.diagram? diagram).isSome := by
  rcases database_click s x cell with h | ⟨sender, receiver, index, h⟩
  · rw [h]
  · rw [h]
    exact (Database.transition_perform s.database
      (.addStep x sender receiver index)).isSome_diagram?_addStep diagram

/-! ## Two sessions -/

/-- Nothing that a click on the diagram reads is different. -/
structure AgreeOn (diagram : DiagramId) (s s' : Session) : Prop where
  selection : s.selection diagram = s'.selection diagram
  database : Database.AgreeOn diagram s.database s'.database

theorem AgreeOn.refl (diagram : DiagramId) (s : Session) : AgreeOn diagram s s :=
  ⟨rfl, .refl diagram _⟩

theorem AgreeOn.trans (h : AgreeOn diagram s s') (h' : AgreeOn diagram s' s'') :
    AgreeOn diagram s s'' :=
  ⟨h.selection.trans h'.selection, h.database.trans h'.database⟩

theorem Leads.agreeOn {r r' : Answer × Database} {selection : Selection}
    (h : s.Leads diagram cell r selection) (h' : s'.Leads diagram cell r' selection)
    (hdatabase : Database.AgreeOn diagram r.2 r'.2) :
    AgreeOn diagram (s.perform (.click diagram cell)).2 (s'.perform (.click diagram cell)).2 where
  selection := by rw [h.selection, h'.selection, if_pos rfl, if_pos rfl]
  database := by rwa [h.database, h'.database]

/-- A click on the diagram leaves no difference if there was none. -/
theorem AgreeOn.click (h : AgreeOn diagram s s') (cell : Cell) :
    AgreeOn diagram (s.perform (.click diagram cell)).2 (s'.perform (.click diagram cell)).2 := by
  have hfound := h.database.found
  have hselection := h.selection
  -- both sessions are in the same case, as they share the diagram and its selection
  cases hd : s.database.diagram? diagram with
  | none =>
    rw [perform_click_missing cell hd, perform_click_missing cell (hfound ▸ hd)]
    exact h
  | some d =>
    have hd' : s'.database.diagram? diagram = some d := hfound ▸ hd
    cases hs : s.selection diagram with
    | idle =>
      exact (leads_first cell hd hs).agreeOn (leads_first cell hd' (hselection ▸ hs)) h.database
    | origin start =>
      refine (leads_second cell hd hs).agreeOn (leads_second cell hd' (hselection ▸ hs)) ?_
      split
      · exact h.database
      · exact h.database.addStep hd _ _ _

/-- A click on another diagram leaves no difference. -/
theorem agreeOn_click_elsewhere (s : Session) (cell : Cell) (h : diagram ≠ x) :
    AgreeOn diagram (s.perform (.click x cell)).2 s where
  selection := selection_click_elsewhere s cell h
  database := by
    rcases database_click s x cell with hsame | ⟨sender, receiver, index, hadded⟩
    · rw [hsame]
      exact .refl diagram _
    · rw [hadded]
      exact (Database.transition_perform s.database
        (.addStep x sender receiver index)).agreeOn_addStep h

/-! ## Runs -/

/-- The session after some clicks, each with its diagram. -/
def clicked (s : Session) (clicks : List (DiagramId × Cell)) : Session :=
  s.run (clicks.map fun (diagram, cell) => .click diagram cell)

/-- The cells that are clicked on a diagram, in turn. -/
def clicksOn (diagram : DiagramId) (clicks : List (DiagramId × Cell)) : List Cell :=
  (clicks.filter (·.1 = diagram)).map (·.2)

variable {clicks : List (DiagramId × Cell)}

theorem clicked_cons (s : Session) (x : DiagramId) (cell : Cell)
    (clicks : List (DiagramId × Cell)) :
    s.clicked ((x, cell) :: clicks) = (s.perform (.click x cell)).2.clicked clicks := rfl

theorem clicked_concat (s : Session) (x : DiagramId) (cell : Cell)
    (clicks : List (DiagramId × Cell)) :
    s.clicked (clicks ++ [(x, cell)]) = ((s.clicked clicks).perform (.click x cell)).2 := by
  rw [clicked, List.map_append, run_append]
  rfl

theorem clicksOn_append (diagram : DiagramId) (clicks more : List (DiagramId × Cell)) :
    clicksOn diagram (clicks ++ more) = clicksOn diagram clicks ++ clicksOn diagram more := by
  rw [clicksOn, List.filter_append, List.map_append]
  rfl

theorem clicksOn_self (diagram : DiagramId) (cell : Cell) :
    clicksOn diagram [(diagram, cell)] = [cell] := by
  simp [clicksOn]

theorem clicksOn_of_ne (cell : Cell) (h : x ≠ diagram) : clicksOn diagram [(x, cell)] = [] := by
  simp [clicksOn, h]

/-- Of some clicks, those on the diagram alone would have done the same to it. -/
theorem AgreeOn.clicked (h : AgreeOn diagram s s') (clicks : List (DiagramId × Cell)) :
    AgreeOn diagram (s.clicked clicks)
      (s'.clicked ((clicksOn diagram clicks).map fun cell => (diagram, cell))) := by
  induction clicks generalizing s s' with
  | nil => exact h
  | cons click clicks ih =>
    obtain ⟨x, cell⟩ := click
    rw [← List.singleton_append, clicksOn_append, List.singleton_append, clicked_cons]
    by_cases hx : x = diagram
    · subst hx
      rw [clicksOn_self, List.singleton_append, List.map_cons, clicked_cons]
      exact ih (h.click cell)
    · rw [clicksOn_of_ne cell hx, List.nil_append]
      exact ih ((agreeOn_click_elsewhere s cell (Ne.symm hx)).trans h)

theorem isSome_diagram?_clicked (s : Session) (clicks : List (DiagramId × Cell))
    (diagram : DiagramId) :
    ((s.clicked clicks).database.diagram? diagram).isSome =
      (s.database.diagram? diagram).isSome := by
  induction clicks generalizing s with
  | nil => rfl
  | cons click clicks ih => rw [clicked_cons, ih, isSome_diagram?_click]

theorem exists_concat_of_odd {α : Type} {l : List α} (h : Odd l.length) :
    ∃ earlier last, l = earlier ++ [last] ∧ Even earlier.length := by
  induction l using List.reverseRecOn with
  | nil => simp at h
  | append_singleton earlier last =>
    rw [List.length_append, List.length_singleton, Nat.odd_add_one, Nat.not_odd_iff_even] at h
    exact ⟨earlier, last, rfl, h⟩

/-- On a diagram that was idle, an even number of clicks is a number of whole gestures. After an odd
number the last click waits for its second one. -/
theorem selection_clicked (idle : s.selection diagram = .idle)
    (there : ∀ click ∈ clicks, (s.database.diagram? click.1).isSome) :
    (Even (clicksOn diagram clicks).length → (s.clicked clicks).selection diagram = .idle) ∧
      ∀ earlier last, clicksOn diagram clicks = earlier ++ [last] → Even earlier.length →
        (s.clicked clicks).selection diagram = .origin last := by
  -- by the last click, which meets what the earlier ones have left
  induction clicks using List.reverseRecOn with
  | nil => exact ⟨fun _ => idle, fun earlier last h => by simp [clicksOn] at h⟩
  | append_singleton clicks click ih =>
    obtain ⟨x, cell⟩ := click
    obtain ⟨hbefore, hx⟩ := List.forall_mem_append.1 there
    obtain ⟨heven, hodd⟩ := ih hbefore
    rw [clicksOn_append, clicked_concat]
    -- a click on the diagram ends a gesture or begins one, by what the clicks before it have left
    by_cases hxd : x = diagram
    · subst hxd
      obtain ⟨d, hd⟩ : ∃ d, (s.clicked clicks).database.diagram? x = some d := by
        rw [← Option.isSome_iff_exists, isSome_diagram?_clicked]
        exact hx _ (List.mem_singleton_self _)
      rw [clicksOn_self]
      constructor
      · intro hlength
        rw [List.length_append, List.length_singleton, Nat.even_add_one, Nat.not_even_iff_odd]
          at hlength
        obtain ⟨earlier, start, hsplit, hearlier⟩ := exists_concat_of_odd hlength
        have hpending := hodd earlier start hsplit hearlier
        rw [(leads_second cell hd hpending).selection, if_pos rfl]
      · intro earlier last hsplit hearlier
        obtain ⟨rfl, hlast⟩ := List.append_inj' hsplit rfl
        obtain rfl : cell = last := by simpa using hlast
        rw [(leads_first cell hd (heven hearlier)).selection, if_pos rfl]
    · rw [clicksOn_of_ne cell hxd, List.append_nil,
        selection_click_elsewhere _ cell (Ne.symm hxd)]
      exact ⟨heven, hodd⟩

/-- The last click waits exactly if the number of clicks is odd. -/
theorem selection_clicked_eq_origin_iff (idle : s.selection diagram = .idle)
    (there : ∀ click ∈ clicks, (s.database.diagram? click.1).isSome) :
    (s.clicked clicks).selection diagram = .origin cell ↔
      Odd (clicksOn diagram clicks).length ∧ (clicksOn diagram clicks).getLast? = some cell := by
  obtain ⟨heven, hodd⟩ := selection_clicked idle there
  rcases Nat.even_or_odd (clicksOn diagram clicks).length with h | h
  · simp [heven h, Nat.not_odd_iff_even.2 h]
  · obtain ⟨earlier, last, hsplit, hearlier⟩ := exists_concat_of_odd h
    simp [hodd earlier last hsplit hearlier, hsplit, hearlier.add_one]

/-- Clicks on diagrams that were all idle, in any order:

- what comes out of a diagram and its selection depends on the clicks on this diagram alone;
- on each diagram, the first click and the second one make up a gesture, the third and the fourth
  one, and so on. The first click of a gesture is remembered. The second click ends the gesture: on
  the same cell it does nothing else, and on another cell it does and answers what adding the step
  to the database of that moment does and answers. If the step is refused, this is to do nothing;
- the last click on a diagram is pending exactly if their number is odd. -/
theorem clicks_pair_up (idle : ∀ diagram, s.selection diagram = .idle)
    (there : ∀ click ∈ clicks, (s.database.diagram? click.1).isSome) :
    (∀ diagram others, clicksOn diagram others = clicksOn diagram clicks →
      (s.clicked others).database.diagram? diagram = (s.clicked clicks).database.diagram? diagram ∧
        (s.clicked others).selection diagram = (s.clicked clicks).selection diagram) ∧
    (∀ before diagram cell after, clicks = before ++ (diagram, cell) :: after →
      let now := s.clicked before
      (Even (clicksOn diagram before).length →
        now.Leads diagram cell (.ok .applied, now.database) (.origin cell)) ∧
      ∀ earlier start, clicksOn diagram before = earlier ++ [start] → Even earlier.length →
        let drawn := now.database.perform
          (.addStep diagram start.environment cell.environment cell.row)
        now.Leads diagram cell (if start = cell then (.ok .applied, now.database) else drawn)
            .idle ∧
          ∀ e, drawn.1 = .error e → drawn.2 = now.database) ∧
    ∀ diagram cell, (s.clicked clicks).selection diagram = .origin cell ↔
      Odd (clicksOn diagram clicks).length ∧ (clicksOn diagram clicks).getLast? = some cell := by
  refine ⟨fun diagram others hothers => ?_, ?_, fun diagram cell =>
    selection_clicked_eq_origin_iff (idle diagram) there⟩
  · -- both are like the run of the clicks on the diagram alone
    have halone := (AgreeOn.refl diagram s).clicked clicks
    have hothers' := (AgreeOn.refl diagram s).clicked others
    rw [hothers] at hothers'
    exact ⟨hothers'.database.found.trans halone.database.found.symm,
      hothers'.selection.trans halone.selection.symm⟩
  -- the clicks in front of this one have left their last cell, or nothing, to be its first click
  · rintro before diagram cell after rfl now
    obtain ⟨hbefore, hrest⟩ := List.forall_mem_append.1 there
    obtain ⟨d, hd⟩ : ∃ d, now.database.diagram? diagram = some d := by
      rw [← Option.isSome_iff_exists, isSome_diagram?_clicked]
      exact hrest _ List.mem_cons_self
    obtain ⟨heven, hodd⟩ := selection_clicked (idle diagram) hbefore
    exact ⟨fun h => leads_first cell hd (heven h), fun earlier start hsplit h =>
      ⟨leads_second cell hd (hodd earlier start hsplit h), fun _ => Database.perform_of_refused⟩⟩

/-- Two diagrams by turns. The step of the second one is refused, as it has fewer rows. -/
def sampleClicks : List (DiagramId × Cell) :=
  [ (⟨"diagram-2"⟩, ⟨⟨"bank"⟩, 0⟩)
  , (⟨"diagram-3"⟩, ⟨⟨"bank"⟩, 1⟩)
  , (⟨"diagram-2"⟩, ⟨⟨"env-9"⟩, 1⟩)
  , (⟨"diagram-3"⟩, ⟨⟨"env-007"⟩, 5⟩)
  , (⟨"diagram-2"⟩, ⟨⟨"bank"⟩, 0⟩) ]

theorem clicks_pair_up_sample :
    let s := ofDatabase (Database.sampleContents.database.run Database.sampleOperations)
    let now := s.clicked (sampleClicks.take 3)
    (∀ diagram, s.selection diagram = .idle) ∧
    (∀ click ∈ sampleClicks, (s.database.diagram? click.1).isSome) ∧
    (s.clicked sampleClicks).selection ⟨"diagram-2"⟩ = .origin ⟨⟨"bank"⟩, 0⟩ ∧
    now.Leads ⟨"diagram-3"⟩ ⟨⟨"env-007"⟩, 5⟩
      (.error (.insertOutOfRange ⟨"diagram-3"⟩ 5 1), now.database) .idle ∧
    (s.clicked (sampleClicks.filter (·.1 = ⟨"diagram-2"⟩))).database.diagram? ⟨"diagram-2"⟩ =
      (s.clicked sampleClicks).database.diagram? ⟨"diagram-2"⟩ := by
  intro s now
  have hidle : ∀ diagram, s.selection diagram = .idle := fun _ => rfl
  have hthere : ∀ click ∈ sampleClicks, (s.database.diagram? click.1).isSome := by decide
  have h := clicks_pair_up hidle hthere
  have hsecond := (h.2.1 (sampleClicks.take 3) ⟨"diagram-3"⟩ ⟨⟨"env-007"⟩, 5⟩ _ rfl).2 []
    ⟨⟨"bank"⟩, 1⟩ (by decide) Even.zero
  exact ⟨hidle, hthere, (h.2.2 _ _).2 ⟨by decide, by decide⟩, hsecond.1, (h.1 _ _ (by decide)).1⟩

end Session

end Choreography
