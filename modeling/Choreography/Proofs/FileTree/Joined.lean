import Choreography.Proofs.FileTree.Places

/-!
# Places of joined paths

A joined path names the place to which the components of the name lead from the place of the root
(`FileTree.place_join`), although the components of the joined path are not those of the root
followed by those of the name: a dot in front falls away, and an absolute name replaces the root.
-/

namespace Choreography

namespace Path

variable {p root : Path} {name : String} {ss more more' : List (List Char)}

/-! ## How joined paths begin -/

/-- Of what follows the first segments, only whether there is anything matters. -/
theorem lead_append (hss : ss ≠ []) (hmore : more ≠ []) (hmore' : more' ≠ []) :
    lead (ss ++ more) = lead (ss ++ more') := by
  cases ss with
  | nil => exact absurd rfl hss
  | cons s ss => simp [lead, hmore, hmore']

theorem lead_append_of_ne (hss : ss ≠ []) (hne : ss ≠ [[]]) (more : List (List Char)) :
    lead (ss ++ more) = lead ss := by
  cases ss with
  | nil => exact absurd rfl hss
  | cons s ss =>
    by_cases hs : s = []
    · have hrest : ss ≠ [] := fun h => hne (by rw [hs, h])
      simp [lead, hrest]
    · simp [lead, hs]

theorem eq_nil_of_segments {cs : List Char} (h : segments cs = [[]]) : cs = [] := by
  cases cs with
  | nil => rfl
  | cons c cs =>
    exfalso
    unfold segments at h
    split at h
    · exact segments_ne_nil cs (List.cons.inj h).2
    · split at h <;> simp at h

theorem lead_of_isAbsolute (h : p.isAbsolute = true) :
    lead (segments p.text.toList) = [.root] := by
  have hhead : p.text.toList.head? = some '/' := by simpa [isAbsolute] using h
  obtain ⟨rest, hrest⟩ := List.head?_eq_some_iff.1 hhead
  rw [hrest, segments, if_pos rfl, lead, if_pos rfl, if_neg (segments_ne_nil rest)]

theorem lead_of_not_isAbsolute (h : p.isAbsolute = false) :
    lead (segments p.text.toList) = [] ∨ lead (segments p.text.toList) = [.here] := by
  have hhead : p.text.toList.head? ≠ some '/' := by simpa [isAbsolute] using h
  cases hp : p.text.toList with
  | nil => exact .inl rfl
  | cons c cs =>
    have hc : c ≠ '/' := fun heq => hhead (by rw [hp, heq]; rfl)
    obtain ⟨s, more, hs⟩ : ∃ s more, segments (c :: cs) = (c :: s) :: more := by
      rw [segments, if_neg hc]
      split
      · exact ⟨[], [], rfl⟩
      · exact ⟨_, _, rfl⟩
    rw [hs, lead, if_neg (by simp)]
    split
    · exact .inr rfl
    · exact .inl rfl

/-- A joined path begins like the root, and has the segments of the name behind those of the root;
filler falls away. -/
theorem segments_join (hroot : root.text.isEmpty = false) (hname : isAbsolute ⟨name⟩ = false) :
    lead (segments (root.join name).text.toList) = lead (segments root.text.toList) ∧
      (segments (root.join name).text.toList).filterMap component? =
        (segments root.text.toList).filterMap component? ++
          (segments name.toList).filterMap component? := by
  rw [join, if_neg (by simp [hname]), hroot, Bool.false_or]
  -- behind a slash the root has an empty segment, which falls away; otherwise a slash is put
  -- between
  cases hslash : root.endsWithSlash with
  | true =>
    have hlast : root.text.toList.getLast? = some '/' := by simpa [endsWithSlash] using hslash
    obtain ⟨cs, hcs⟩ := List.getLast?_eq_some_iff.1 hlast
    have hsegments : segments root.text.toList = segments cs ++ [[]] := by
      rw [hcs, segments_slash]
      rfl
    have hjoined : segments (root.text ++ name).toList = segments cs ++ segments name.toList := by
      rw [String.toList_append, hcs, List.append_assoc, List.singleton_append, segments_slash]
    simp only [if_true, hsegments, hjoined, List.filterMap_append]
    refine ⟨lead_append (segments_ne_nil cs) (segments_ne_nil _) (by simp), ?_⟩
    rw [List.filterMap_cons, component?_nil, List.filterMap_nil, List.append_nil]
  | false =>
    have hjoined : segments (root.text ++ "/" ++ name).toList =
        segments root.text.toList ++ segments name.toList := by
      have htext : (root.text ++ "/" ++ name).toList = root.text.toList ++ '/' :: name.toList := by
        simp
      rw [htext, segments_slash]
    have hne : segments root.text.toList ≠ [[]] := by
      intro h
      have hempty : root.text = "" := by simpa using eq_nil_of_segments h
      rw [hempty] at hroot
      exact absurd hroot (by decide)
    simp only [Bool.false_eq_true, if_false, hjoined, List.filterMap_append]
    exact ⟨lead_append_of_ne (segments_ne_nil _) hne _, trivial⟩

end Path

namespace FileTree

/-! ## Their places -/

theorem placeFrom_components (start : Place) (p : Path) : placeFrom start p.components =
    placeFrom (placeFrom start (Path.lead (Path.segments p.text.toList)))
      ((Path.segments p.text.toList).filterMap Path.component?) := by
  rw [Path.components_eq, placeFrom_append]

/-- The components of the name lead on from the place of the root. -/
theorem place_join (t : FileTree) (root : Path) (name : String) :
    t.place (root.join name) = placeFrom (t.place root) (Path.components ⟨name⟩) := by
  cases habs : Path.isAbsolute ⟨name⟩ with
  | true =>
    -- an absolute name goes to the top from wherever it is
    have hjoin : root.join name = ⟨name⟩ := by rw [Path.join, if_pos habs]
    rw [hjoin, place, placeFrom_components, placeFrom_components (t.place root),
      Path.lead_of_isAbsolute habs]
    rfl
  | false =>
    have hname : ∀ start, placeFrom start (Path.components ⟨name⟩) =
        placeFrom start ((Path.segments name.toList).filterMap Path.component?) := by
      intro start
      rw [placeFrom_components]
      rcases Path.lead_of_not_isAbsolute habs with h | h <;> rw [h] <;> rfl
    rw [hname]
    cases hempty : root.text.isEmpty with
    | true =>
      obtain rfl : root = ⟨""⟩ := congrArg Path.mk (String.isEmpty_iff.1 hempty)
      have hjoin : Path.join ⟨""⟩ name = ⟨name⟩ := by
        simp [Path.join, habs]
      rw [hjoin, place, hname]
      rfl
    | false =>
      obtain ⟨hlead, hsegments⟩ := Path.segments_join hempty habs
      rw [place, placeFrom_components, hlead, hsegments, placeFrom_append,
        ← placeFrom_components, place]

/-- Names lead down. -/
theorem placeFrom_names (start : Place) (names : List String) :
    placeFrom start (names.map .name) = start ++ names := by
  induction names generalizing start with
  | nil => simp
  | cons name names ih => simp [ih, step]

end FileTree

end Choreography
