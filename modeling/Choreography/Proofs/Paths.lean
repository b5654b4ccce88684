import Choreography.Path

/-!
# The components of paths

- `segments_slash`: a text is cut at any of its slashes.
- `components_eq`: a path begins with the component of its first segment (`Path.lead`), and each
  segment that does not fall away stands for one more.
- `components_file`: a name without slashes is one component.
- `components_directory_file`: two such names with a slash between them are two components.

A plain name is longer than two characters here, so it is neither empty nor made of dots only.
-/

namespace Choreography

namespace Path

theorem segments_ne_nil (cs : List Char) : segments cs ≠ [] := by
  cases cs with
  | nil => nofun
  | cons c cs =>
    unfold segments
    split
    · nofun
    · split <;> nofun

/-- A text is cut at any of its slashes. -/
theorem segments_slash (cs rest : List Char) :
    segments (cs ++ '/' :: rest) = segments cs ++ segments rest := by
  induction cs with
  | nil => rfl
  | cons c cs ih =>
    rw [List.cons_append, segments, segments, ih]
    by_cases hc : c = '/'
    · simp [hc]
    · cases hs : segments cs with
      | nil => exact absurd hs (segments_ne_nil cs)
      | cons s more => simp [hc]

theorem segments_of_not_mem {cs : List Char} (h : '/' ∉ cs) : segments cs = [cs] := by
  induction cs with
  | nil => rfl
  | cons c cs ih =>
    rw [List.mem_cons, not_or] at h
    obtain ⟨hc, hcs⟩ := h
    rw [segments, if_neg (Ne.symm hc), ih hcs]

theorem segments_append {cs : List Char} (h : '/' ∉ cs) (rest : List Char) :
    segments (cs ++ '/' :: rest) = cs :: segments rest := by
  rw [segments_slash, segments_of_not_mem h]
  rfl

/-! ## All paths -/

/-- The component that a path begins with because of its first segment. -/
def lead : List (List Char) → List Component
  | [] => []
  | s :: more =>
    if s = [] then if more = [] then [] else [.root]
    else if s = ['.'] then [.here]
    else []

theorem component?_nil : component? [] = none := rfl

theorem component?_dot : component? ['.'] = none := rfl

theorem components_eq (p : Path) : p.components =
    lead (segments p.text.toList) ++ (segments p.text.toList).filterMap component? := by
  unfold components
  split
  · next h => rw [h]; rfl
  · next more h => cases more <;> simp [h, lead, List.filterMap_cons, component?_nil]
  · next more h => simp [h, lead, List.filterMap_cons, component?_dot]
  · next hnil hroot hhere =>
    cases hs : segments p.text.toList with
    | nil => exact absurd hs hnil
    | cons s more =>
      have hs1 : s ≠ [] := fun heq => hroot more (by rw [hs, heq])
      have hs2 : s ≠ ['.'] := fun heq => hhere more (by rw [hs, heq])
      simp [lead, hs1, hs2]

theorem length_lead (ss : List (List Char)) : (lead ss).length ≤ 1 := by
  cases ss with
  | nil => exact Nat.zero_le 1
  | cons s more =>
    rw [lead]
    split
    · split <;> simp
    · split <;> simp

theorem root_not_mem_filterMap (ss : List (List Char)) : .root ∉ ss.filterMap component? := by
  rw [List.mem_filterMap]
  rintro ⟨s, -, hs⟩
  unfold component? at hs
  split at hs <;> cases hs

/-- A path goes to the top at its beginning only. -/
theorem root_not_mem_tail (p : Path) : .root ∉ p.components.tail := by
  intro h
  refine root_not_mem_filterMap (segments p.text.toList) ?_
  rw [components_eq] at h
  have hlead := length_lead (segments p.text.toList)
  match lead (segments p.text.toList), hlead, h with
  | [], _, h => exact List.mem_of_mem_tail h
  | [_], _, h => exact h

/-- A path of some components is not the empty text. -/
theorem isEmpty_of_components {p : Path} {c : Component} (h : c ∈ p.components) :
    p.text.isEmpty = false := by
  refine Bool.eq_false_iff.2 fun he => ?_
  have hp : p = ⟨""⟩ := congrArg Path.mk (String.isEmpty_iff.1 he)
  have hnil : components ⟨""⟩ = [] := by decide
  rw [hp, hnil] at h
  cases h

/-- A contained path is made of names. -/
theorem exists_names {p : Path} (h : p.isContained = true) :
    ∃ names : List String, p.components = names.map .name := by
  have hall := (Bool.and_eq_true_iff.1 h).2
  generalize p.components = cs at hall
  induction cs with
  | nil => exact ⟨[], rfl⟩
  | cons c cs ih =>
    rw [List.all_cons, Bool.and_eq_true] at hall
    obtain ⟨names, rfl⟩ := ih hall.2
    cases c with
    | name name => exact ⟨name :: names, rfl⟩
    | root | here | up => exact absurd hall.1 nofun

/-! ## Plain names -/

/-- A plain name: no slashes, and too long to be made of dots. -/
structure IsPlain (name : String) : Prop where
  slash : '/' ∉ name.toList
  length : 2 < name.toList.length

variable {directory file : String}

theorem IsPlain.component? (h : IsPlain file) :
    component? file.toList = some (.name file) := by
  have hlength := h.length
  unfold Path.component?
  split
  · next heq => simp [heq] at hlength
  · next heq => simp [heq] at hlength
  · next heq => simp [heq] at hlength
  · rw [String.ofList_toList]

/-- A path that does not begin with a slash or a dot has the components of its segments. -/
theorem components_of_segments {p : Path} {s : List Char} {more : List (List Char)}
    (hp : segments p.text.toList = s :: more) (hs : 2 < s.length) :
    p.components = (s :: more).filterMap Path.component? := by
  unfold components
  split
  · next heq => simp [heq] at hp
  · next heq =>
    obtain ⟨rfl, -⟩ := List.cons.inj (heq.symm.trans hp)
    simp at hs
  · next heq =>
    obtain ⟨rfl, -⟩ := List.cons.inj (heq.symm.trans hp)
    simp at hs
  · rw [hp]

theorem components_file (h : IsPlain file) : components ⟨file⟩ = [.name file] := by
  have hsegments : segments (Path.mk file).text.toList = [file.toList] :=
    segments_of_not_mem h.slash
  rw [components_of_segments hsegments h.length]
  simp [h.component?]

theorem components_directory_file (hd : IsPlain directory) (hf : IsPlain file) :
    components ⟨directory ++ "/" ++ file⟩ = [.name directory, .name file] := by
  have hsegments : segments (Path.mk (directory ++ "/" ++ file)).text.toList =
      [directory.toList, file.toList] := by
    have htext : (directory ++ "/" ++ file).toList = directory.toList ++ '/' :: file.toList := by
      simp
    rw [htext, segments_append hd.slash, segments_of_not_mem hf.slash]
  rw [components_of_segments hsegments hd.length]
  simp [hd.component?, hf.component?]

/-- A path of names is contained. -/
theorem isContained_of_components {p : Path} {names : List String} (hne : names ≠ [])
    (h : p.components = names.map .name) : p.isContained = true := by
  unfold isContained
  rw [h]
  simp [hne]

end Path

end Choreography
