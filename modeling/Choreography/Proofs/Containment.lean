import Choreography.Proofs.FileTree.Joined
import Choreography.Proofs.GeneratedFile
import Mathlib.Data.List.Nodup

/-!
# Accepted files stay beneath the output root

- `Path.isName_of_mem_components`: a name among the components of any path is the name of one
  directory or file, whatever the text of the path is.
- `Path.components_join`: joined to any root, a contained path has its components behind those of
  the root.
- `accepted_files_beneath_root`: so accepted files are beneath the root, each at a path of its own.
-/

namespace Choreography

namespace Path

variable {p : Path} {name : String}

/-! ## Names -/

/-- What a directory or a file can be called: a text without slashes that is not empty and not made
of one or two dots. -/
structure IsName (name : String) : Prop where
  ne_empty : name ≠ ""
  slash : '/' ∉ name.toList
  ne_dot : name ≠ "."
  ne_dots : name ≠ ".."

theorem slash_not_mem_segments {cs s : List Char} (h : s ∈ segments cs) : '/' ∉ s := by
  induction cs generalizing s with
  | nil =>
    rw [List.mem_singleton.1 h]
    exact List.not_mem_nil
  | cons c cs ih =>
    unfold segments at h
    split at h
    · rcases List.mem_cons.1 h with rfl | h
      · exact List.not_mem_nil
      · exact ih h
    next hc =>
    split at h
    · rw [List.mem_singleton.1 h, List.mem_singleton]
      exact Ne.symm hc
    · next first more hsegments =>
      rw [hsegments] at ih
      rcases List.mem_cons.1 h with rfl | h
      · rw [List.mem_cons, not_or]
        exact ⟨Ne.symm hc, ih List.mem_cons_self⟩
      · exact ih (List.mem_cons_of_mem first h)

theorem isName_of_component? {s : List Char} (hs : '/' ∉ s)
    (h : component? s = some (.name name)) : IsName name := by
  unfold component? at h
  split at h
  · cases h
  · cases h
  · cases h
  · next hempty hdot hdots =>
    cases h
    have hne : ∀ text : String, s ≠ text.toList → String.ofList s ≠ text := by
      rintro _ h rfl
      exact h String.toList_ofList.symm
    exact ⟨hne _ hempty, by rwa [String.toList_ofList], hne _ hdot, hne _ hdots⟩

theorem name_not_mem_lead (ss : List (List Char)) : .name name ∉ lead ss := by
  cases ss with
  | nil => exact List.not_mem_nil
  | cons s more =>
    rw [lead]
    split
    · split <;> simp
    · split <;> simp

/-- Names come out of every text in this form. -/
theorem isName_of_mem_components (h : .name name ∈ p.components) : IsName name := by
  rw [components_eq, List.mem_append] at h
  obtain ⟨s, hs, hname⟩ := List.mem_filterMap.1 (h.resolve_left (name_not_mem_lead _))
  exact isName_of_component? (slash_not_mem_segments hs) hname

/-! ## Joined paths -/

/-- A contained path begins with a name. -/
theorem lead_of_isContained (h : p.isContained = true) : lead (segments p.text.toList) = [] := by
  obtain ⟨names, hnames⟩ := exists_names h
  refine List.eq_nil_iff_forall_not_mem.2 fun c hc => ?_
  have hmem : c ∈ names.map Component.name := by
    rw [← hnames, components_eq]
    exact List.mem_append_left _ hc
  obtain ⟨name, -, rfl⟩ := List.mem_map.1 hmem
  exact name_not_mem_lead _ hc

/-- The components of a contained path follow those of the root. -/
theorem components_join (root : Path) (h : isContained ⟨name⟩ = true) :
    (root.join name).components = root.components ++ components ⟨name⟩ := by
  have hlead := lead_of_isContained h
  have hrelative : isAbsolute ⟨name⟩ = false := by
    refine Bool.eq_false_iff.2 fun habsolute => ?_
    rw [lead_of_isAbsolute habsolute] at hlead
    cases hlead
  cases hempty : root.text.isEmpty with
  | true =>
    obtain rfl : root = ⟨""⟩ := congrArg Path.mk (String.isEmpty_iff.1 hempty)
    have hjoin : join ⟨""⟩ name = ⟨name⟩ := by
      simp [join, hrelative]
    have hroot : components ⟨""⟩ = [] := by decide
    rw [hjoin, hroot, List.nil_append]
  | false =>
    obtain ⟨hjoined, hsegments⟩ := segments_join hempty hrelative
    rw [components_eq (root.join name), hjoined, hsegments, components_eq root,
      components_eq ⟨name⟩, hlead, List.nil_append, List.append_assoc]

end Path

namespace Adapter

variable {adapter : Adapter} {services : List Service} {files : List GeneratedFile}

/-- Seen from any root, the path of an accepted file has the components of the root and behind them
one or more names, and no two files have the same components. -/
theorem accepted_files_beneath_root (h : adapter.generateChecked services = .ok files)
    (root : Path) :
    (∀ file ∈ files, ∃ names : List String, names ≠ [] ∧ (∀ name ∈ names, Path.IsName name) ∧
        (root.join file.filename).components = root.components ++ names.map .name) ∧
      (files.map fun file => (root.join file.filename).components).Nodup := by
  obtain ⟨-, haccepts⟩ := generateChecked_eq_ok_iff.1 h
  constructor
  · intro file hfile
    have hcontained := haccepts.contained file hfile
    obtain ⟨names, hnames⟩ := Path.exists_names hcontained
    refine ⟨names, ?_, fun name hname => ?_, ?_⟩
    · rintro rfl
      simp [Path.isContained, hnames] at hcontained
    · refine Path.isName_of_mem_components (p := ⟨file.filename⟩) ?_
      rw [hnames]
      exact List.mem_map_of_mem hname
    · rw [Path.components_join root hcontained, hnames]
  -- the root is the same for all files, so it cancels
  · refine List.Nodup.map_on (fun file hfile file' hfile' heq => ?_) haccepts.nodup.of_map
    rw [Path.components_join root (haccepts.contained file hfile),
      Path.components_join root (haccepts.contained file' hfile')] at heq
    exact List.inj_on_of_nodup_map haccepts.nodup hfile hfile' (List.append_cancel_left heq)

/-- Names with slashes and dots that fall away, and one with backslashes. -/
def oddlySpelled : Adapter where
  name := "odd"
  generate _ := .ok [⟨"a//b.ts", "", none⟩, ⟨"a/./c.ts/.", "", none⟩, ⟨"..\\d", "", none⟩]
  quoteEvent := id

theorem accepted_files_beneath_root_sample :
    ∃ b c d, oddlySpelled.generateChecked [] = .ok [b, c, d] ∧
      [b, c, d].map (fun file => (Path.join ⟨"./out/..//"⟩ file.filename).components) =
        [ [.here, .name "out", .up, .name "a", .name "b.ts"]
        , [.here, .name "out", .up, .name "a", .name "c.ts"]
        , [.here, .name "out", .up, .name "..\\d"] ] ∧
      ([b, c, d].map fun file => (Path.join ⟨"./out/..//"⟩ file.filename).components).Nodup := by
  have h : oddlySpelled.generateChecked [] =
      .ok [⟨"a//b.ts", "", none⟩, ⟨"a/./c.ts/.", "", none⟩, ⟨"..\\d", "", none⟩] := by decide
  exact ⟨_, _, _, h, by decide, (accepted_files_beneath_root h ⟨"./out/..//"⟩).2⟩

end Adapter

end Choreography
