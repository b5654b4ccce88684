import Choreography.FileTree
import Choreography.Proofs.Association
import Choreography.Proofs.Except
import Choreography.Proofs.Paths
import Mathlib.Data.List.Induction
import Mathlib.Data.List.Infix

/-!
# What paths lead to

A path names a place, whether or not it can be followed (`FileTree.place`). It can be followed if
every component is taken from a directory (`FileTree.Passable`), and it opens if moreover it is
written like the path of a file (`FileTree.Opens`).

- `read_eq_ok_iff`: a text is read if the path opens and a file with the text stands at its place.
- `FileTree.Closed`: whatever is there stands in a directory. In such a tree a path without `..`
  leads to the file at its place, unless the path itself is unfit for files (`Closed.read`); one
  with `..` may go through directories that are not there.
- `FileTree.KeepsWay`: new directories do not open the way of a path. What matters are directories
  that the path goes through and leaves again.
-/

namespace Choreography

namespace FileTree

variable {t t' : FileTree} {x y start : Place} {cs : List Path.Component} {p : Path}
variable {text : String}

/-! ## Looking up places -/

/-- The working directory is there. -/
@[simp] theorem lookup_current (t : FileTree) : t.lookup t.current = some .directory :=
  if_pos (List.isPrefixOf_iff_prefix.2 List.prefix_rfl)

/-- Something is put where no directory stands. -/
theorem lookup_put (h : t.lookup y ≠ some .directory) (entry : Entry) (x : Place) :
    (t.put y entry).lookup x = if x = y then some entry else t.lookup x := by
  have habove : y.isPrefixOf t.current = false := Bool.eq_false_iff.2 fun hp => h (if_pos hp)
  by_cases hx : x = y
  · subst hx
    rw [if_pos rfl, lookup, put]
    simp [habove]
  · have hne : (x == y) = false := by simpa using hx
    rw [if_neg hx, lookup, lookup, put, List.lookup_cons, hne, lookup_filter_of_ne hx]

/-- Whatever is there stands in a directory. -/
def Closed (t : FileTree) : Prop :=
  ∀ place name, t.lookup (place ++ [name]) ≠ none → t.lookup place = some .directory

/-- What stands at a place has directories all the way above it. -/
theorem Closed.above (h : t.Closed) (hx : t.lookup x ≠ none) {above : Place} (ha : above <+: x)
    (hne : above ≠ x) : t.lookup above = some .directory := by
  induction x using List.reverseRecOn with
  | nil => exact absurd (List.prefix_nil.1 ha) hne
  | append_singleton y name ih =>
    have hy : t.lookup y = some .directory := h y name hx
    rcases List.prefix_concat_iff.1 ha with rfl | ha
    · exact absurd rfl hne
    · by_cases heq : above = y
      · rwa [heq]
      · exact ih (by rw [hy]; nofun) ha heq

theorem closed_of_entries (h : ∀ e ∈ t.entries, t.lookup e.1.dropLast = some .directory) :
    t.Closed := by
  intro x name hx
  by_cases hc : (x ++ [name]).isPrefixOf t.current
  · have hx : x <+: t.current := (List.prefix_append x [name]).trans (by simpa using hc)
    exact if_pos (by simpa using hx)
  · rw [lookup, if_neg hc] at hx
    obtain ⟨entry, hentry⟩ := Option.ne_none_iff_exists'.1 hx
    obtain ⟨l₁, l₂, hl, -⟩ := List.lookup_eq_some_iff.1 hentry
    have hdir := h (x ++ [name], entry) (by rw [hl]; simp)
    rwa [List.dropLast_concat] at hdir

/-- A tree stays closed if something is put into a directory, where no directory stands. -/
theorem Closed.put (h : t.Closed) {name : String} (hd : t.lookup y = some .directory)
    (hfree : t.lookup (y ++ [name]) ≠ some .directory) (entry : Entry) :
    (t.put (y ++ [name]) entry).Closed := by
  intro x n hx
  rw [lookup_put hfree] at hx ⊢
  by_cases heq : x ++ [n] = y ++ [name]
  · obtain ⟨rfl, -⟩ := List.append_inj' heq rfl
    rw [if_neg (by simp), hd]
  · rw [if_neg heq] at hx
    have hdir : t.lookup x = some .directory := h x n hx
    have hne : x ≠ y ++ [name] := fun hxy => hfree (hxy ▸ hdir)
    rw [if_neg hne, hdir]

/-! ## Following components -/

/-- The place that components lead to, whether or not something stands on the way. -/
def placeFrom (start : Place) (cs : List Path.Component) : Place :=
  cs.foldl step start

@[simp] theorem placeFrom_nil (start : Place) : placeFrom start [] = start := rfl

@[simp] theorem placeFrom_cons (start : Place) (c : Path.Component) (cs : List Path.Component) :
    placeFrom start (c :: cs) = placeFrom (step start c) cs := rfl

@[simp] theorem placeFrom_append (start : Place) (cs ds : List Path.Component) :
    placeFrom start (cs ++ ds) = placeFrom (placeFrom start cs) ds := List.foldl_append

/-- The place that a path names. -/
def place (t : FileTree) (p : Path) : Place :=
  placeFrom t.current p.components

/-- The name that leads to a place can be looked up. -/
def IsShort (x : Place) : Prop :=
  x.getLast?.all (·.utf8ByteSize ≤ maxNameBytes) = true

/-- A directory stands at the place, and can be entered. -/
structure HasDirectory (t : FileTree) (x : Place) : Prop where
  short : IsShort x
  directory : t.lookup x = some .directory

/-- Each of the components is taken from a directory. -/
def Passable (t : FileTree) : (start : Place) → List Path.Component → Prop
  | _, [] => True
  | start, c :: rest => t.HasDirectory start ∧ t.Passable (step start c) rest

/-- The place lies on the way that components lead. -/
def OnWay (current : Place) (cs : List Path.Component) (x : Place) : Prop :=
  ∃ above, above <+: cs ∧ x = placeFrom current above

instance (current : Place) (cs : List Path.Component) (x : Place) :
    Decidable (OnWay current cs x) :=
  decidable_of_iff (∃ above ∈ cs.inits, x = placeFrom current above) <| by
    simp only [OnWay, List.mem_inits]

theorem OnWay.mono {current : Place} {ds : List Path.Component} (h : cs <+: ds)
    (hx : OnWay current cs x) : OnWay current ds x := by
  obtain ⟨above, habove, rfl⟩ := hx
  exact ⟨above, habove.trans h, rfl⟩

theorem find_eq_ok_iff {e? : Option Entry} :
    t.find x = .ok e? ↔ IsShort x ∧ t.lookup x = e? := by
  unfold find IsShort
  split <;> simp_all

theorem enter_eq_ok_iff : t.enter x = .ok () ↔ t.HasDirectory x := by
  simp only [enter, bind_eq_ok_iff, find_eq_ok_iff]
  constructor
  · rintro ⟨_ | _ | _, ⟨hshort, hx⟩, h⟩
    · exact absurd h throw_ne_ok
    · exact absurd h throw_ne_ok
    · exact ⟨hshort, hx⟩
  · exact fun h => ⟨_, ⟨h.short, h.directory⟩, rfl⟩

theorem walk_eq_ok_iff :
    t.walk start cs = .ok x ↔ t.Passable start cs ∧ placeFrom start cs = x := by
  induction cs generalizing start with
  | nil => simp [walk, Passable]
  | cons c cs ih =>
    simp only [walk, Passable, placeFrom_cons, bind_eq_ok_iff, ih, ← enter_eq_ok_iff, and_assoc]
    exact ⟨fun ⟨_, h⟩ => h, fun h => ⟨(), h⟩⟩

theorem passable_iff : t.Passable start cs ↔
    ∀ above c, above ++ [c] <+: cs → t.HasDirectory (placeFrom start above) := by
  induction cs generalizing start with
  | nil => simp [Passable]
  | cons d cs ih =>
    rw [Passable, ih]
    constructor
    · rintro ⟨hstart, hrest⟩ above c habove
      cases above with
      | nil => exact hstart
      | cons e above =>
        obtain ⟨rfl, hmore⟩ := List.cons_prefix_cons.1 habove
        exact hrest above c hmore
    · intro h
      refine ⟨h [] d (List.prefix_append [d] cs), fun above c habove => ?_⟩
      exact h (d :: above) c (List.cons_prefix_cons.2 ⟨rfl, habove⟩)

theorem passable_append {ds : List Path.Component} : t.Passable start (cs ++ ds) ↔
    t.Passable start cs ∧ t.Passable (placeFrom start cs) ds := by
  induction cs generalizing start with
  | nil => simp [Passable]
  | cons c cs ih => simp [Passable, ih, and_assoc]

/-! ## Opening files -/

/-- The path is written like the path of a file, and it can be followed to the end. -/
structure Opens (t : FileTree) (p : Path) : Prop where
  check : p.check = .ok ()
  nonempty : p.text.isEmpty = false
  slash : p.endsWithSlash = false
  dot : p.endsWithDot = false
  passable : t.Passable t.current p.components
  short : IsShort (t.place p)

theorem follow_eq_ok_iff {entry : Entry} : t.follow cs = .ok entry ↔
    t.Passable t.current cs ∧ IsShort (placeFrom t.current cs) ∧
      t.lookup (placeFrom t.current cs) = some entry := by
  simp only [follow, bind_eq_ok_iff, walk_eq_ok_iff, find_eq_ok_iff]
  constructor
  · rintro ⟨_, ⟨hpass, rfl⟩, _ | found, ⟨hshort, hx⟩, h⟩
    · exact absurd h throw_ne_ok
    · cases pure_eq_ok_iff.1 h
      exact ⟨hpass, hshort, hx⟩
  · rintro ⟨hpass, hshort, hx⟩
    exact ⟨_, ⟨hpass, rfl⟩, _, ⟨hshort, hx⟩, rfl⟩

theorem get_eq_ok_iff {entry : Entry} : t.get p = .ok entry ↔ p.check = .ok () ∧
    p.text.isEmpty = false ∧ t.follow p.components = .ok entry ∧
      (entry = .directory ∨ p.endsWithSlash = false ∧ p.endsWithDot = false) := by
  simp only [get, bind_eq_ok_iff, throw_bind, check_throw_eq_ok_iff, Bool.not_eq_true]
  constructor
  · rintro ⟨_, hcheck, hne, _ | _, hfollow, h⟩
    · obtain ⟨hend, h⟩ := check_throw_eq_ok_iff.1 h
      cases pure_eq_ok_iff.1 h
      exact ⟨hcheck, hne, hfollow, .inr (by simpa using hend)⟩
    · cases pure_eq_ok_iff.1 h
      exact ⟨hcheck, hne, hfollow, .inl rfl⟩
  · rintro ⟨hcheck, hne, hfollow, rfl | ⟨hslash, hdot⟩⟩
    · exact ⟨(), hcheck, hne, _, hfollow, rfl⟩
    · refine ⟨(), hcheck, hne, entry, hfollow, ?_⟩
      cases entry <;> simp [hslash, hdot, pure_eq_ok_iff]

theorem get_eq_ok_file_iff :
    t.get p = .ok (.file text) ↔ t.Opens p ∧ t.lookup (t.place p) = some (.file text) := by
  rw [get_eq_ok_iff, follow_eq_ok_iff]
  constructor
  · rintro ⟨hcheck, hne, ⟨hpass, hshort, hx⟩, hdir | ⟨hslash, hdot⟩⟩
    · cases hdir
    · exact ⟨⟨hcheck, hne, hslash, hdot, hpass, hshort⟩, hx⟩
  · rintro ⟨h, hx⟩
    exact ⟨h.check, h.nonempty, ⟨h.passable, h.short, hx⟩, .inr ⟨h.slash, h.dot⟩⟩

theorem contains_iff : t.contains p = true ↔ ∃ entry, t.get p = .ok entry := by
  unfold contains
  cases t.get p <;> simp [Except.isOk, Except.toBool]

theorem read_eq_ok_iff :
    t.read p = .ok text ↔ t.Opens p ∧ t.lookup (t.place p) = some (.file text) := by
  simp only [← get_eq_ok_file_iff, read, bind_eq_ok_iff]
  constructor
  · rintro ⟨_ | _, hget, h⟩
    · cases pure_eq_ok_iff.1 h
      exact hget
    · exact absurd h throw_ne_ok
  · exact fun h => ⟨_, h, rfl⟩

/-- What can be read is there. -/
theorem contains_of_read (h : t.read p = .ok text) : t.contains p = true :=
  contains_iff.2 ⟨_, get_eq_ok_file_iff.2 (read_eq_ok_iff.1 h)⟩

/-! ## Paths that lead onward -/

/-- The component does not lead back. -/
def IsOnward (c : Path.Component) : Prop :=
  c ≠ .up ∧ c ≠ .root

theorem prefix_placeFrom (h : ∀ c ∈ cs, IsOnward c) (start : Place) :
    start <+: placeFrom start cs := by
  induction cs generalizing start with
  | nil => exact List.prefix_rfl
  | cons c cs ih =>
    rw [List.forall_mem_cons] at h
    have hstep : start <+: step start c := by
      cases c with
      | root => exact absurd rfl h.1.2
      | here => exact List.prefix_rfl
      | up => exact absurd rfl h.1.1
      | name n => exact List.prefix_append start [n]
    exact hstep.trans (ih h.2 _)

/-- A path without `..` goes through places above its own, but for the working directory. -/
theorem prefix_place (hup : .up ∉ p.components) {above : List Path.Component}
    (habove : above <+: p.components) (hne : above ≠ []) :
    placeFrom t.current above <+: t.place p := by
  obtain ⟨c, above, rfl⟩ := List.exists_cons_of_ne_nil hne
  obtain ⟨below, hp⟩ := habove
  have htail := p.root_not_mem_tail
  rw [place, ← hp, placeFrom_append]
  rw [← hp] at hup htail
  refine prefix_placeFrom (fun d hd => ⟨?_, ?_⟩) _
  · exact fun heq => hup (heq ▸ List.mem_append_right _ hd)
  · exact fun heq => htail (heq ▸ List.mem_append_right above hd)

/-- If a path without `..` can be read in one tree, it can be read in every closed tree with a file
at its place. -/
theorem Closed.read (h : t.Closed) (hcurrent : t'.current = t.current)
    (hup : .up ∉ p.components) {text' : String} (hread : t'.read p = .ok text')
    (hx : t.lookup (t.place p) = some (.file text)) : t.read p = .ok text := by
  obtain ⟨hopens, hx'⟩ := read_eq_ok_iff.1 hread
  have hplace : t'.place p = t.place p := by rw [place, place, hcurrent]
  rw [hplace] at hx'
  refine read_eq_ok_iff.2 ⟨{ hopens with passable := ?_, short := hplace ▸ hopens.short }, hx⟩
  have hpass' := hopens.passable
  rw [hcurrent, passable_iff] at hpass'
  rw [passable_iff]
  intro above c habove
  have hdir := hpass' above c habove
  refine ⟨hdir.short, ?_⟩
  by_cases hnil : above = []
  · rw [hnil]
    exact lookup_current t
  · refine h.above (by rw [hx]; nofun)
      (prefix_place hup ((List.prefix_append above [c]).trans habove) hnil) fun heq => ?_
    cases hx'.symm.trans (heq ▸ hdir.directory)

/-! ## Ways that lead back -/

/-- Directories that are made at these places do not open the way of the path: each of them lies
above its place, or the directory is there already. -/
def KeepsWay (t : FileTree) (made : Place → Prop) (p : Path) : Prop :=
  ∀ x, OnWay t.current p.components x → made x →
    x <+: t.place p ∨ t.lookup x = some .directory

instance (t : FileTree) (made : Place → Prop) [DecidablePred made] (p : Path) :
    Decidable (t.KeepsWay made p) :=
  decidable_of_iff (∀ above ∈ p.components.inits, made (placeFrom t.current above) →
      placeFrom t.current above <+: t.place p ∨
        t.lookup (placeFrom t.current above) = some .directory) <| by
    simp only [KeepsWay, OnWay, List.mem_inits]
    constructor
    · rintro h _ ⟨above, habove, rfl⟩
      exact h above habove
    · exact fun h above habove => h _ ⟨above, habove, rfl⟩

/-- No way without `..` is opened. -/
theorem keepsWay_of_not_mem (hup : .up ∉ p.components) (made : Place → Prop) :
    t.KeepsWay made p := by
  rintro _ ⟨above, habove, rfl⟩ -
  by_cases hnil : above = []
  · rw [hnil]
    exact .inr (lookup_current t)
  · exact .inl (prefix_place hup habove hnil)

end FileTree

end Choreography
