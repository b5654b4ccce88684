import Choreography.Proofs.FileTree.Places

/-!
# What writing does to a tree

A write can make directories where nothing stands and put a file where no directory stands;
`FileTree.Change` says at which places. Directories are never lost, so a path that opens goes on to
open (`Change.opens`), and what is not written keeps its text (`Change.read`).

- `change_makeDirectories`: creating directories only makes directories, along the way to the last
  one.
- `ReplaceStep`: a write makes directories above its path, and then it puts the file in its place
  or fails. What has been written is read (`ReplaceStep.read`).
-/

namespace Choreography

namespace FileTree

variable {t t' t'' : FileTree} {x : Place} {cs : List Path.Component} {p : Path} {text : String}
variable {made made' written written' : Place → Prop}

/-! ## Changes -/

/-- What can happen to a place: a directory is made where nothing stood, or a file is put where no
directory stood. -/
inductive PlaceChange (made written : Place → Prop) (t t' : FileTree) (x : Place) : Prop where
  | same (same : t'.lookup x = t.lookup x)
  | directory (here : made x) (nothing : t.lookup x = none) (now : t'.lookup x = some .directory)
  | file (here : written x) (free : t.lookup x ≠ some .directory) (text : String)
      (now : t'.lookup x = some (.file text))

/-- From the one tree to the other, directories are made at some places and files are put at
others, and nothing else changes. -/
structure Change (made written : Place → Prop) (t t' : FileTree) : Prop where
  current : t'.current = t.current
  places : ∀ x, PlaceChange made written t t' x
  closed : t.Closed → t'.Closed

namespace Change

theorem refl (made written : Place → Prop) (t : FileTree) : Change made written t t :=
  ⟨rfl, fun _ => .same rfl, fun h => h⟩

theorem mono (h : Change made written t t') (hm : ∀ x, made x → made' x)
    (hw : ∀ x, written x → written' x) : Change made' written' t t' where
  current := h.current
  places x := by
    cases h.places x with
    | same same => exact .same same
    | directory here nothing now => exact .directory (hm x here) nothing now
    | file here free text now => exact .file (hw x here) free text now
  closed := h.closed

theorem directory (h : Change made written t t') (hx : t.lookup x = some .directory) :
    t'.lookup x = some .directory := by
  cases h.places x with
  | same same => rw [same, hx]
  | directory _ _ now => exact now
  | file _ free => exact absurd hx free

theorem trans (h : Change made written t t') (h' : Change made written t' t'') :
    Change made written t t'' where
  current := h'.current.trans h.current
  places x := by
    cases h'.places x with
    | same same' =>
      cases h.places x with
      | same same => exact .same (same'.trans same)
      | directory here nothing now => exact .directory here nothing (same'.trans now)
      | file here free text now => exact .file here free text (same'.trans now)
    | directory here nothing' now =>
      cases h.places x with
      | same same => exact .directory here (same.symm.trans nothing') now
      | directory _ _ before => rw [before] at nothing'; cases nothing'
      | file _ _ _ before => rw [before] at nothing'; cases nothing'
    | file here free' text now =>
      exact .file here (fun hx => free' (h.directory hx)) text now
  closed hc := h'.closed (h.closed hc)

/-- A place at which no file is put holds the files that it held. -/
theorem file_iff (h : Change made written t t') (hx : ¬ written x) :
    t'.lookup x = some (.file text) ↔ t.lookup x = some (.file text) := by
  cases h.places x with
  | same same => rw [same]
  | directory _ nothing now => simp [nothing, now]
  | file here => exact absurd here hx

/-- A directory was there, or has been made. -/
theorem directory_of (h : Change made written t t') (hx : t'.lookup x = some .directory) :
    t.lookup x = some .directory ∨ made x := by
  cases h.places x with
  | same same => exact .inl (same.symm.trans hx)
  | directory here => exact .inr here
  | file _ _ _ now => rw [now] at hx; cases hx

theorem hasDirectory (h : Change made written t t') (hx : t.HasDirectory x) : t'.HasDirectory x :=
  ⟨hx.short, h.directory hx.directory⟩

theorem passable (h : Change made written t t') {start : Place} (hp : t.Passable start cs) :
    t'.Passable start cs := by
  induction cs generalizing start with
  | nil => trivial
  | cons c cs ih => exact ⟨h.hasDirectory hp.1, ih hp.2⟩

theorem place (h : Change made written t t') (p : Path) : t'.place p = t.place p := by
  rw [FileTree.place, h.current]
  rfl

/-- A path that opens goes on to open. -/
theorem opens (h : Change made written t t') (hp : t.Opens p) : t'.Opens p where
  check := hp.check
  nonempty := hp.nonempty
  slash := hp.slash
  dot := hp.dot
  passable := by
    rw [h.current]
    exact h.passable hp.passable
  short := by
    rw [h.place]
    exact hp.short

/-- A text that has been read is read again as long as nothing is written at its place. -/
theorem read (h : Change made written t t') (hx : ¬ written (t.place p))
    (hp : t.read p = .ok text) : t'.read p = .ok text := by
  rw [read_eq_ok_iff] at hp ⊢
  refine ⟨h.opens hp.1, ?_⟩
  rw [h.place, h.file_iff hx]
  exact hp.2

/-- A path that leads to nothing goes on to lead to nothing as long as nothing is made or written at
its place and, if something stands there, no directory that is made opens its way. -/
theorem not_contains (h : Change made written t t') (ht : t.Closed)
    (hway : t.lookup (t.place p) ≠ none → t.KeepsWay made p) (hmade : ¬ made (t.place p))
    (hwritten : ¬ written (t.place p)) (hp : t.contains p = false) : t'.contains p = false := by
  rw [← Bool.not_eq_true, contains_iff] at hp ⊢
  rintro ⟨entry, hget⟩
  rw [get_eq_ok_iff, follow_eq_ok_iff, h.current] at hget
  obtain ⟨hcheck, hne, ⟨hpass', hshort, hx'⟩, hend⟩ := hget
  have hx : t.lookup (t.place p) = some entry := by
    cases h.places (t.place p) with
    | same same => exact same.symm.trans hx'
    | directory here => exact absurd here hmade
    | file here => exact absurd here hwritten
  have hthere : t.lookup (t.place p) ≠ none := by
    rw [hx]
    nofun
  refine hp ⟨entry, get_eq_ok_iff.2 ⟨hcheck, hne, follow_eq_ok_iff.2 ⟨?_, hshort, hx⟩, hend⟩⟩
  -- what stands at the place stood there before, so only its way could be new: but the directories
  -- above the place were there as well, and the others are those that `hway` is about
  rw [passable_iff] at hpass' ⊢
  intro above c habove
  have hdir := hpass' above c habove
  refine ⟨hdir.short, ?_⟩
  cases h.places (placeFrom t.current above) with
  | same same => exact same.symm.trans hdir.directory
  | file _ _ _ now => cases now.symm.trans hdir.directory
  | directory here nothing _ =>
    have honWay : OnWay t.current p.components (placeFrom t.current above) :=
      ⟨above, (List.prefix_append above [c]).trans habove, rfl⟩
    rcases hway hthere _ honWay here with hprefix | hbefore
    · exact ht.above hthere hprefix fun heq => hmade (heq ▸ here)
    · exact hbefore

/-- Making a directory, or putting a file, in a directory where no directory stands. -/
theorem put {y : Place} {name : String} {entry : Entry} (hd : t.lookup y = some .directory)
    (hfree : t.lookup (y ++ [name]) ≠ some .directory)
    (h : PlaceChange made written t (t.put (y ++ [name]) entry) (y ++ [name])) :
    Change made written t (t.put (y ++ [name]) entry) where
  current := rfl
  places x := by
    by_cases hx : x = y ++ [name]
    · rwa [hx]
    · exact .same (by rw [lookup_put hfree, if_neg hx])
  closed hc := hc.put hd hfree entry

end Change

/-! ## Creating directories -/

/-- The place lies above what the path names. -/
def Above (t : FileTree) (p : Path) (x : Place) : Prop :=
  OnWay t.current p.parentComponents x

instance (t : FileTree) (p : Path) : DecidablePred (t.Above p) := fun x =>
  inferInstanceAs (Decidable (OnWay t.current p.parentComponents x))

/-- No place at all. -/
def Nowhere (_ : Place) : Prop := False

theorem Change.above (h : Change made written t t') (p : Path) : t'.Above p = t.Above p := by
  funext x
  rw [Above, Above, h.current]

/-- One directory is made, in one that is there. -/
theorem makeDirectory_ok (h : t.makeDirectory cs = .ok t') : ∃ above name,
    cs = above ++ [.name name] ∧ t.Passable t.current cs ∧
      t.lookup (placeFrom t.current cs) = none ∧
      t' = t.put (placeFrom t.current cs) .directory := by
  simp only [makeDirectory, bind_eq_ok_iff, walk_eq_ok_iff, find_eq_ok_iff] at h
  obtain ⟨_, ⟨hpass, rfl⟩, _, ⟨-, hx⟩, h⟩ := h
  split at h
  · next name hlast =>
    obtain ⟨above, rfl⟩ := List.getLast?_eq_some_iff.1 hlast
    exact ⟨above, name, rfl, hpass, hx, (pure_eq_ok_iff.1 h).symm⟩
  · exact absurd h throw_ne_ok

theorem change_makeDirectory (h : t.makeDirectory cs = .ok t') :
    Change (OnWay t.current cs) Nowhere t t' := by
  obtain ⟨above, name, rfl, hp, hnone, rfl⟩ := makeDirectory_ok h
  have hd := ((passable_append.1 hp).2).1.directory
  have hplace : placeFrom t.current (above ++ [.name name]) = placeFrom t.current above ++ [name] :=
    by simp [step]
  rw [hplace] at hnone ⊢
  have hfree : t.lookup (placeFrom t.current above ++ [name]) ≠ some .directory := by
    rw [hnone]
    nofun
  refine .put hd hfree (.directory ⟨_, List.prefix_rfl, hplace.symm⟩ hnone ?_)
  rw [lookup_put hfree, if_pos rfl]

/-- However far it gets, creating directories only makes directories on the way. -/
theorem change_makeDirectories (t : FileTree) (cs : List Path.Component) :
    Change (OnWay t.current cs.reverse) Nowhere t (t.makeDirectories cs).2 := by
  induction cs generalizing t with
  | nil => exact .refl _ _ t
  | cons c above ih =>
    have habove : above.reverse <+: (c :: above).reverse := by simp
    rw [makeDirectories]
    cases h : t.makeDirectory (c :: above).reverse with
    | ok t' => exact change_makeDirectory h
    | error fault =>
      have hup := (ih t).mono (fun _ hx => hx.mono habove) (fun _ hx => hx)
      cases fault with
      | notFound =>
        -- what is missing above is made first, and then the directory is tried again
        dsimp only
        cases hr : t.makeDirectories above with
        | mk result t' =>
          rw [hr] at hup
          cases result with
          | error fault => exact hup
          | ok =>
            dsimp only
            cases h' : t'.makeDirectory (c :: above).reverse with
            | error fault =>
              dsimp only
              split <;> exact hup
            | ok t'' =>
              have hlast := change_makeDirectory h'
              rw [hup.current] at hlast
              exact hup.trans hlast
      | _ =>
        dsimp only
        split <;> exact .refl _ _ t

/-! ## Writing files -/

/-- A file can be put where its path opens and no directory stands. -/
theorem target_ok (h : t.target p = .ok x) : t.Opens p ∧ t.place p = x ∧
    t.lookup x ≠ some .directory ∧ ∃ above name, p.components = above ++ [.name name] := by
  simp only [target, bind_eq_ok_iff, walk_eq_ok_iff, throw_bind] at h
  obtain ⟨_, hcheck, _, ⟨hpass, rfl⟩, h⟩ := h
  -- a path that ends in a dot is refused in one way or another
  have hbusy : (do t.enter (placeFrom t.current p.components); throw .busy : Except _ Place) ≠
      .ok x := by
    rw [ne_eq, bind_eq_ok_iff]
    rintro ⟨_, -, h⟩
    exact throw_ne_ok h
  obtain ⟨hdot, h⟩ := (check_eq_ok_iff hbusy).1 h
  split at h
  · exact absurd h throw_ne_ok
  · next name hlast =>
    simp only [bind_eq_ok_iff, find_eq_ok_iff, check_throw_eq_ok_iff, pure_eq_ok_iff] at h
    obtain ⟨_, ⟨hshort, rfl⟩, hslash, hfree, rfl⟩ := h
    have hempty := Path.isEmpty_of_components (List.mem_of_getLast? hlast)
    exact ⟨⟨hcheck, hempty, by simpa using hslash, by simpa using hdot, hpass, hshort⟩, rfl, hfree,
      (List.getLast?_eq_some_iff.1 hlast).imp fun _ h => ⟨name, h⟩⟩
  · exact absurd h throw_ne_ok

/-- A file is put where its path leads. -/
theorem change_put (h : t.target p = .ok x) (text : String) :
    Change Nowhere (· = t.place p) t (t.put x (.file text)) := by
  obtain ⟨hopens, rfl, hfree, above, name, hp⟩ := target_ok h
  have hpass := hopens.passable
  rw [hp] at hpass
  have hd := ((passable_append.1 hpass).2).1.directory
  have hplace : t.place p = placeFrom t.current above ++ [name] := by
    simp [place, hp, step]
  rw [hplace] at hfree ⊢
  refine .put hd hfree (.file rfl hfree text ?_)
  rw [lookup_put hfree, if_pos rfl]

/-- Everything that a write can do: it makes directories above its path, and then it puts the file
in its place or fails. -/
inductive ReplaceStep (t : FileTree) (p : Path) (text : String) :
    Except StorageFault Unit → FileTree → Prop where
  | replaced {t' : FileTree} {x : Place} (made : Change (t.Above p) Nowhere t t')
      (target : t'.target p = .ok x) : ReplaceStep t p text (.ok ()) (t'.put x (.file text))
  | failed {t' : FileTree} (fault : StorageFault) (made : Change (t.Above p) Nowhere t t') :
    ReplaceStep t p text (.error fault) t'

theorem replaceStep (t : FileTree) (p : Path) (text : String) :
    ReplaceStep t p text (t.replace p text).1 (t.replace p text).2 := by
  unfold replace
  cases p.parent.check with
  | error fault => exact .failed fault (.refl _ _ t)
  | ok =>
    have hmade := change_makeDirectories t p.parentComponents.reverse
    rw [List.reverse_reverse] at hmade
    dsimp only
    cases hr : t.makeDirectories p.parentComponents.reverse with
    | mk result t' =>
      rw [hr] at hmade
      cases result with
      | error fault => exact .failed fault hmade
      | ok =>
        dsimp only
        cases htarget : t'.target p with
        | error fault => exact .failed fault hmade
        | ok x => exact .replaced hmade htarget

/-- A write makes directories above its path, and changes the file that the path names. -/
theorem ReplaceStep.change {result : Except StorageFault Unit} (h : ReplaceStep t p text result t') :
    Change (t.Above p) (· = t.place p) t t' := by
  cases h with
  | replaced made target =>
    have hput := change_put target text
    rw [made.place] at hput
    exact (made.mono (fun _ h => h) nofun).trans (hput.mono nofun fun _ h => h)
  | failed fault made => exact made.mono (fun _ h => h) nofun

/-- What has been written is read. -/
theorem ReplaceStep.read (h : ReplaceStep t p text (.ok ()) t') : t'.read p = .ok text := by
  cases h with
  | replaced made target =>
    have hput := change_put target text
    obtain ⟨hopens, rfl, hfree, -⟩ := target_ok target
    rw [read_eq_ok_iff, hput.place, lookup_put hfree, if_pos rfl]
    exact ⟨hput.opens hopens, rfl⟩

end FileTree

end Choreography
