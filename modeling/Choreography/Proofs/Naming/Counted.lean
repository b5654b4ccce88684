import Choreography.Proofs.Naming.Unique

/-!
# Suffixes count

A name without an underscore is never the same as a name with a suffix. Among such names, the search
for a free spelling comes down to counting: the suffix of a name is the number of its uses.

- `nthSpelling`: what the `k`-th use of a name is called; different uses are called differently
  (`nthSpelling_inj`).
- `Counts count taken`: of each name, as many uses are taken as `count` says. Then the next use is
  the one that is found (`Counts.unused`).
- `unique_eq_counted`: so the chosen names are the counted ones.
- `getElem?_counted` and `filter_zip_counted`: the suffix of a name in closed form, and that it does
  not depend on other names.
- `Suffixable`: the same for the names that are made from the members of a list.
-/

namespace Choreography

namespace Naming

/-! ## Spellings -/

/-- The name holds no underscore, so it has no suffix. -/
def Bare (name : String) : Prop := '_' ∉ name.toList

instance (name : String) : Decidable (Bare name) := inferInstanceAs (Decidable (¬ _))

/-- What a name is called when it is used for the `k`-th time. -/
def nthSpelling (name : String) (k : Nat) : String :=
  if k = 1 then name else suffixed name k

theorem nthSpelling_one (name : String) : nthSpelling name 1 = name := if_pos rfl

theorem nthSpelling_of_lt (name : String) {k : Nat} (h : 1 < k) :
    nthSpelling name k = suffixed name k := if_neg (Nat.ne_of_gt h)

variable {a b : String}

theorem not_bare_suffixed (name : String) (n : Nat) : ¬ Bare (suffixed name n) :=
  not_not.2 (underscore_mem_suffixed name n)

/-- The name ends in front of the first underscore. -/
theorem takeWhile_suffixed (h : Bare a) (n : Nat) :
    (suffixed a n).toList.takeWhile (· ≠ '_') = a.toList := by
  have hall : ∀ c ∈ a.toList, decide (c ≠ '_') = true := fun c hc =>
    decide_eq_true fun heq => h (heq ▸ hc)
  rw [suffixed_eq, String.toList_append, List.takeWhile_append_of_pos hall, String.toList_append]
  exact List.append_nil _

theorem suffixed_inj {i j : Nat} (ha : Bare a) (hb : Bare b) (h : suffixed a i = suffixed b j) :
    a = b ∧ i = j := by
  have hname : a.toList = b.toList := by
    rw [← takeWhile_suffixed ha i, ← takeWhile_suffixed hb j, h]
  obtain rfl := String.toList_inj.1 hname
  exact ⟨rfl, suffixed_injective a i j h⟩

/-- A spelling tells the name and which of its uses it is. -/
theorem nthSpelling_inj {i j : Nat} (ha : Bare a) (hb : Bare b) (hi : 1 ≤ i) (hj : 1 ≤ j)
    (h : nthSpelling a i = nthSpelling b j) : a = b ∧ i = j := by
  rcases Nat.eq_or_lt_of_le hi with rfl | hi <;> rcases Nat.eq_or_lt_of_le hj with rfl | hj
  · rw [nthSpelling_one, nthSpelling_one] at h
    exact ⟨h, rfl⟩
  · rw [nthSpelling_one, nthSpelling_of_lt b hj] at h
    exact absurd (h ▸ ha) (not_bare_suffixed b j)
  · rw [nthSpelling_one, nthSpelling_of_lt a hi] at h
    exact absurd (h ▸ hb) (not_bare_suffixed a i)
  · rw [nthSpelling_of_lt a hi, nthSpelling_of_lt b hj] at h
    exact suffixed_inj ha hb h

/-! ## Counting instead of searching -/

/-- One more use of a name. -/
def used (count : String → Nat) (name : String) : String → Nat :=
  fun other => count other + if name = other then 1 else 0

/-- The names in their order, each spelled for the next of its uses. -/
def counted (count : String → Nat) : List String → List String
  | [] => []
  | name :: names => nthSpelling name (count name + 1) :: counted (used count name) names

/-- Of each name, exactly the first uses are taken, and `count` tells how many. -/
def Counts (count : String → Nat) (taken : List String) : Prop :=
  ∀ name, Bare name → ∀ k, 1 ≤ k → (nthSpelling name k ∈ taken ↔ k ≤ count name)

/-- Reserved names are used once. -/
theorem Counts.of_reserved {reserved : List String} (hbare : ∀ name ∈ reserved, Bare name)
    (hnodup : reserved.Nodup) : Counts (reserved.count ·) reserved := by
  intro name _ k hk
  rcases Nat.eq_or_lt_of_le hk with rfl | hlt
  · rw [nthSpelling_one]
    exact List.count_pos_iff.symm
  · rw [nthSpelling_of_lt name hlt]
    refine iff_of_false (fun hmem => not_bare_suffixed name k (hbare _ hmem)) ?_
    exact Nat.not_le.2 (Nat.lt_of_le_of_lt (List.nodup_iff_count.1 hnodup name) hlt)

variable {count : String → Nat} {taken : List String} {name : String}

/-- The search ends at the next use. -/
theorem Counts.unused (h : Counts count taken) (hname : Bare name) :
    unused taken name = nthSpelling name (count name + 1) := by
  have hself : name ∈ taken ↔ 1 ≤ count name := by
    simpa only [nthSpelling_one] using h name hname 1 (Nat.le_refl 1)
  unfold Naming.unused
  split
  case isFalse hfree =>
    have hzero : count name = 0 := by
      rw [hself] at hfree
      omega
    rw [hzero, nthSpelling_one]
  case isTrue htaken =>
    -- as many spellings as the count says are taken, without a gap, so the next one is the first
    -- free
    have hsuffixed : ∀ k, 1 < k → (suffixed name k ∈ taken ↔ k ≤ count name) := fun k hk => by
      rw [← nthSpelling_of_lt name hk]
      exact h name hname k (Nat.le_of_lt hk)
    have hnext : 1 < count name + 1 := Nat.lt_succ_of_le (hself.1 htaken)
    rw [freeSuffix_eq_firstUnused, nthSpelling_of_lt name hnext]
    congr 1
    refine firstUnused_eq (suffixed_injective name) hnext (fun k hk hlt => ?_) fun hmem => ?_
    · exact (hsuffixed k hk).2 (Nat.le_of_lt_succ hlt)
    · exact Nat.not_succ_le_self _ ((hsuffixed _ hnext).1 hmem)

/-- With the next use of a name, it is taken once more, and no other name is. -/
theorem Counts.cons (h : Counts count taken) (hname : Bare name) :
    Counts (used count name) (nthSpelling name (count name + 1) :: taken) := by
  intro other hother k hk
  have hinj : nthSpelling other k = nthSpelling name (count name + 1) ↔
      other = name ∧ k = count name + 1 := by
    refine ⟨nthSpelling_inj hother hname hk (Nat.succ_pos _), ?_⟩
    rintro ⟨rfl, rfl⟩
    rfl
  rw [List.mem_cons, hinj, h other hother k hk, used]
  by_cases heq : other = name
  · rw [if_pos heq.symm, and_iff_right heq, heq]
    omega
  · rw [if_neg (Ne.symm heq)]
    simp [heq]

/-- Among names without underscores, counting replaces the search. -/
theorem unique_eq_counted {names : List String} (h : Counts count taken)
    (hnames : ∀ name ∈ names, Bare name) : unique taken names = counted count names := by
  induction names generalizing count taken with
  | nil => rfl
  | cons name names ih =>
    obtain ⟨hname, hnames⟩ := List.forall_mem_cons.1 hnames
    rw [unique, counted, h.unused hname, ih (h.cons hname) hnames]

/-- An underscore of its own lets a name meet the suffix of another one. -/
example : unique [] ["a_2", "a", "a"] = ["a_2", "a", "a_3"] ∧
    counted (fun _ => 0) ["a_2", "a", "a"] = ["a_2", "a", "a_2"] := by decide

/-! ## Closed form -/

/-- The suffix is the number of uses up to this one, and of those before. -/
theorem getElem?_counted (count : String → Nat) (names : List String) (i : Nat) :
    (counted count names)[i]? = names[i]?.map fun name =>
      nthSpelling name ((names.take (i + 1)).count name + count name) := by
  induction names generalizing count i with
  | nil => rfl
  | cons first names ih =>
    cases i with
    | zero =>
      rw [counted, List.getElem?_cons_zero, List.getElem?_cons_zero, List.take_succ_cons,
        List.take_zero, Option.map_some, List.count_singleton_self, Nat.add_comm]
    | succ i =>
      rw [counted, List.getElem?_cons_succ, ih, List.getElem?_cons_succ]
      congr 1
      funext name
      congr 1
      rw [used, List.take_succ_cons, List.count_cons, Nat.add_right_comm, Nat.add_assoc]
      simp only [beq_iff_eq]

/-- What a name is called depends on its own uses only: those of other names can be left out. -/
theorem filter_zip_counted {α : Type} (key : α → String) (items : List α) {count' : String → Nat}
    (hcount : count' name = count name) :
    (items.zip (counted count (items.map key))).filter (key ·.1 = name) =
      (items.filter (key · = name)).zip
        (counted count' ((items.filter (key · = name)).map key)) := by
  -- the two counts agree on the name; items of other names change the count of these alone
  induction items generalizing count count' with
  | nil => rfl
  | cons item items ih =>
    rw [List.map_cons, counted, List.zip_cons_cons, List.filter_cons, List.filter_cons]
    by_cases hkey : key item = name
    · subst hkey
      have hused : used count' (key item) (key item) = used count (key item) (key item) := by
        rw [used, used, hcount]
      rw [if_pos (decide_eq_true rfl), if_pos (decide_eq_true rfl), List.map_cons, counted,
        List.zip_cons_cons, hcount, ih hused]
    · have hused : count' name = used count (key item) name := by
        rw [used, if_neg hkey, hcount, Nat.add_zero]
      rw [if_neg (by simpa using hkey), if_neg (by simpa using hkey), ih hused]

/-! ## Names of members -/

/-- Members are named, and names are reserved, without any underscores. -/
structure Suffixable {α : Type} (key : α → String) (reserved : List String) : Prop where
  bare : ∀ item, Bare (key item)
  reserved_bare : ∀ name ∈ reserved, Bare name
  reserved_nodup : reserved.Nodup

namespace Suffixable

variable {α : Type} {key : α → String} {reserved : List String}

theorem unique_eq (h : Suffixable key reserved) (items : List α) :
    unique reserved (items.map key) = counted (reserved.count ·) (items.map key) := by
  refine unique_eq_counted (.of_reserved h.reserved_bare h.reserved_nodup) fun name hname => ?_
  obtain ⟨item, -, rfl⟩ := List.mem_map.1 hname
  exact h.bare item

/-- Reserved names count as uses in front of all members. -/
theorem getElem?_unique (h : Suffixable key reserved) {items : List α} {i : Nat} {item : α}
    (hitem : items[i]? = some item) :
    (unique reserved (items.map key))[i]? = some (nthSpelling (key item)
      ((items.take (i + 1)).countP (key · = key item) + reserved.count (key item))) := by
  have hcount : ((items.map key).take (i + 1)).count (key item) =
      (items.take (i + 1)).countP (key · = key item) := by
    rw [← List.map_take, List.count, List.countP_map]
    rfl
  rw [h.unique_eq, getElem?_counted, List.getElem?_map, hitem, Option.map_some, Option.map_some,
    hcount]

theorem filter_zip_unique (h : Suffixable key reserved) (items : List α) (name : String) :
    (items.zip (unique reserved (items.map key))).filter (key ·.1 = name) =
      (items.filter (key · = name)).zip
        (unique reserved ((items.filter (key · = name)).map key)) := by
  rw [h.unique_eq, h.unique_eq]
  exact filter_zip_counted key items rfl

end Suffixable

end Naming

end Choreography
