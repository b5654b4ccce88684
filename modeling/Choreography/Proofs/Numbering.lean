import Choreography.Database

/-!
# Numbered names: reading them back, and finding one that is free

- `firstUnused`: the search that identifiers and module names share, for any numbered family of
  values. It ends at the least number whose value is not taken (`firstUnused_mem_of_lt`,
  `firstUnused_not_mem`): `taken.length + 1` different values cannot all be taken.
- `Identifier.number?_numbered`: a numbered identifier carries its number.
- `Identifier.fresh_not_mem` and `Identifier.lt_fresh`: a fresh identifier is not taken, and its
  number is above the last one.
-/

namespace Choreography

/-! ## The search -/

section Search

variable {α : Type} [DecidableEq α]

/-- The first number from `n` on whose value is not taken, at most `tries` further. -/
def firstUnused (value : Nat → α) (taken : List α) : (tries n : Nat) → Nat
  | 0, n => n
  | tries + 1, n => if value n ∈ taken then firstUnused value taken tries (n + 1) else n

variable {value : Nat → α} {taken : List α}

theorem le_firstUnused (tries n : Nat) : n ≤ firstUnused value taken tries n := by
  induction tries generalizing n with
  | zero => exact Nat.le_refl n
  | succ tries ih =>
    unfold firstUnused
    split
    · exact Nat.le_of_succ_le (ih (n + 1))
    · exact Nat.le_refl n

theorem firstUnused_le (tries n : Nat) : firstUnused value taken tries n ≤ n + tries := by
  induction tries generalizing n with
  | zero => exact Nat.le_refl n
  | succ tries ih =>
    unfold firstUnused
    split
    · exact Nat.le_trans (ih (n + 1)) (by omega)
    · exact Nat.le_add_right n _

/-- Every number that the search steps over is taken. -/
theorem firstUnused_mem_of_lt {tries n m : Nat} (hn : n ≤ m)
    (hm : m < firstUnused value taken tries n) : value m ∈ taken := by
  induction tries generalizing n with
  | zero => exact absurd hm (Nat.not_lt.2 hn)
  | succ tries ih =>
    unfold firstUnused at hm
    split at hm
    · next hmem =>
      rcases Nat.eq_or_lt_of_le hn with rfl | hlt
      · exact hmem
      · exact ih hlt hm
    · exact absurd hm (Nat.not_lt.2 hn)

/-- The search ends at a free number, or it has used up its tries. -/
theorem firstUnused_free_or (value : Nat → α) (taken : List α) (tries n : Nat) :
    value (firstUnused value taken tries n) ∉ taken ∨
      firstUnused value taken tries n = n + tries := by
  induction tries generalizing n with
  | zero => exact .inr rfl
  | succ tries ih =>
    unfold firstUnused
    split
    · rcases ih (n + 1) with h | h
      · exact .inl h
      · exact .inr (by omega)
    · next h => exact .inl h

/-- Different numbers have different values, so as many tries as there are taken values always
reach a free one. -/
theorem firstUnused_not_mem (hv : ∀ i j, value i = value j → i = j) (n : Nat) :
    value (firstUnused value taken taken.length n) ∉ taken := by
  rcases firstUnused_free_or value taken taken.length n with h | hend
  · exact h
  intro hlast
  -- All of `value n, …, value (n + taken.length)` are taken: one more than there is room for.
  have hsub : (List.range' n (taken.length + 1)).map value ⊆ taken := by
    intro a ha
    obtain ⟨m, hm, rfl⟩ := List.mem_map.1 ha
    obtain ⟨hle, hlt⟩ := List.mem_range'_1.1 hm
    by_cases heq : m = n + taken.length
    · rw [heq, ← hend]; exact hlast
    · have hm : m < firstUnused value taken taken.length n := by omega
      exact firstUnused_mem_of_lt hle hm
  have hrange : (List.range' n (taken.length + 1)).Nodup := List.nodup_range'
  have hnodup : ((List.range' n (taken.length + 1)).map value).Nodup :=
    List.pairwise_map.2 (hrange.imp fun hij h => hij (hv _ _ h))
  have := hnodup.length_le_of_subset hsub
  rw [List.length_map, List.length_range'] at this
  omega

/-- The search ends where everything in front is taken, and not further. -/
theorem firstUnused_eq (hv : ∀ i j, value i = value j → i = j) {n m : Nat} (hn : n ≤ m)
    (hbelow : ∀ k, n ≤ k → k < m → value k ∈ taken) (hfree : value m ∉ taken) :
    firstUnused value taken taken.length n = m := by
  have hend : value (firstUnused value taken taken.length n) ∉ taken := firstUnused_not_mem hv n
  refine Nat.le_antisymm (Nat.le_of_not_lt fun hlt => hfree (firstUnused_mem_of_lt hn hlt)) ?_
  exact Nat.le_of_not_lt fun hlt => hend (hbelow _ (le_firstUnused _ n) hlt)

end Search

/-- Decimal digits determine their number. -/
theorem toString_nat_injective {m n : Nat} (h : toString m = toString n) : m = n := by
  have hd : Nat.toDigits 10 m = Nat.toDigits 10 n := by
    simpa [Nat.toString_eq_ofList_toDigits] using congrArg String.toList h
  have := congrArg (Nat.ofDigitChars 10 · 0) hd
  simpa using this

namespace Identifier

variable {kind : Kind}

/-! ## Numbers in identifiers -/

theorem readNumber?_toDigits (n : Nat) :
    readNumber? (Nat.toDigits 10 n) = if n ≤ maxNumber then some n else none := by
  have hall : (Nat.toDigits 10 n).all Char.isDigit = true :=
    List.all_eq_true.2 fun c hc => Nat.isDigit_of_mem_toDigits (by decide) (by decide) hc
  have hne : Nat.toDigits 10 n ≠ [] := Nat.toDigits_ne_nil
  cases hd : Nat.toDigits 10 n with
  | nil => exact absurd hd hne
  | cons c rest =>
    rw [hd] at hall
    have hplus : c ≠ '+' := by
      rintro rfl
      simp at hall
    have hval : Nat.ofDigitChars 10 (c :: rest) 0 = n := by
      rw [← hd, Nat.ofDigitChars_ten_toDigits]
    unfold readNumber?
    simp [hplus, hall, hval]

@[simp] theorem toList_numbered (n : Nat) :
    (numbered kind n).text.toList = (kind.stem ++ "-").toList ++ Nat.toDigits 10 n := by
  simp [numbered]

/-- A numbered identifier carries its number, up to the largest one. -/
theorem number?_numbered (n : Nat) :
    (numbered kind n).number? = if n ≤ maxNumber then some n else none := by
  simp only [number?, toList_numbered, List.drop_left, readNumber?_toDigits]
  rw [if_pos (List.isPrefixOf_iff_prefix.2 (List.prefix_append _ _))]

theorem number?_numbered_of_le {n : Nat} (h : n ≤ maxNumber) :
    (numbered kind n).number? = some n := by
  rw [number?_numbered, if_pos h]

theorem eq_of_number?_numbered {m n : Nat} (h : (numbered kind n).number? = some m) : m = n := by
  rw [number?_numbered] at h
  split at h
  · exact (Option.some.inj h).symm
  · cases h

theorem numbered_injective {m n : Nat} (h : numbered kind m = numbered kind n) : m = n := by
  have ht := congrArg (·.text.toList) h
  simp only [toList_numbered, List.append_cancel_left_eq] at ht
  have := congrArg (Nat.ofDigitChars 10 · 0) ht
  simpa using this

/-! ## Fresh identifiers -/

theorem firstFree_eq_firstUnused (taken : List (Identifier kind)) (tries n : Nat) :
    firstFree taken tries n = firstUnused (numbered kind) taken tries n := by
  induction tries generalizing n with
  | zero => rfl
  | succ tries ih => simp only [firstFree, firstUnused, ih]

theorem snd_fresh (last : Nat) (taken : List (Identifier kind)) :
    (fresh last taken).2 = firstUnused (numbered kind) taken taken.length (last + 1) :=
  firstFree_eq_firstUnused taken taken.length (last + 1)

theorem fst_fresh (last : Nat) (taken : List (Identifier kind)) :
    (fresh last taken).1 = numbered kind (fresh last taken).2 := rfl

/-- The number of a fresh identifier is above the last one. -/
theorem lt_fresh (last : Nat) (taken : List (Identifier kind)) : last < (fresh last taken).2 := by
  rw [snd_fresh]
  exact le_firstUnused _ _

/-- A fresh identifier is not taken. -/
theorem fresh_not_mem (last : Nat) (taken : List (Identifier kind)) :
    (fresh last taken).1 ∉ taken := by
  rw [fst_fresh, snd_fresh]
  exact firstUnused_not_mem (fun _ _ => numbered_injective) _

/-! ## The highest number -/

theorem le_foldl_max (ns : List Nat) (m : Nat) : m ≤ ns.foldl max m := by
  induction ns generalizing m with
  | nil => exact Nat.le_refl m
  | cons n ns ih => exact Nat.le_trans (Nat.le_max_left m n) (ih _)

theorem le_foldl_max_of_mem {ns : List Nat} {n : Nat} (h : n ∈ ns) (m : Nat) :
    n ≤ ns.foldl max m := by
  induction ns generalizing m with
  | nil => cases h
  | cons k ns ih =>
    rcases List.mem_cons.1 h with rfl | h
    · exact Nat.le_trans (Nat.le_max_right m n) (le_foldl_max ns _)
    · exact ih h _

/-- No identifier of a list carries a number above the highest. -/
theorem number?_le_highestNumber {ids : List (Identifier kind)} {id : Identifier kind} {n : Nat}
    (hid : id ∈ ids) (hn : id.number? = some n) : n ≤ highestNumber ids :=
  le_foldl_max_of_mem (List.mem_filterMap.2 ⟨id, hid, hn⟩) 0

end Identifier

end Choreography
