import Choreography.Naming.Unique
import Choreography.Proofs.Numbering
import Mathlib.Data.List.Forall2

/-!
# Unique names do not repeat

- `unused_not_mem`: the spelling that is chosen for a name is free.
- `unique_nodup` and `unique_not_reserved`: no two chosen names are alike, and none is reserved. So
  a reserved name can be put behind them (`unique_append_nodup`).
- `unique_append`: the names chosen in front do not depend on further ones.
- `unique_forall₂`: the chosen names are the given ones, in their order, at most with a numbered
  suffix. So what holds of the given names and is not lost by a suffix holds of them
  (`forall_mem_unique`).
-/

namespace Choreography

namespace Naming

theorem suffixed_injective (name : String) (i j : Nat) (h : suffixed name i = suffixed name j) :
    i = j := by
  have hlist := congrArg String.toList h
  simp only [suffixed, String.toList_append, List.append_cancel_left_eq] at hlist
  exact toString_nat_injective (String.toList_injective hlist)

theorem freeSuffix_eq_firstUnused (taken : List String) (name : String) (tries n : Nat) :
    freeSuffix taken name tries n = firstUnused (suffixed name) taken tries n := by
  induction tries generalizing n with
  | zero => rfl
  | succ tries ih => rw [freeSuffix, firstUnused, ih]

variable {reserved names : List String}

theorem unused_not_mem (taken : List String) (name : String) : unused taken name ∉ taken := by
  unfold unused
  split
  · rw [freeSuffix_eq_firstUnused]
    exact firstUnused_not_mem (suffixed_injective name) 2
  · assumption

/-- A name is kept or gets a suffix. -/
theorem unused_cases (taken : List String) (name : String) :
    unused taken name = name ∨ ∃ n, unused taken name = suffixed name n := by
  unfold unused
  split
  · exact .inr ⟨_, rfl⟩
  · exact .inl rfl

@[simp] theorem length_unique : (unique reserved names).length = names.length := by
  induction names generalizing reserved with
  | nil => rfl
  | cons name names ih => rw [unique, List.length_cons, List.length_cons, ih]

theorem unique_not_reserved {name : String} (h : name ∈ unique reserved names) :
    name ∉ reserved := by
  induction names generalizing reserved with
  | nil => cases h
  | cons first names ih =>
    rw [unique, List.mem_cons] at h
    rcases h with rfl | h
    · exact unused_not_mem reserved first
    · exact fun hr => ih h (List.mem_cons_of_mem _ hr)

theorem unique_nodup (reserved names : List String) : (unique reserved names).Nodup := by
  induction names generalizing reserved with
  | nil => exact List.nodup_nil
  | cons name names ih =>
    rw [unique, List.nodup_cons]
    -- each further name has been chosen with this one among the reserved ones
    exact ⟨fun h => unique_not_reserved h List.mem_cons_self, ih _⟩

/-- The chosen names and a reserved one do not repeat. -/
theorem unique_append_nodup {own : String} (h : own ∈ reserved) :
    (unique reserved names ++ [own]).Nodup := by
  rw [List.nodup_append]
  refine ⟨unique_nodup reserved names, List.pairwise_singleton _ own, ?_⟩
  rintro chosen hchosen _ hown rfl
  rw [List.mem_singleton.1 hown] at hchosen
  exact unique_not_reserved hchosen h

/-- Further names are chosen with the earlier ones reserved, so they change nothing in front. -/
theorem unique_append (reserved names more : List String) : unique reserved (names ++ more) =
    unique reserved names ++ unique ((unique reserved names).reverse ++ reserved) more := by
  induction names generalizing reserved with
  | nil => rfl
  | cons name names ih =>
    rw [List.cons_append, unique, unique, ih, List.cons_append, List.reverse_cons,
      List.append_assoc, List.singleton_append]

/-- Each chosen name is the given name at its place or has got a suffix. -/
theorem unique_forall₂ (reserved names : List String) :
    List.Forall₂ (fun chosen name => chosen = name ∨ ∃ n, chosen = suffixed name n)
      (unique reserved names) names := by
  induction names generalizing reserved with
  | nil => exact .nil
  | cons name names ih => exact .cons (unused_cases reserved name) (ih _)

/-- What holds of the given names and is not lost by a suffix holds of the chosen names. -/
theorem forall_mem_unique {P : String → Prop} (hnames : ∀ name ∈ names, P name)
    (hsuffixed : ∀ name n, P name → P (suffixed name n)) :
    ∀ chosen ∈ unique reserved names, P chosen := by
  induction names generalizing reserved with
  | nil => exact fun _ h => absurd h List.not_mem_nil
  | cons name names ih =>
    obtain ⟨hname, hnames⟩ := List.forall_mem_cons.1 hnames
    refine List.forall_mem_cons.2 ⟨?_, ih hnames⟩
    rcases unused_cases reserved name with heq | ⟨n, heq⟩
    · rwa [heq]
    · rw [heq]
      exact hsuffixed name n hname

theorem suffixed_eq (name : String) (n : Nat) : suffixed name n = name ++ ("_" ++ toString n) :=
  String.append_assoc

theorem underscore_mem_suffixed (name : String) (n : Nat) : '_' ∈ (suffixed name n).toList := by
  simp [suffixed_eq]

/-- A suffix consists of an underscore and digits. -/
theorem mem_suffix {n : Nat} {c : Char} (h : c ∈ ("_" ++ toString n).toList) :
    c = '_' ∨ c.isDigit = true := by
  rw [String.toList_append, List.mem_append] at h
  rcases h with h | h
  · exact .inl (List.mem_singleton.1 h)
  · rw [Nat.toString_eq_ofList_toDigits, String.toList_ofList] at h
    exact .inr (Nat.isDigit_of_mem_toDigits (by decide) (by decide) h)

end Naming

end Choreography
