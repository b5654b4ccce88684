/-!
# Sets that remember the order of arrival

`OrderedSet α` is a list without repeats. Inserting a member that is already there changes
nothing, a new one goes to the end; erasing keeps the order of the others.
-/

namespace Choreography

/-- Appends `a` unless the list has it already. -/
def appendNew {α : Type} [DecidableEq α] (l : List α) (a : α) : List α :=
  if a ∈ l then l else l ++ [a]

theorem nodup_appendNew {α : Type} [DecidableEq α] {l : List α} (h : l.Nodup) (a : α) :
    (appendNew l a).Nodup := by
  unfold appendNew
  split
  · exact h
  · next ha =>
    refine List.nodup_append.2 ⟨h, by simp, ?_⟩
    intro x hx y hy
    rw [List.mem_singleton] at hy
    rintro rfl
    exact ha (hy ▸ hx)

theorem mem_appendNew {α : Type} [DecidableEq α] {l : List α} {a x : α} :
    x ∈ appendNew l a ↔ x ∈ l ∨ x = a := by
  unfold appendNew
  split
  · next ha =>
    constructor
    · exact .inl
    · rintro (h | rfl)
      · exact h
      · exact ha
  · simp

/-- A set whose members are listed in the order in which they were inserted. -/
structure OrderedSet (α : Type) where
  /-- The members, oldest first. -/
  toList : List α
  nodup : toList.Nodup
  deriving DecidableEq

namespace OrderedSet

variable {α : Type}

/-- The set without members. -/
def empty : OrderedSet α := ⟨[], List.nodup_nil⟩

instance : EmptyCollection (OrderedSet α) := ⟨empty⟩

instance : Inhabited (OrderedSet α) := ⟨∅⟩

instance : Membership α (OrderedSet α) := ⟨fun s a => a ∈ s.toList⟩

instance [DecidableEq α] (a : α) (s : OrderedSet α) : Decidable (a ∈ s) :=
  inferInstanceAs (Decidable (a ∈ s.toList))

/-- Inserts at the end; a member that is already there keeps its place. -/
def insert [DecidableEq α] (s : OrderedSet α) (a : α) : OrderedSet α :=
  ⟨appendNew s.toList a, nodup_appendNew s.nodup a⟩

/-- Takes a member out; the others keep their order. -/
def erase [DecidableEq α] (s : OrderedSet α) (a : α) : OrderedSet α :=
  ⟨s.toList.filter (· ≠ a), s.nodup.filter _⟩

/-- The members of a list, each at its first place. -/
def ofList [DecidableEq α] (l : List α) : OrderedSet α :=
  l.foldl insert ∅

@[ext] theorem ext {s t : OrderedSet α} (h : s.toList = t.toList) : s = t := by
  cases s
  cases t
  cases h
  rfl

@[simp] theorem toList_empty : (∅ : OrderedSet α).toList = [] := rfl

theorem mem_toList {s : OrderedSet α} {a : α} : a ∈ s.toList ↔ a ∈ s := Iff.rfl

@[simp] theorem not_mem_empty (a : α) : a ∉ (∅ : OrderedSet α) :=
  List.not_mem_nil

variable [DecidableEq α]

@[simp] theorem mem_insert {s : OrderedSet α} {a x : α} : x ∈ s.insert a ↔ x ∈ s ∨ x = a :=
  mem_appendNew

@[simp] theorem mem_erase {s : OrderedSet α} {a x : α} : x ∈ s.erase a ↔ x ∈ s ∧ x ≠ a := by
  rw [← mem_toList, ← mem_toList, erase]
  simp

theorem insert_of_mem {s : OrderedSet α} {a : α} (h : a ∈ s) : s.insert a = s :=
  ext (if_pos h)

/-- What was there before stays in front. -/
theorem toList_insert (s : OrderedSet α) (a : α) :
    (s.insert a).toList = s.toList ++ [a].filter (· ∉ s) := by
  by_cases h : a ∈ s
  · simp [insert_of_mem h, h]
  · have hnew : (s.insert a).toList = s.toList ++ [a] := if_neg h
    simp [hnew, h]

/-- A list without repeats is inserted as it stands. -/
theorem toList_foldl_insert (s : OrderedSet α) (l : List α) (h : (s.toList ++ l).Nodup) :
    (l.foldl insert s).toList = s.toList ++ l := by
  induction l generalizing s with
  | nil => simp
  | cons a l ih =>
    have ha : a ∉ s.toList := fun hs => (List.nodup_append.1 h).2.2 a hs a (by simp) rfl
    have hi : (s.insert a).toList = s.toList ++ [a] := by simp [insert, appendNew, ha]
    rw [List.foldl_cons, ih (s.insert a) (by simpa [hi] using h), hi]
    simp

/-- The members of a set, inserted in their order, make the same set. -/
@[simp] theorem ofList_toList (s : OrderedSet α) : ofList s.toList = s := by
  apply ext
  rw [ofList, toList_foldl_insert ∅ s.toList (by simpa using s.nodup)]
  simp

end OrderedSet

end Choreography
