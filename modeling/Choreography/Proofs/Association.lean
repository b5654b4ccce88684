/-!
# Association lists with one entry taken out

Pending selections and file trees are association lists that are changed by taking out the entry of
a key and putting a new one in front.
-/

namespace Choreography

variable {κ β : Type} [BEq κ] [LawfulBEq κ] [DecidableEq κ]

theorem lookup_filter_self (k : κ) (l : List (κ × β)) : (l.filter (·.1 ≠ k)).lookup k = none := by
  rw [List.lookup_eq_none_iff]
  intro p hp
  have hne : p.1 ≠ k := by simpa using (List.mem_filter.1 hp).2
  simpa using Ne.symm hne

theorem lookup_filter_of_ne {k k' : κ} (h : k' ≠ k) (l : List (κ × β)) :
    (l.filter (·.1 ≠ k)).lookup k' = l.lookup k' := by
  induction l with
  | nil => rfl
  | cons p l ih =>
    by_cases hp : p.1 = k
    · have hne : (k' == p.1) = false := by simpa [hp] using h
      rw [List.filter_cons_of_neg (by simpa using hp), List.lookup_cons, hne, ih]
    · rw [List.filter_cons_of_pos (by simpa using hp), List.lookup_cons, List.lookup_cons, ih]

end Choreography
