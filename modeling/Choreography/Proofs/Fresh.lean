import Choreography.Proofs.Numbering
import Mathlib.Data.List.Forall2
import Mathlib.Data.List.Nodup

/-!
# A fresh identifier takes the least number that is free

- `LeastFree`: the number that is due, said without a search. There is one (`leastFree_fresh`), and
  only one (`LeastFree.eq`).
- `Search`: the search round by round, with no bound on the rounds, on a counter that ends at the
  largest number. It finds the number that is due, if the counter holds it, and nothing else
  (`search_iff`).
- `freshes`: calls one after the other, which share the counter. Their numbers grow from call to
  call (`isChain_freshes`), whatever is taken in between.
- `fresh_takes_least_number`: all of this together, with the numbers read back.
-/

namespace Choreography

namespace Identifier

variable {kind : Kind} {taken : List (Identifier kind)} {last m n rounds : Nat}

/-! ## The number that is due -/

/-- The least number above `last` whose identifier is not taken. -/
structure LeastFree (taken : List (Identifier kind)) (last n : Nat) : Prop where
  above : last < n
  free : numbered kind n ∉ taken
  least : ∀ m, last < m → m < n → numbered kind m ∈ taken

namespace LeastFree

theorem le (h : LeastFree taken last n) (hm : last < m) (hfree : numbered kind m ∉ taken) :
    n ≤ m :=
  Nat.le_of_not_lt fun hlt => hfree (h.least m hm hlt)

theorem eq (h : LeastFree taken last n) (h' : LeastFree taken last m) : n = m :=
  Nat.le_antisymm (h.le h'.above h'.free) (h'.le h.above h.free)

/-- The next number is due if it is free. -/
theorem next (free : numbered kind (last + 1) ∉ taken) : LeastFree taken last (last + 1) where
  above := Nat.lt_succ_self last
  free := free
  least m hm hlt := by omega

/-- If the next number is taken, the same number is due behind it. -/
theorem again_iff (used : numbered kind (last + 1) ∈ taken) :
    LeastFree taken last n ↔ LeastFree taken (last + 1) n := by
  constructor
  · intro h
    have hne : last + 1 ≠ n := fun heq => h.free (heq ▸ used)
    have habove := h.above
    exact ⟨by omega, h.free, fun m hm => h.least m (Nat.lt_of_succ_lt hm)⟩
  · intro h
    refine ⟨Nat.lt_of_succ_lt h.above, h.free, fun m hm hlt => ?_⟩
    rcases Nat.eq_or_lt_of_le (Nat.succ_le_of_lt hm) with rfl | hm
    · exact used
    · exact h.least m hm hlt

end LeastFree

/-- However many identifiers are taken, and whatever their texts are. -/
theorem leastFree_fresh (last : Nat) (taken : List (Identifier kind)) :
    LeastFree taken last (fresh last taken).2 where
  above := lt_fresh last taken
  free := fresh_not_mem last taken
  least m hm hlt := by
    rw [snd_fresh] at hlt
    exact firstUnused_mem_of_lt hm hlt

/-- Each number that is passed over uses up one of the identifiers that are taken. -/
theorem fresh_le (last : Nat) (taken : List (Identifier kind)) :
    (fresh last taken).2 ≤ last + 1 + taken.length := by
  rw [snd_fresh]
  exact firstUnused_le _ _

/-! ## Round by round -/

/-- The search, round by round: the counter moves on, and stays where its identifier is not taken.
A counter at the largest number cannot move on. -/
inductive Search (taken : List (Identifier kind)) : (counter rounds found : Nat) → Prop where
  | done {counter : Nat} (room : counter < maxNumber) (free : numbered kind (counter + 1) ∉ taken) :
    Search taken counter 1 (counter + 1)
  | again {counter rounds found : Nat} (room : counter < maxNumber)
      (used : numbered kind (counter + 1) ∈ taken)
      (rest : Search taken (counter + 1) rounds found) :
    Search taken counter (rounds + 1) found

theorem Search.leastFree (h : Search taken last rounds n) :
    LeastFree taken last n ∧ n ≤ maxNumber ∧ last + rounds = n := by
  induction h with
  | done room free => exact ⟨.next free, room, rfl⟩
  | again room used rest ih =>
    obtain ⟨hleast, hmax, hrounds⟩ := ih
    exact ⟨(LeastFree.again_iff used).2 hleast, hmax, by omega⟩

theorem LeastFree.search (h : LeastFree taken last n) (hmax : n ≤ maxNumber)
    (hrounds : last + rounds = n) : Search taken last rounds n := by
  induction rounds generalizing last with
  | zero => exact absurd h.above (by omega)
  | succ rounds ih =>
    have room : last < maxNumber := Nat.lt_of_lt_of_le h.above hmax
    -- while the next number is taken, the due one stays the same and comes a round nearer
    by_cases used : numbered kind (last + 1) ∈ taken
    · exact .again room used (ih ((LeastFree.again_iff used).1 h) (by omega))
    · obtain rfl : n = last + 1 := h.eq (.next used)
      obtain rfl : rounds = 0 := by omega
      exact .done room used

/-- What the search finds, and after how many rounds. -/
theorem search_iff : Search taken last rounds n ↔
    LeastFree taken last n ∧ n ≤ maxNumber ∧ last + rounds = n :=
  ⟨Search.leastFree, fun ⟨h, hmax, hrounds⟩ => h.search hmax hrounds⟩

/-! ## One call after the other -/

/-- Calls one after the other, each with the identifiers that are taken at its turn and with the
counter as the call before has left it. -/
def freshes (last : Nat) : List (List (Identifier kind)) → List (Identifier kind × Nat)
  | [] => []
  | taken :: calls => fresh last taken :: freshes (fresh last taken).2 calls

theorem forall₂_freshes (last : Nat) (calls : List (List (Identifier kind))) :
    List.Forall₂ (fun given taken => given.1 = numbered kind given.2 ∧ given.1 ∉ taken)
      (freshes last calls) calls := by
  induction calls generalizing last with
  | nil => exact .nil
  | cons taken calls ih => exact .cons ⟨fst_fresh last taken, fresh_not_mem last taken⟩ (ih _)

/-- The counter only grows. -/
theorem isChain_freshes (last : Nat) (calls : List (List (Identifier kind))) :
    List.IsChain (· < ·) (last :: (freshes last calls).map (·.2)) := by
  induction calls generalizing last with
  | nil => exact .singleton last
  | cons taken calls ih => exact .cons_cons (lt_fresh last taken) (ih _)

theorem map_fst_freshes (last : Nat) (calls : List (List (Identifier kind))) :
    (freshes last calls).map (·.1) = ((freshes last calls).map (·.2)).map (numbered kind) := by
  induction calls generalizing last with
  | nil => rfl
  | cons taken calls ih => exact congrArg (numbered kind _ :: ·) (ih _)

/-- If some number above the counter is free and not above the largest one, a call answers with the
identifier of the least such number and leaves the counter at that number. The search for it ends,
after at most one round more than identifiers are taken, and can end with nothing else. As long as
no number is above the largest one, calls one after the other answer with identifiers that are not
taken at their turn and carry their number; the numbers grow, and no two identifiers are alike. -/
theorem fresh_takes_least_number (kind : Kind) :
    (∀ (last : Nat) (taken : List (Identifier kind)),
      (∃ m, last < m ∧ m ≤ maxNumber ∧ numbered kind m ∉ taken) →
      ∃ n, fresh last taken = (numbered kind n, n) ∧ LeastFree taken last n ∧ n ≤ maxNumber ∧
        (∃ rounds ≤ taken.length + 1, Search taken last rounds n) ∧
        ∀ rounds found, Search taken last rounds found → found = n) ∧
    ∀ (last : Nat) (calls : List (List (Identifier kind))),
      (∀ given ∈ freshes last calls, given.2 ≤ maxNumber) →
      List.Forall₂ (fun given taken => given.1 ∉ taken ∧ given.1.number? = some given.2)
        (freshes last calls) calls ∧
      (last :: (freshes last calls).map (·.2)).Pairwise (· < ·) ∧
      ((freshes last calls).map (·.1)).Nodup := by
  constructor
  · rintro last taken ⟨m, hlast, hm, hfree⟩
    have hleast : LeastFree taken last (fresh last taken).2 := leastFree_fresh last taken
    have hmax : (fresh last taken).2 ≤ maxNumber := Nat.le_trans (hleast.le hlast hfree) hm
    -- the search takes as many rounds as the number is above the counter
    have hbound := fresh_le last taken
    have hrounds := Nat.add_sub_of_le (Nat.le_of_lt hleast.above)
    refine ⟨_, rfl, hleast, hmax, ⟨(fresh last taken).2 - last, by omega, ?_⟩, ?_⟩
    · exact search_iff.2 ⟨hleast, hmax, hrounds⟩
    · intro rounds found h
      exact (search_iff.1 h).1.eq hleast
  · intro last calls hmax
    -- each call starts from the number of the one before, so the numbers grow along all calls
    have hsorted : (last :: (freshes last calls).map (·.2)).Pairwise (· < ·) :=
      (isChain_freshes last calls).pairwise
    refine ⟨?_, hsorted, ?_⟩
    · refine ((List.forall₂_and_left _ _).2 ⟨hmax, forall₂_freshes last calls⟩).imp ?_
      rintro given taken ⟨hle, hnumbered, hfree⟩
      rw [hnumbered] at hfree ⊢
      exact ⟨hfree, number?_numbered_of_le hle⟩
    · rw [map_fst_freshes]
      have hnumbers : ((freshes last calls).map (·.2)).Nodup :=
        (List.pairwise_cons.1 hsorted).2.imp Nat.ne_of_lt
      exact hnumbers.map fun _ _ => numbered_injective

/-- Only the first of the taken identifiers is in the way: the others carry numbers, but in other
spellings, or none. -/
theorem fresh_takes_least_number_sample :
    let taken : List EnvironmentId := [⟨"env-5"⟩, ⟨"env-+6"⟩, ⟨"env-06"⟩, ⟨"bank"⟩]
    let calls : List (List EnvironmentId) := [taken, [⟨"env-8"⟩, ⟨"env-7"⟩], []]
    (∃ m, 4 < m ∧ m ≤ maxNumber ∧ numbered .environment m ∉ taken) ∧
    fresh 4 taken = (⟨"env-6"⟩, 6) ∧ LeastFree taken 4 6 ∧
    (∃ rounds ≤ 5, Search taken 4 rounds 6) ∧
    (∀ rounds found, Search taken 4 rounds found → found = 6) ∧
    (∀ given ∈ freshes 4 calls, given.2 ≤ maxNumber) ∧
    freshes 4 calls = [(⟨"env-6"⟩, 6), (⟨"env-9"⟩, 9), (⟨"env-10"⟩, 10)] ∧
    List.Forall₂ (fun given taken => given.1 ∉ taken ∧ given.1.number? = some given.2)
      (freshes 4 calls) calls ∧
    [4, 6, 9, 10].Pairwise (· < ·) := by
  intro taken calls
  have hroom : ∃ m, 4 < m ∧ m ≤ maxNumber ∧ numbered .environment m ∉ taken :=
    ⟨6, by decide, by decide, by decide⟩
  have hfresh : fresh 4 taken = (⟨"env-6"⟩, 6) := by decide
  have hfreshes : freshes 4 calls = [(⟨"env-6"⟩, 6), (⟨"env-9"⟩, 9), (⟨"env-10"⟩, 10)] := by decide
  have hmax : ∀ given ∈ freshes 4 calls, given.2 ≤ maxNumber := by decide
  obtain ⟨hone, hmore⟩ := fresh_takes_least_number .environment
  obtain ⟨n, hn, hleast, -, hends, honly⟩ := hone 4 taken hroom
  obtain rfl : n = 6 := congrArg (·.2) (hn.symm.trans hfresh)
  obtain ⟨hgiven, hsorted, -⟩ := hmore 4 calls hmax
  rw [hfreshes] at hsorted
  exact ⟨hroom, hfresh, hleast, hends, honly, hmax, hfreshes, hgiven, hsorted⟩

end Identifier

end Choreography
