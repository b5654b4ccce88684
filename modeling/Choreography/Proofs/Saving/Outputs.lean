import Choreography.Proofs.FileTree.Writing
import Choreography.Save

/-!
# Writing outputs to a tree

- `OutputStep`: everything that writing one output can do; `OutputSteps`: the same for several, in
  turn.
- `OutputSteps.at_output`: every output has been written in some tree on the way, and what was done
  before and after it kept away from its file if the other outputs go to other places.
- `outputSteps`: `Writer.writeAll` goes that way.
-/

namespace Choreography

namespace Writer

open FileTree

variable {t t' t'' : FileTree} {o : Output} {outputs before after : List Output} {r : Written}
variable {results : List (Path × Written)}

/-! ## One output -/

/-- Everything that writing one output can do: what becomes of it, and the tree after it. -/
inductive OutputStep (t : FileTree) (o : Output) : Written → FileTree → Prop where
  | unchanged (holds : t.read o.path = .ok o.text) : OutputStep t o .unchanged t
  | written {t' : FileTree} (differs : t.read o.path ≠ .ok o.text)
      (replaced : ReplaceStep t o.path o.text (.ok ()) t') : OutputStep t o .written t'
  | failed {t' : FileTree} (fault : StorageFault) (differs : t.read o.path ≠ .ok o.text)
      (failed : ReplaceStep t o.path o.text (.error fault) t') :
    OutputStep t o (.failed fault.error) t'

theorem run_read (p : Path) (t : FileTree) :
    (storage.read p).run t = (reported (t.read p), t) := rfl

theorem run_replace (p : Path) (text : String) (t : FileTree) :
    (storage.replace p text).run t = (reported (t.replace p text).1, (t.replace p text).2) := by
  rw [storage, StateT.run]

theorem outputStep_replace (differs : t.read o.path ≠ .ok o.text) :
    OutputStep t o ((writeOutput.replace storage o).run t).1
      ((writeOutput.replace storage o).run t).2 := by
  have hstep := replaceStep t o.path o.text
  rw [writeOutput.replace, StateT.run_bind, run_replace]
  rcases h : t.replace o.path o.text with ⟨fault | _, t'⟩
  · rw [h] at hstep
    exact .failed fault differs hstep
  · rw [h] at hstep
    exact .written differs hstep

theorem run_writeOutput (t : FileTree) (o : Output) : (writeOutput storage o).run t =
    if t.read o.path = .ok o.text then (.unchanged, t) else (writeOutput.replace storage o).run t := by
  rw [writeOutput, StateT.run_bind, run_read]
  cases t.read o.path with
  | error fault =>
    rw [if_neg nofun]
    rfl
  | ok text =>
    simp only [Except.ok.injEq]
    exact apply_ite (StateT.run · t) (text = o.text) (pure .unchanged) (writeOutput.replace storage o)

theorem outputStep (t : FileTree) (o : Output) :
    OutputStep t o ((writeOutput storage o).run t).1 ((writeOutput storage o).run t).2 := by
  rw [run_writeOutput]
  split
  · next holds => exact .unchanged holds
  · next differs => exact outputStep_replace differs

namespace OutputStep

theorem change (h : OutputStep t o r t') : Change (t.Above o.path) (· = t.place o.path) t t' := by
  cases h with
  | unchanged => exact .refl _ _ t
  | written _ replaced => exact replaced.change
  | failed _ _ failed => exact failed.change

theorem eq_unchanged_iff (h : OutputStep t o r t') :
    r = .unchanged ↔ t.read o.path = .ok o.text := by
  cases h with
  | unchanged holds => simp [holds]
  | written differs => simp [differs]
  | failed _ differs => simp [differs]

/-- An output that has not failed is there. -/
theorem read (h : OutputStep t o r t') (hr : ∀ e, r ≠ .failed e) :
    t'.read o.path = .ok o.text := by
  cases h with
  | unchanged holds => exact holds
  | written _ replaced => exact replaced.read
  | failed => exact absurd rfl (hr _)

end OutputStep

/-! ## Several outputs -/

/-- Everything that writing some outputs in turn can do. -/
inductive OutputSteps : FileTree → List Output → List (Path × Written) → FileTree → Prop where
  | nil (t : FileTree) : OutputSteps t [] [] t
  | cons {t t' t'' : FileTree} {o : Output} {r : Written} {rest : List Output}
      {results : List (Path × Written)} (step : OutputStep t o r t')
      (steps : OutputSteps t' rest results t'') :
    OutputSteps t (o :: rest) ((o.path, r) :: results) t''

theorem run_writeAll_cons (o : Output) (rest : List Output) (t : FileTree) :
    (writeAll storage (o :: rest)).run t =
      let first := (writeOutput storage o).run t
      let others := (writeAll storage rest).run first.2
      ((o.path, first.1) :: others.1, others.2) := rfl

theorem outputSteps (t : FileTree) (outputs : List Output) :
    OutputSteps t outputs ((writeAll storage outputs).run t).1
      ((writeAll storage outputs).run t).2 := by
  induction outputs generalizing t with
  | nil => exact .nil t
  | cons o rest ih => exact .cons (outputStep t o) (ih _)

namespace OutputSteps

theorem paths (h : OutputSteps t outputs results t') :
    results.map (·.1) = outputs.map (·.path) := by
  induction h with
  | nil => rfl
  | cons _ _ ih => rw [List.map_cons, List.map_cons, ih]

/-- Directories are made above the outputs, and files are put at their places. -/
theorem change (h : OutputSteps t outputs results t') :
    Change (fun x => ∃ o ∈ outputs, t.Above o.path x) (· ∈ outputs.map (t.place ·.path)) t t' := by
  induction h with
  | nil t => exact .refl _ _ t
  | @cons t t' t'' o r rest results step steps ih =>
    have hstep := step.change
    -- places are told from the working directory, which stays the same
    simp only [hstep.place, hstep.above] at ih
    refine (hstep.mono ?_ ?_).trans (ih.mono ?_ ?_)
    · exact fun x hx => ⟨o, List.mem_cons_self, hx⟩
    · rintro x rfl
      exact List.mem_cons_self
    · exact fun x ⟨o', ho', hx⟩ => ⟨o', List.mem_cons_of_mem o ho', hx⟩
    · exact fun x hx => List.mem_cons_of_mem _ hx

theorem split (h : OutputSteps t (before ++ after) results t') :
    ∃ done todo t₁, results = done ++ todo ∧ OutputSteps t before done t₁ ∧
      OutputSteps t₁ after todo t' := by
  induction before generalizing t results with
  | nil => exact ⟨[], results, t, rfl, .nil t, h⟩
  | cons o before ih =>
    cases h with
    | @cons _ t₀ _ _ r _ results step steps =>
      obtain ⟨done, todo, t₁, rfl, hbefore, hafter⟩ := ih steps
      exact ⟨(o.path, r) :: done, todo, t₁, rfl, .cons step hbefore, hafter⟩

/-- Every output has been written in some tree on the way. -/
theorem at_output (h : OutputSteps t (before ++ o :: after) results t') :
    ∃ done r todo t₁ t₂, results = done ++ (o.path, r) :: todo ∧
      OutputSteps t before done t₁ ∧ OutputStep t₁ o r t₂ ∧ OutputSteps t₂ after todo t' := by
  obtain ⟨done, todo, t₁, rfl, hbefore, hrest⟩ := h.split
  cases hrest with
  | cons step steps => exact ⟨done, _, _, t₁, _, rfl, hbefore, step, steps⟩

end OutputSteps

end Writer

end Choreography
