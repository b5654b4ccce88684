import Choreography.Text.Occurrence

/-!
# Texts within texts

- `Text.occursIn_iff_infix`: the search finds exactly the texts that stand within another one.
- `Text.Within.join` and `Text.Within.intercalate`: what is joined stands within the joined text.
-/

namespace Choreography

namespace Text

theorem occursIn_iff_infix {part text : List Char} :
    occursIn part text = true ↔ part <:+: text := by
  induction text with
  | nil =>
    rw [occursIn, List.isEmpty_iff]
    exact List.infix_nil.symm
  | cons c rest ih =>
    rw [occursIn, Bool.or_eq_true, ih, List.isPrefixOf_iff_prefix]
    exact List.infix_cons_iff.symm

/-- The first text stands somewhere within the second. -/
def Within (part text : String) : Prop :=
  part.toList <:+: text.toList

namespace Within

variable {a b part text : String}

theorem refl (part : String) : Within part part := List.infix_refl _

theorem append_left (h : Within part b) (a : String) : Within part (a ++ b) := by
  rw [Within, String.toList_append]
  exact List.IsInfix.trans h (List.suffix_append a.toList b.toList).isInfix

theorem append_right (h : Within part a) (b : String) : Within part (a ++ b) := by
  rw [Within, String.toList_append]
  exact List.IsInfix.trans h (List.prefix_append a.toList b.toList).isInfix

theorem join {texts : List String} (h : Within part text) (ht : text ∈ texts) :
    Within part (String.join texts) := by
  induction texts with
  | nil => cases ht
  | cons first texts ih =>
    rw [String.join_cons]
    rcases List.mem_cons.1 ht with rfl | ht
    · exact h.append_right _
    · exact (ih ht).append_left _

theorem intercalate {texts : List String} (h : Within part text) (ht : text ∈ texts)
    (separator : String) : Within part (separator.intercalate texts) := by
  induction texts with
  | nil => cases ht
  | cons first texts ih =>
    cases texts with
    | nil =>
      rw [List.mem_singleton.1 ht] at h
      rwa [String.intercalate_singleton]
    | cons second texts =>
      rw [String.intercalate_cons_cons]
      rcases List.mem_cons.1 ht with rfl | ht
      · exact (h.append_right _).append_right _
      · exact (ih ht).append_left _

end Within

end Text

end Choreography
