import Choreography.Proofs.Json.Strings
import Choreography.Proofs.Texts
import Mathlib.Data.List.Infix

/-!
# Where a spelled text stands within another one

A spelled text begins and ends with a quote, and quotes within it are escaped. So it is found in
other places than its own: a quote that begins it can be an escaped one, or one that ends another
text.

- `Echoes text event`: the spelled event is found in the spelled text.
- `within_spelled_iff`: what is found in a text with one spelled text in it.
- `infix_append_cons_iff`: what has no line end is found within a line.
-/

namespace Choreography

/-! ## Parts of lists -/

section

variable {α : Type} {a : α} {part before after : List α}

theorem prefix_append_cons_iff (h : a ∉ part) :
    part <+: before ++ a :: after ↔ part <+: before := by
  constructor
  · intro hp
    have hbefore : before <+: before ++ a :: after := List.prefix_append before (a :: after)
    rcases List.prefix_or_prefix_of_prefix hp hbefore with hp' | hp'
    · exact hp'
    · obtain ⟨rest, rfl⟩ := hp'
      rw [List.prefix_append_right_inj] at hp
      cases rest with
      | nil => rw [List.append_nil]
      | cons b rest =>
        obtain ⟨rfl, -⟩ := List.cons_prefix_cons.1 hp
        exact absurd (List.mem_append_right before List.mem_cons_self) h
  · intro hp
    exact hp.trans (List.prefix_append before (a :: after))

/-- A part without the member in between stands before or behind it. -/
theorem infix_append_cons_iff (h : a ∉ part) :
    part <:+: before ++ a :: after ↔ part <:+: before ∨ part <:+: after := by
  induction before with
  | nil =>
    rw [List.nil_append, List.infix_cons_iff, List.infix_nil]
    refine or_congr_left ⟨fun hp => ?_, fun hp => hp ▸ List.nil_prefix⟩
    exact List.prefix_nil.1 ((prefix_append_cons_iff h).1 hp)
  | cons b before ih =>
    rw [List.cons_append, List.infix_cons_iff, List.infix_cons_iff, ih, ← List.cons_append,
      prefix_append_cons_iff h, or_assoc]

/-- A part begins where its first member stands. -/
theorem infix_append_of_not_mem (h : a ∉ before) :
    a :: part <:+: before ++ after ↔ a :: part <:+: after := by
  induction before with
  | nil => rfl
  | cons b before ih =>
    rw [List.mem_cons, not_or] at h
    obtain ⟨hb, hbefore⟩ := h
    rw [List.cons_append, List.infix_cons_iff, List.cons_prefix_cons, ih hbefore]
    exact or_iff_right fun hp => hb hp.1

end

instance (part text : String) : Decidable (Text.Within part text) :=
  inferInstanceAs (Decidable (_ <:+: _))

namespace Json

variable {event text : String} {rest : List Char}

/-! ## Spelled texts -/

/-- A quote is escaped, and no other escape contains one. -/
theorem quoteMark_not_mem_escape {c : Char} (hc : c ≠ '"') : '"' ∉ escape c := by
  have hdigit : ∀ n, '"' ≠ hexChar n := fun n h => by
    have := hexDigit?_hexChar (n % 16) (Nat.mod_lt n (by decide))
    rw [show hexChar (n % 16) = hexChar n by simp [hexChar], ← h] at this
    cases this
  unfold escape
  rw [if_neg hc]
  repeat' split
  all_goals first
    | decide
    | simp [hdigit, Ne.symm hc]

/-- A spelled text is told by its characters up to the closing quote. -/
theorem quoted_prefix_iff (event : String) (cs rest : List Char) :
    quoted event.toList <+: '"' :: (cs.flatMap escape ++ '"' :: rest) ↔ cs = event.toList := by
  rw [quoted, List.cons_append, List.cons_prefix_cons, and_iff_right rfl]
  constructor
  · rintro ⟨more, hmore⟩
    rw [List.append_assoc, List.singleton_append] at hmore
    have hevent := readStringBody_escaped event more
    have htext := readStringBody_escaped (String.ofList cs) rest
    rw [String.toList_ofList, ← hmore, hevent] at htext
    rw [(Prod.mk.inj (Except.ok.inj htext)).1, String.toList_ofList]
  · rintro rfl
    rw [List.prefix_append_right_inj]
    exact ⟨rest, rfl⟩

theorem mem_quote (event : String) : '"' ∈ (quote event).toList := by
  simp [quote, quoted]

/-- One quote is not enough for a spelled text. -/
theorem not_quoted_infix (event : String) (h : '"' ∉ rest) :
    ¬ quoted event.toList <:+: '"' :: rest := by
  intro hinfix
  have hcount := hinfix.sublist.count_le '"'
  simp [quoted, List.count_eq_zero_of_not_mem h] at hcount

/-! ## Their occurrences -/

/-- The text is the event, or it ends with a quote and the event. -/
def Echoes (text event : String) : Prop :=
  text = event ∨ '"' :: event.toList <:+ text.toList

instance (text event : String) : Decidable (Echoes text event) :=
  inferInstanceAs (Decidable (_ ∨ _))

/-- Behind the opening quote of a text, a spelled event begins at an escaped quote, or not before
the closing quote. -/
theorem quoted_infix_characters_iff (event : String) (cs rest : List Char) :
    quoted event.toList <:+: cs.flatMap escape ++ '"' :: rest ↔
      '"' :: event.toList <:+ cs ∨ quoted event.toList <:+: '"' :: rest := by
  induction cs with
  | nil => simp
  | cons c cs ih =>
    rw [List.flatMap_cons, List.append_assoc, List.suffix_cons_iff]
    -- a quoted text begins with a bare quotation mark, and an escape has one for a quotation mark
    -- only
    by_cases hc : c = '"'
    · subst hc
      have hescape : escape '"' ++ (cs.flatMap escape ++ '"' :: rest) =
          ['\\'] ++ '"' :: (cs.flatMap escape ++ '"' :: rest) := rfl
      have hbackslash : '"' ∉ ['\\'] := by decide
      have hsuffix : '"' :: event.toList = '"' :: cs ↔ cs = event.toList := by
        rw [List.cons.injEq, and_iff_right rfl, eq_comm]
      rw [hescape, quoted, List.cons_append, infix_append_of_not_mem hbackslash, ← List.cons_append,
        ← quoted, List.infix_cons_iff, quoted_prefix_iff, hsuffix, ih, or_assoc]
    · have hne : '"' :: event.toList ≠ c :: cs := fun h => hc (List.cons.inj h).1.symm
      rw [quoted, List.cons_append, infix_append_of_not_mem (quoteMark_not_mem_escape hc),
        ← List.cons_append, ← quoted, ih, or_iff_right hne]

/-- In a text with one spelled text in it, a spelled event is found if the text echoes it, or from
the closing quote on. -/
theorem within_spelled_iff {before after : String} (event text : String)
    (h : '"' ∉ before.toList) : Text.Within (quote event) (before ++ quote text ++ after) ↔
      Echoes text event ∨ Text.Within (quote event) ("\"" ++ after) := by
  have hquote : ∀ s, (quote s).toList = quoted s.toList := fun _ => String.toList_ofList
  have htext : (before ++ quote text ++ after).toList = before.toList ++
      '"' :: (text.toList.flatMap escape ++ '"' :: after.toList) := by
    simp [hquote, quoted]
  have hafter : ("\"" ++ after).toList = '"' :: after.toList := by simp
  rw [Text.Within, Text.Within, hquote, htext, hafter, quoted, List.cons_append,
    infix_append_of_not_mem h, ← List.cons_append, ← quoted, List.infix_cons_iff, quoted_prefix_iff,
    quoted_infix_characters_iff, Echoes, String.toList_inj, or_assoc]

/-- The same, if no further quotes follow. -/
theorem within_only_spelled_iff {before after : String} (event text : String)
    (hbefore : '"' ∉ before.toList) (hafter : '"' ∉ after.toList) :
    Text.Within (quote event) (before ++ quote text ++ after) ↔ Echoes text event := by
  rw [within_spelled_iff event text hbefore, or_iff_left]
  intro h
  refine not_quoted_infix event hafter ?_
  simpa [Text.Within, quote] using h

end Json

end Choreography
