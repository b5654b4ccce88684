import Choreography.Backend.RustLiteral
import Mathlib.Tactic.SplitIfs

/-!
# How literals are spelled

- `Text.Sealed`: each quote and each backslash of a text belongs to an escape, so the text can stand
  between quotes.
- `RustLiteral.Spelling`: the ways in which one character is spelled, and `RustLiteral.Spelled` those
  of a text. What is spelled is sealed, and free of control characters if these are invisible.
-/

namespace Choreography

/-! ## Characters -/

/-- Control characters are not visible. -/
theorem Text.visible_eq_false : ∀ c < ' ', Text.visible c = false := by
  intro c hc
  have hlt : c.toNat < 0x20 := hc
  rw [visible, if_pos (by omega)]
  exact decide_eq_false (by omega)

namespace Rust

/-- A character that stands for itself in a literal. -/
def IsPlain (c : Char) : Prop := c ≠ '"' ∧ c ≠ '\\'

instance (c : Char) : Decidable (IsPlain c) := inferInstanceAs (Decidable (_ ∧ _))

theorem exists_digit_of_mem_hex {n : Nat} {c : Char} (h : c ∈ Text.hex n) :
    ∃ d < 16, c = Nat.digitChar d := by
  induction n using Nat.strongRecOn with
  | ind n ih =>
    rw [Text.hex, Nat.toDigits_eq_if (by decide)] at h
    split at h
    · exact ⟨n, ‹_›, List.mem_singleton.1 h⟩
    · rcases List.mem_append.1 h with h | h
      · exact ih (n / 16) (by omega) h
      · exact ⟨n % 16, Nat.mod_lt n (by decide), List.mem_singleton.1 h⟩

/-- A hexadecimal digit stands for itself. -/
theorem isPlain_of_mem_hex {n : Nat} {c : Char} (h : c ∈ Text.hex n) : IsPlain c := by
  have hdigits : ∀ d < 16, IsPlain (Nat.digitChar d) := by decide
  obtain ⟨d, hd, rfl⟩ := exists_digit_of_mem_hex h
  exact hdigits d hd

end Rust

/-! ## Sealed texts -/

namespace Text

/-- No escape is left open, and each quote and each backslash belongs to one. -/
inductive Sealed : List Char → Prop where
  | nil : Sealed []
  | plain {c : Char} {rest : List Char} (hc : Rust.IsPlain c) (h : Sealed rest) : Sealed (c :: rest)
  | escape (c : Char) {rest : List Char} (h : Sealed rest) : Sealed ('\\' :: c :: rest)

namespace Sealed

variable {cs ds : List Char}

theorem of_plain (h : ∀ c ∈ cs, Rust.IsPlain c) : Sealed cs := by
  induction cs with
  | nil => exact .nil
  | cons c cs ih =>
    obtain ⟨hc, hcs⟩ := List.forall_mem_cons.1 h
    exact .plain hc (ih hcs)

theorem append (h : Sealed cs) (h' : Sealed ds) : Sealed (cs ++ ds) := by
  induction h with
  | nil => exact h'
  | plain hc _ ih => exact .plain hc ih
  | escape c _ ih => exact .escape c ih

end Sealed

end Text

/-! ## Spelled texts -/

namespace RustLiteral

open Text (Sealed)

/-- The letters behind a backslash that spell one character. -/
def letters : List (Char × Char) :=
  [ ('n', '\n'), ('r', '\r'), ('t', '\t'), ('0', '\x00')
  , ('\\', '\\'), ('\x27', '\x27'), ('"', '"') ]

variable {isVisible : Char → Bool}

/-- The ways in which one character is spelled. -/
inductive Spelling (isVisible : Char → Bool) (c : Char) : List Char → Prop where
  | letter {letter : Char} (h : (letter, c) ∈ letters) : Spelling isVisible c ['\\', letter]
  | null (h : c = '\x00') : Spelling isVisible c ['\\', 'x', '0', '0']
  | plain (hplain : Rust.IsPlain c) (hreturn : c ≠ '\r') (hvisible : isVisible c = true) :
    Spelling isVisible c [c]
  | codePoint : Spelling isVisible c (['\\', 'u', '\x7b'] ++ Text.hex c.toNat ++ ['\x7d'])

theorem spelling_escapeChar (isVisible : Char → Bool) (c : Char) :
    Spelling isVisible c (Text.escapeChar isVisible c) := by
  unfold Text.escapeChar
  split_ifs with hnull htab hreturn hfeed hquote hbackslash hvisible
  · subst hnull; exact .letter (by decide)
  · subst htab; exact .letter (by decide)
  · subst hreturn; exact .letter (by decide)
  · subst hfeed; exact .letter (by decide)
  · subst hquote; exact .letter (by decide)
  · subst hbackslash; exact .letter (by decide)
  · exact .plain ⟨hquote, hbackslash⟩ hreturn hvisible
  · exact .codePoint

/-- A text is spelled one character after the other. -/
inductive Spelled (isVisible : Char → Bool) : (cs spelling : List Char) → Prop where
  | nil : Spelled isVisible [] []
  | cons {c : Char} {piece cs spelling : List Char} (h : Spelling isVisible c piece)
    (hrest : Spelled isVisible cs spelling) : Spelled isVisible (c :: cs) (piece ++ spelling)

theorem spelled_body (isVisible : Char → Bool) (cs : List Char) :
    Spelled isVisible cs (body isVisible cs) := by
  induction cs with
  | nil => exact .nil
  | cons c cs ih =>
    refine .cons ?_ ih
    split
    · next hnull =>
      subst hnull
      unfold null
      split
      · exact .null rfl
      · exact .letter (by decide)
    · exact spelling_escapeChar isVisible c

namespace Spelling

variable {c : Char} {piece : List Char}

theorem isSealed (h : Spelling isVisible c piece) : Sealed piece := by
  cases h with
  | letter => exact .escape _ .nil
  | null => exact .escape 'x' (.plain (by decide) (.plain (by decide) .nil))
  | plain hplain => exact .plain hplain .nil
  | codePoint =>
    have hdigits : Sealed (Text.hex c.toNat) := .of_plain fun _ => Rust.isPlain_of_mem_hex
    exact .escape 'u' (.plain (by decide) (hdigits.append (.plain (by decide) .nil)))

theorem space_le (h : Spelling isVisible c piece) (hcontrols : ∀ c < ' ', isVisible c = false) :
    ∀ d ∈ piece, ' ' ≤ d := by
  have hbackslash : ' ' ≤ '\\' := by decide
  cases h with
  | letter hletter =>
    have hletters : letters.all (' ' ≤ ·.1) = true := by decide
    have hspace := of_decide_eq_true (List.all_eq_true.1 hletters _ hletter)
    exact List.forall_mem_cons.2 ⟨hbackslash, List.forall_mem_singleton.2 hspace⟩
  | null =>
    have hbyte : ['\\', 'x', '0', '0'].all (' ' ≤ ·) = true := by decide
    exact fun d hd => of_decide_eq_true (List.all_eq_true.1 hbyte d hd)
  | plain _ _ hvisible =>
    refine List.forall_mem_singleton.2 (Char.not_lt.1 fun hc => ?_)
    rw [hcontrols c hc] at hvisible
    cases hvisible
  | codePoint =>
    have hdigits : ∀ n < 16, ' ' ≤ Nat.digitChar n := by decide
    intro d hd
    simp only [List.mem_append, List.mem_cons, List.not_mem_nil, or_false] at hd
    rcases hd with ((rfl | rfl | rfl) | hhex) | rfl
    · exact hbackslash
    · decide
    · decide
    · obtain ⟨n, hn, rfl⟩ := Rust.exists_digit_of_mem_hex hhex
      exact hdigits n hn
    · decide

end Spelling

namespace Spelled

variable {cs spelling : List Char}

theorem isSealed (h : Spelled isVisible cs spelling) : Sealed spelling := by
  induction h with
  | nil => exact .nil
  | cons hpiece _ ih => exact hpiece.isSealed.append ih

theorem space_le (h : Spelled isVisible cs spelling) (hcontrols : ∀ c < ' ', isVisible c = false) :
    ∀ d ∈ spelling, ' ' ≤ d := by
  induction h with
  | nil => exact fun _ h => absurd h List.not_mem_nil
  | cons hpiece _ ih => exact List.forall_mem_append.2 ⟨hpiece.space_le hcontrols, ih⟩

end Spelled

end RustLiteral

end Choreography
