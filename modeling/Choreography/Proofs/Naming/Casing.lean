import Choreography.Naming.Casing

/-!
# The characters of generated names

- `isPart_words`: a word is not empty, and made of ASCII letters and digits.
- `Casing.nameChars_head` and `Casing.mem_nameChars`: whatever the text, a generated name begins
  with a letter and holds nothing but letters, digits and separators.
- `Casing.nameChars_head_isUpper`: in capitals, the first letter is one.
-/

namespace Choreography

namespace Naming

/-! ## ASCII letters and digits -/

theorem toNat_lt_of_isAlphanum {c : Char} (h : c.isAlphanum = true) : c.toNat < 128 := by
  have hrange : c.val ≤ 'Z'.val ∨ c.val ≤ 'z'.val ∨ c.val ≤ '9'.val := by
    rcases Bool.or_eq_true_iff.1 h with hletter | hdigit
    · rcases Bool.or_eq_true_iff.1 hletter with hupper | hlower
      · exact .inl (of_decide_eq_true hupper).2
      · exact .inr (.inl (of_decide_eq_true (Bool.and_eq_true_iff.1 hlower).2))
    · exact .inr (.inr (of_decide_eq_true (Bool.and_eq_true_iff.1 hdigit).2))
  have hz : 'z'.val.toNat = 122 := rfl
  have hZ : 'Z'.val.toNat = 90 := rfl
  have h9 : '9'.val.toNat = 57 := rfl
  rw [← Char.toNat_val]
  simp only [UInt32.le_iff_toNat_le, hz, hZ, h9] at hrange
  omega

/-- What holds of the letters and digits among the first 128 characters holds of all of them. -/
theorem forall_alphanum {P : Char → Prop}
    (h : ∀ n < 128, (Char.ofNat n).isAlphanum = true → P (Char.ofNat n)) {c : Char}
    (hc : c.isAlphanum = true) : P c := by
  have := h c.toNat (toNat_lt_of_isAlphanum hc)
  rw [Char.ofNat_toNat] at this
  exact this hc

theorem isAlphanum_toLower {c : Char} (h : c.isAlphanum = true) : c.toLower.isAlphanum = true := by
  refine forall_alphanum (P := fun c => c.toLower.isAlphanum = true) ?_ h
  decide

theorem isAlphanum_toUpper {c : Char} (h : c.isAlphanum = true) : c.toUpper.isAlphanum = true := by
  refine forall_alphanum (P := fun c => c.toUpper.isAlphanum = true) ?_ h
  decide

theorem isUpper_or_isDigit_toUpper {c : Char} (h : c.isAlphanum = true) :
    c.toUpper.isUpper = true ∨ c.toUpper.isDigit = true := by
  refine forall_alphanum (P := fun c => c.toUpper.isUpper = true ∨ c.toUpper.isDigit = true) ?_ h
  decide

/-- A letter or digit that is no digit is a letter. -/
theorem isAlpha_of_isAlphanum {c : Char} (h : c.isAlphanum = true) (hd : c.isDigit = false) :
    c.isAlpha = true := by
  rcases Bool.or_eq_true_iff.1 h with halpha | hdigit
  · exact halpha
  · rw [hdigit] at hd
    cases hd

theorem isDigit_eq_false_of_isAlpha {c : Char} (h : c.isAlpha = true) : c.isDigit = false := by
  have halphanum : c.isAlphanum = true := Bool.or_eq_true_iff.2 (.inl h)
  refine forall_alphanum (P := fun c => c.isAlpha = true → c.isDigit = false) ?_ halphanum h
  decide

/-! ## Words -/

/-- A part of a name: at least one letter or digit, and nothing else. -/
def IsPart (part : List Char) : Prop :=
  part ≠ [] ∧ ∀ c ∈ part, c.isAlphanum = true

theorem IsPart.cons {c : Char} {part : List Char} (hc : c.isAlphanum = true)
    (h : ∀ x ∈ part, x.isAlphanum = true) : IsPart (c :: part) := by
  refine ⟨List.cons_ne_nil c part, fun x hx => ?_⟩
  rcases List.mem_cons.1 hx with rfl | hx
  · exact hc
  · exact h x hx

theorem isPart_words (text : List Char) : ∀ word ∈ words text, IsPart word := by
  fun_induction words text with
  | case1 => exact fun _ h => absurd h List.not_mem_nil
  | case2 c rest hc next first more hwords hhead hjoins ih =>
    -- the character joins the first word
    rw [hwords] at ih
    obtain ⟨hfirst, hmore⟩ := List.forall_mem_cons.1 ih
    exact List.forall_mem_cons.2 ⟨.cons (isAlphanum_toLower hc) hfirst.2, hmore⟩
  | case3 c rest hc next first more hwords hhead hjoins ih =>
    rw [hwords] at ih
    exact List.forall_mem_cons.2 ⟨.cons (isAlphanum_toLower hc) (by simp), ih⟩
  | case4 c rest hc hother ih =>
    exact List.forall_mem_cons.2 ⟨.cons (isAlphanum_toLower hc) (by simp), ih⟩
  | case5 c rest hc ih => exact ih

theorem IsPart.capitalized {part : List Char} (h : IsPart part) : IsPart (capitalized part) := by
  obtain ⟨hne, hchars⟩ := h
  cases part with
  | nil => exact absurd rfl hne
  | cons c rest =>
    exact .cons (isAlphanum_toUpper (hchars c List.mem_cons_self)) fun x hx =>
      hchars x (List.mem_cons_of_mem c hx)

/-! ## Names -/

/-- What holds of the first character is not changed by what comes behind. -/
theorem head?_any_append {p : Char → Bool} {text : List Char} (h : text.head?.any p = true)
    (more : List Char) : (text ++ more).head?.any p = true := by
  cases text with
  | nil => cases h
  | cons c rest => exact h

theorem mem_intercalate {sep : List Char} {parts : List (List Char)} {c : Char}
    (h : c ∈ sep.intercalate parts) : c ∈ sep ∨ ∃ part ∈ parts, c ∈ part := by
  induction parts with
  | nil => cases h
  | cons part parts ih =>
    cases parts with
    | nil =>
      rw [List.intercalate_singleton] at h
      exact .inr ⟨part, List.mem_cons_self, h⟩
    | cons other parts =>
      rw [List.intercalate_cons_cons, List.append_assoc, List.mem_append, List.mem_append] at h
      rcases h with h | h | h
      · exact .inr ⟨part, List.mem_cons_self, h⟩
      · exact .inl h
      · rcases ih h with h | ⟨found, hmem, hc⟩
        · exact .inl h
        · exact .inr ⟨found, List.mem_cons_of_mem part hmem, hc⟩

namespace Casing

theorem isPart_parts (casing : Casing) (text : List Char) :
    ∀ part ∈ casing.parts text, IsPart part := by
  intro part h
  unfold parts at h
  split at h
  · obtain ⟨word, hword, rfl⟩ := List.mem_map.1 h
    exact (isPart_words text word hword).capitalized
  · exact isPart_words text part h

/-- The fallback of a casing is a word that begins with a letter. -/
structure Sound (casing : Casing) : Prop where
  first : casing.fallback.toList.head?.any Char.isAlpha = true
  chars : casing.fallback.toList.all Char.isAlphanum = true

theorem snake_sound : snake.Sound := ⟨by decide, by decide⟩

theorem kebab_sound : kebab.Sound := ⟨by decide, by decide⟩

theorem pascal_sound : pascal.Sound := ⟨by decide, by decide⟩

/-- A name is the fallback, or it is put together from parts. A digit in front gets the fallback
before it. -/
theorem nameChars_cases (casing : Casing) (text : List Char) :
    casing.nameChars text = casing.fallback.toList ∨
      ∃ c rest, casing.separator.toList.intercalate (casing.parts text) = c :: rest ∧
        c.isAlphanum = true ∧
        casing.nameChars text =
          if c.isDigit then casing.fallback.toList ++ casing.separator.toList ++ c :: rest
          else c :: rest := by
  unfold nameChars
  cases hparts : casing.parts text with
  | nil => exact .inl rfl
  | cons part parts =>
    obtain ⟨hne, hchars⟩ := casing.isPart_parts text part (hparts ▸ List.mem_cons_self)
    obtain ⟨c, rest, rfl⟩ := List.exists_cons_of_ne_nil hne
    rw [List.intercalate_cons_cons_left]
    exact .inr ⟨c, _, rfl, hchars c List.mem_cons_self, rfl⟩

variable {casing : Casing}

theorem toList_name (casing : Casing) (text : String) :
    (casing.name text).toList = casing.nameChars text.toList := String.toList_ofList

/-- A name begins with a letter. -/
theorem nameChars_head (h : casing.Sound) (text : List Char) :
    (casing.nameChars text).head?.any Char.isAlpha = true := by
  rcases casing.nameChars_cases text with hname | ⟨c, rest, -, hc, hname⟩
  · rw [hname]
    exact h.first
  · rw [hname]
    by_cases hd : c.isDigit = true
    · rw [if_pos hd, List.append_assoc]
      exact head?_any_append h.first _
    · rw [if_neg hd]
      exact isAlpha_of_isAlphanum hc (Bool.eq_false_iff.2 hd)

/-- A name in capitals begins with one, if the fallback does. -/
theorem nameChars_head_isUpper (hcapitals : casing.capitals = true)
    (hfallback : casing.fallback.toList.head?.any Char.isUpper = true) (text : List Char) :
    (casing.nameChars text).head?.any Char.isUpper = true := by
  have hparts : casing.parts text = (words text).map capitalized := if_pos hcapitals
  unfold nameChars
  rw [hparts]
  cases hwords : words text with
  | nil => exact hfallback
  | cons word more =>
    obtain ⟨hne, hchars⟩ := isPart_words text word (hwords ▸ List.mem_cons_self)
    obtain ⟨c, rest, rfl⟩ := List.exists_cons_of_ne_nil hne
    rw [List.map_cons, capitalized, List.intercalate_cons_cons_left]
    by_cases hd : c.toUpper.isDigit = true
    · simp only [if_pos hd, List.append_assoc]
      exact head?_any_append hfallback _
    · simp only [if_neg hd]
      exact (isUpper_or_isDigit_toUpper (hchars c List.mem_cons_self)).resolve_right hd

/-- A name holds letters, digits and separators only. -/
theorem mem_nameChars (h : casing.Sound) {text : List Char} {c : Char}
    (hc : c ∈ casing.nameChars text) : c.isAlphanum = true ∨ c ∈ casing.separator.toList := by
  have hjoined : ∀ x ∈ casing.separator.toList.intercalate (casing.parts text),
      x.isAlphanum = true ∨ x ∈ casing.separator.toList := by
    intro x hx
    rcases mem_intercalate hx with hx | ⟨part, hpart, hx⟩
    · exact .inr hx
    · exact .inl ((casing.isPart_parts text part hpart).2 x hx)
  -- the fallback stands for the parts, or in front of them
  rcases casing.nameChars_cases text with hname | ⟨d, rest, hparts, -, hname⟩
  · rw [hname] at hc
    exact .inl (List.all_eq_true.1 h.chars c hc)
  · rw [hparts] at hjoined
    rw [hname] at hc
    split at hc
    · rw [List.append_assoc, List.mem_append, List.mem_append] at hc
      rcases hc with hc | hc | hc
      · exact .inl (List.all_eq_true.1 h.chars c hc)
      · exact .inr hc
      · exact hjoined c hc
    · exact hjoined c hc

end Casing

end Naming

end Choreography
