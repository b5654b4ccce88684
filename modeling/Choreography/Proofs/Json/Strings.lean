import Choreography.Json.Lexeme
import Choreography.Json.Printer

/-!
# Printed strings are read back

- `mem_escape`: no escape holds a control character, or another one beyond ASCII.
- `readEscape_hex`: the escape of a control character is read as the character.
- `readCharacters_escape`: one printed character, whatever it is.
- `readStringBody_escaped`: a whole printed string, with any text behind it.
-/

namespace Choreography

namespace Json

/-! ## Hexadecimal escapes -/

theorem hexDigit?_hexChar : ∀ n < 16, hexDigit? (hexChar n) = some n := by
  decide

/-- The four digits of a character below the space are its code point. -/
theorem hexValue?_escape {n : Nat} (h : n < 32) :
    hexValue? ['0', '0', hexChar (n / 16), hexChar n] = some n := by
  have hhigh := hexDigit?_hexChar (n / 16) (by omega)
  have hlow : hexDigit? (hexChar n) = some (n % 16) := by
    rw [show hexChar n = hexChar (n % 16) by simp [hexChar], hexDigit?_hexChar _ (by omega)]
  have hzero : hexDigit? '0' = some 0 := by decide
  simp only [hexValue?, hzero, hhigh, hlow, Option.bind_eq_bind, Option.bind_some, Option.pure_def]
  congr 1
  omega

theorem readEscape_hex {c : Char} (h : c < ' ') (rest : List Char) :
    readEscape ('u' :: '0' :: '0' :: hexChar (c.toNat / 16) :: hexChar c.toNat :: rest) =
      .ok (c, rest) := by
  have hc : c.toNat < 32 := h
  have hread : readHex ('0' :: '0' :: hexChar (c.toNat / 16) :: hexChar c.toNat :: rest) =
      .ok (c.toNat, rest) := by
    simp [readHex, hexValue?_escape hc]
  have htrailing : isTrailing c.toNat = false := by simp [isTrailing]; omega
  have hleading : isLeading c.toNat = false := by simp [isLeading]; omega
  simp [readEscape, hread, htrailing, hleading, bind, Except.bind, pure, Except.pure]

/-! ## Characters -/

/-- Visible ASCII characters are all that an escape is made of. -/
theorem mem_escape {c d : Char} (h : d ∈ escape c) : ' ' ≤ d ∧ (d = c ∨ d ≤ '~') := by
  have hascii : ∀ n < 127, (escape (Char.ofNat n)).all (fun d => ' ' ≤ d ∧ d ≤ '~') = true := by
    decide
  rcases Nat.lt_or_ge c.toNat 127 with hc | hc
  · rw [← Char.ofNat_toNat c] at h
    have hd : ' ' ≤ d ∧ d ≤ '~' := of_decide_eq_true (List.all_eq_true.1 (hascii _ hc) d h)
    exact hd.imp_right .inr
  · have hne : ∀ a : Char, a.toNat < 127 → c ≠ a := by
      rintro a ha rfl
      exact absurd ha (Nat.not_lt.2 hc)
    have hspace : ' ' ≤ c := Nat.le_trans (by decide) hc
    rw [escape, if_neg (hne _ (by decide)), if_neg (hne _ (by decide)), if_neg (hne _ (by decide)),
      if_neg (hne _ (by decide)), if_neg (hne _ (by decide)), if_neg (hne _ (by decide)),
      if_neg (hne _ (by decide)), if_neg (Char.not_lt.2 hspace), List.mem_singleton] at h
    subst h
    exact ⟨hspace, .inl rfl⟩

/-! ## Strings -/

theorem readCharacters_backslash {c b : Char} {bound t s cs rest : List Char}
    (hc : readEscape t = .ok (c, s)) (h : readCharacters bound s = .ok (cs, rest)) :
    readCharacters (b :: bound) ('\\' :: t) = .ok (c :: cs, rest) := by
  simp [readCharacters, hc, h, bind, Except.bind, pure, Except.pure]

/-- A printed character is read as itself. -/
theorem readCharacters_escape {c b : Char} {bound s cs rest : List Char}
    (h : readCharacters bound s = .ok (cs, rest)) :
    readCharacters (b :: bound) (escape c ++ s) = .ok (c :: cs, rest) := by
  -- the cases are those of the escape; only the last one leaves the character as it is
  unfold escape
  split
  · next hc => subst hc; exact readCharacters_backslash rfl h
  next hquote =>
  split
  · next hc => subst hc; exact readCharacters_backslash rfl h
  next hbackslash =>
  split
  · next hc => subst hc; exact readCharacters_backslash rfl h
  split
  · next hc => subst hc; exact readCharacters_backslash rfl h
  split
  · next hc => subst hc; exact readCharacters_backslash rfl h
  split
  · next hc => subst hc; exact readCharacters_backslash rfl h
  split
  · next hc => subst hc; exact readCharacters_backslash rfl h
  split
  · next hc => exact readCharacters_backslash (readEscape_hex hc s) h
  · next hc =>
    simp [readCharacters, hc, h, bind, Except.bind, pure, Except.pure]

/-- The printed characters of a string are read up to the closing quote. -/
theorem readCharacters_escaped (cs : List Char) {bound : List Char} (rest : List Char)
    (hb : cs.length < bound.length) :
    readCharacters bound (cs.flatMap escape ++ '"' :: rest) = .ok (cs, rest) := by
  induction cs generalizing bound with
  | nil =>
    cases bound with
    | nil => cases hb
    | cons b bound => rfl
  | cons c cs ih =>
    cases bound with
    | nil => cases hb
    | cons b bound =>
      rw [List.flatMap_cons, List.append_assoc]
      exact readCharacters_escape (ih (Nat.lt_of_succ_lt_succ hb))

theorem length_le_escape (c : Char) : 1 ≤ (escape c).length := by
  unfold escape
  repeat' split
  all_goals simp

theorem length_le_flatMap_escape (cs : List Char) : cs.length ≤ (cs.flatMap escape).length := by
  induction cs with
  | nil => exact Nat.le_refl 0
  | cons c cs ih =>
    have := length_le_escape c
    simp only [List.flatMap_cons, List.length_append, List.length_cons]
    omega

/-- A printed string is read as its text, whatever stands behind it. -/
theorem readStringBody_escaped (s : String) (rest : List Char) :
    readStringBody (s.toList.flatMap escape ++ '"' :: rest) = .ok (s, rest) := by
  have hb : s.toList.length < (s.toList.flatMap escape ++ '"' :: rest).length := by
    have := length_le_flatMap_escape s.toList
    rw [List.length_append, List.length_cons]
    omega
  simp [readStringBody, readCharacters_escaped s.toList rest hb, bind, Except.bind, pure,
    Except.pure]

end Json

end Choreography
