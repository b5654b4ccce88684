import Choreography.Proofs.Json.Positions

/-!
# Where reading stops: words, numbers and strings

A reader leaves the rest of the text, or a fault with the bytes behind it. Outside of strings it has
read characters of one byte only, so the last byte it has read is a character.

- `Behind`: the rest of the text comes behind a character of one byte. `CleanCut` allows for the
  whole text as well.
- `Placed`: the fault lies in front of such a rest, or one byte into any rest, unless its cause is
  one that only strings have (`stringCauses`).
- `Ends`: a computation leaves the text behind a character of one byte, or a placed fault. The
  lemmas `ends_…` say so of the readers. A reader of a whole lexeme starts at a clean cut. Its
  parts, which may read nothing, start behind a character; and inside a string any rest will do.
-/

namespace Choreography

namespace Json

/-! ## Clean cuts -/

/-- The rest comes behind a character of one byte. -/
def Behind (text rest : List Char) : Prop :=
  ∃ c, c :: rest <:+ text ∧ c.utf8Size = 1

/-- The rest is the whole text, or comes behind a character of one byte. -/
def CleanCut (text rest : List Char) : Prop :=
  rest = text ∨ Behind text rest

/-- All characters have one byte. -/
def OneByte (cs : List Char) : Prop := ∀ c ∈ cs, c.utf8Size = 1

instance (cs : List Char) : Decidable (OneByte cs) := List.decidableBAll _ cs

variable {α β : Type} {text s rest : List Char} {c : Char}

theorem suffix_behind (h : c :: rest <:+ text) : rest <:+ text :=
  (List.suffix_cons c rest).trans h

namespace CleanCut

theorem refl (text : List Char) : CleanCut text text := .inl rfl

theorem suffix (h : CleanCut text rest) : rest <:+ text := by
  obtain rfl | ⟨c, h, -⟩ := h
  · exact List.suffix_refl rest
  · exact suffix_behind h

theorem skip (h : CleanCut text (c :: rest)) (hc : c.utf8Size = 1) : Behind text rest :=
  ⟨c, h.suffix, hc⟩

end CleanCut

namespace Behind

theorem of_cons (h : c :: rest <:+ text) (hc : c.utf8Size = 1) : Behind text rest := ⟨c, h, hc⟩

theorem blank (s : List Char) : Behind (' ' :: s) s := of_cons (List.suffix_refl _) rfl

theorem cleanCut (h : Behind text rest) : CleanCut text rest := .inr h

theorem suffix (h : Behind text rest) : rest <:+ text := h.cleanCut.suffix

theorem skip (h : Behind text (c :: rest)) (hc : c.utf8Size = 1) : Behind text rest :=
  h.cleanCut.skip hc

theorem length_lt (h : Behind text rest) : rest.length < text.length := by
  obtain ⟨c, h, -⟩ := h
  exact h.length_le

/-- Characters of one byte are passed over. -/
theorem append (h : Behind text (s ++ rest)) (hs : OneByte s) : Behind text rest := by
  induction s with
  | nil => exact h
  | cons c s ih =>
    obtain ⟨hc, hs⟩ := List.forall_mem_cons.1 hs
    exact ih (h.skip hc) hs

theorem dropWhile {p : Char → Bool} (hp : ∀ c, p c = true → c.utf8Size = 1)
    (h : Behind text s) : Behind text (s.dropWhile p) := by
  rw [← List.takeWhile_append_dropWhile (p := p) (l := s)] at h
  exact h.append fun c hc => hp c (List.mem_takeWhile_imp hc)

end Behind

/-- If something is dropped, the rest comes behind it. -/
theorem CleanCut.dropWhile_cons {p : Char → Bool} (hp : ∀ c, p c = true → c.utf8Size = 1)
    (h : CleanCut text (c :: s)) (hc : p c = true) : Behind text ((c :: s).dropWhile p) := by
  rw [List.dropWhile_cons_of_pos hc]
  exact (h.skip (hp c hc)).dropWhile hp

theorem utf8Size_of_lt (h : c.toNat < 128) : c.utf8Size = 1 :=
  Char.utf8Size_eq_one_iff.2 (UInt32.le_iff_toNat_le.2 (Nat.le_of_lt_succ h))

theorem utf8Size_of_isDigit (h : c.isDigit = true) : c.utf8Size = 1 := by
  simp only [Char.isDigit, Bool.and_eq_true, decide_eq_true_eq, UInt32.le_iff_toNat_le] at h
  exact utf8Size_of_lt (Nat.lt_of_le_of_lt h.2 (by decide))

theorem utf8Size_of_isBlank (h : isBlank c = true) : c.utf8Size = 1 := by
  simp only [isBlank, Bool.or_eq_true, decide_eq_true_eq] at h
  rcases h with ((rfl | rfl) | rfl) | rfl <;> rfl

theorem Behind.skipBlanks (h : Behind text s) : Behind text (skipBlanks s) :=
  h.dropWhile fun _ => utf8Size_of_isBlank

theorem CleanCut.skipBlanks (h : CleanCut text s) : CleanCut text (skipBlanks s) := by
  cases s with
  | nil => exact h
  | cons c s =>
    by_cases hc : isBlank c = true
    · exact .inr (h.dropWhile_cons (fun _ => utf8Size_of_isBlank) hc)
    · rwa [Json.skipBlanks, List.dropWhile_cons_of_neg hc]

theorem Behind.skipDigits (h : Behind text s) : Behind text (s.dropWhile Char.isDigit) :=
  h.dropWhile fun _ => utf8Size_of_isDigit

/-- Behind one digit or more. -/
theorem CleanCut.skipDigits (h : CleanCut text s) (hne : s.takeWhile Char.isDigit ≠ []) :
    Behind text (s.dropWhile Char.isDigit) := by
  cases s with
  | nil => exact absurd rfl hne
  | cons c s =>
    by_cases hc : c.isDigit = true
    · exact h.dropWhile_cons (fun _ => utf8Size_of_isDigit) hc
    · exact absurd (List.takeWhile_cons_of_neg hc) hne

/-! ## Placed faults -/

/-- The causes of faults that can be placed behind a character of any size: at the missing end of a
string, behind the four bytes of an escape, or in front of a control character that is skipped. -/
def stringCauses : List Cause := [.endInString, .invalidEscape, .controlCharacter]

/-- The place of the fault is clean, or one byte into the text from any character on. -/
inductive Placed (text : List Char) : Fault → Prop where
  | before {cause : Cause} {rest : List Char} (cut : CleanCut text rest) :
    Placed text (.before cause rest)
  | within {cause : Cause} {c : Char} {rest : List Char} (next : c :: rest <:+ text) :
    Placed text (.within cause (c :: rest))
  | inString {f : Fault} (cause : f.cause ∈ stringCauses) : Placed text f

/-- At the end of the text there is no further byte. -/
theorem CleanCut.within (h : CleanCut text rest) (cause : Cause) :
    Placed text (.within cause rest) := by
  cases rest with
  | nil => exact .before h
  | cons c rest => exact .within h.suffix

theorem Behind.before (h : Behind text rest) (cause : Cause) : Placed text (.before cause rest) :=
  .before h.cleanCut

theorem Behind.within (h : Behind text rest) (cause : Cause) : Placed text (.within cause rest) :=
  h.cleanCut.within cause

/-- The text behind a character of one byte is left, or a placed fault. -/
def Ends (text : List Char) (rest : α → List Char) : Except Fault α → Prop
  | .ok a => Behind text (rest a)
  | .error f => Placed text f

namespace Ends

variable {behind : α → List Char} {behind' : β → List Char} {first : Except Fault α}
  {next : α → Except Fault β}

theorem ok (h : Ends text behind first) {a : α} (ha : first = .ok a) : Behind text (behind a) := by
  rwa [ha] at h

theorem error (h : Ends text behind first) {f : Fault} (hf : first = .error f) : Placed text f := by
  rwa [hf] at h

theorem bind_of_eq (h : Ends text behind first)
    (hnext : ∀ a, first = .ok a → Behind text (behind a) → Ends text behind' (next a)) :
    Ends text behind' (first >>= next) := by
  cases first with
  | error f => exact h
  | ok a => exact hnext a rfl h

theorem bind (h : Ends text behind first)
    (hnext : ∀ a, Behind text (behind a) → Ends text behind' (next a)) :
    Ends text behind' (first >>= next) :=
  h.bind_of_eq fun a _ => hnext a

/-- Read from the whole text, something is used up. -/
theorem length_lt (h : Ends s behind first) {a : α} (ha : first = .ok a) :
    (behind a).length < s.length :=
  (h.ok ha).length_lt

/-- Read from behind a blank, nothing is added. -/
theorem length_le (h : Ends (' ' :: s) behind first) {a : α} (ha : first = .ok a) :
    (behind a).length ≤ s.length :=
  Nat.le_of_lt_succ (h.length_lt ha)

end Ends

/-! ## Words -/

theorem ends_readLetters {letters : List Char} (hletters : OneByte letters)
    (h : Behind text s) : Ends text id (readLetters letters s) := by
  induction letters generalizing s with
  | nil => exact h
  | cons l letters ih =>
    obtain ⟨hl, hletters⟩ := List.forall_mem_cons.1 hletters
    cases s with
    | nil => exact h.before _
    | cons c rest =>
      rw [readLetters]
      split
      · next hc => exact ih hletters (h.skip (hc ▸ hl))
      · exact h.within _

/-! ## Numbers -/

namespace Number

/-- The digits that are left over are the last ones. -/
theorem suffix_absorb (limit n : Nat) (ds : List Char) : (absorb limit n ds).2 <:+ ds := by
  induction ds generalizing n with
  | nil => exact List.suffix_refl []
  | cons d ds ih =>
    unfold absorb
    simp only
    split
    · exact (ih _).trans (List.suffix_cons d ds)
    · exact List.suffix_refl _

theorem ends_float? (negative : Bool) (significand : Nat) (exponent : Int)
    (h : Behind text rest) :
    Ends text Prod.snd (float? negative significand exponent rest) := by
  unfold float?
  split
  · exact h
  · exact h.before _

/-- Digits have been read up to the first one that is left over, and it as well. -/
theorem behind_leftOver {limit n : Nat} {d : Char} {more : List Char} (h : Behind text s)
    (hleft : (absorb limit n (s.takeWhile Char.isDigit)).2 = d :: more) :
    Behind text (more ++ s.dropWhile Char.isDigit) := by
  obtain ⟨read, hread⟩ := suffix_absorb limit n (s.takeWhile Char.isDigit)
  rw [hleft] at hread
  have hdigits : OneByte (read ++ [d]) := fun c hc => by
    refine utf8Size_of_isDigit (List.mem_takeWhile_imp (l := s) ?_)
    rw [← hread]
    exact List.append_subset.2 ⟨List.subset_append_left _ _, by simp⟩ hc
  have hs : (read ++ [d]) ++ (more ++ s.dropWhile Char.isDigit) = s := by
    rw [← List.append_assoc, List.append_assoc read, List.singleton_append, hread,
      List.takeWhile_append_dropWhile]
  exact Behind.append (hs.symm ▸ h) hdigits

theorem ends_readExponent (negative : Bool) (significand : Nat) (exponent : Int)
    (h : Behind text s) : Ends text Prod.snd (readExponent negative significand exponent s) := by
  unfold readExponent
  split
  next down digits hsign =>
    -- a sign is one byte
    have h : Behind text digits := by
      split at hsign <;> obtain ⟨-, rfl⟩ := Prod.mk.inj hsign
      · exact h.skip rfl
      · exact h.skip rfl
      · exact h
    split
    · exact h.before _
    · split
      · exact h.within _
      · simp only
        split
        · exact ends_float? _ _ _ h.skipDigits
        · next hleft =>
          split
          · exact h.skipDigits
          · exact (behind_leftOver h (congrArg Prod.snd hleft)).before _

theorem ends_readOptionalExponent (negative : Bool) (significand : Nat) (exponent : Int)
    (h : Behind text s) :
    Ends text Prod.snd (readOptionalExponent negative significand exponent s) := by
  unfold readOptionalExponent
  split
  · exact ends_readExponent _ _ _ (h.skip rfl)
  · exact ends_readExponent _ _ _ (h.skip rfl)
  · exact ends_float? _ _ _ h

theorem ends_readFraction (negative : Bool) (significand : Nat) (exponent : Int)
    (h : Behind text s) : Ends text Prod.snd (readFraction negative significand exponent s) := by
  unfold readFraction
  simp only
  split
  · exact h.skipDigits.within _
  · exact ends_readOptionalExponent _ _ _ h.skipDigits

theorem ends_whole (negative : Bool) (significand : Nat) (h : Behind text rest) :
    Ends text Prod.snd (whole negative significand rest) := by
  unfold whole
  split
  · exact h
  · split
    · exact h
    · exact ends_float? _ _ _ h

/-- A leading zero is passed over before the digit behind it is refused. -/
theorem within_leadingZero {d : Char} {more : List Char} (h : CleanCut text s)
    (hdigits : s.takeWhile Char.isDigit = '0' :: d :: more) :
    Placed text (.within .invalidNumber (d :: more ++ s.dropWhile Char.isDigit)) := by
  have hs : '0' :: (d :: more ++ s.dropWhile Char.isDigit) = s := by
    rw [← List.cons_append, ← hdigits, List.takeWhile_append_dropWhile]
  have hzero : CleanCut text ('0' :: (d :: more ++ s.dropWhile Char.isDigit)) := by
    rw [hs]
    exact h
  exact (hzero.skip rfl).within _

theorem ends_read (negative : Bool) (h : CleanCut text s) :
    Ends text Prod.snd (read negative s) := by
  unfold read
  simp only
  split
  · split
    · exact .before h
    · exact h.within _
  · next hdigits => exact within_leadingZero h hdigits
  · next hne _ =>
    have h := h.skipDigits hne
    split
    · next hrest => exact ends_readFraction _ _ _ ((hrest ▸ h).skip rfl)
    · next hrest => exact ends_readExponent _ _ _ ((hrest ▸ h).skip rfl)
    · next hrest => exact ends_readExponent _ _ _ ((hrest ▸ h).skip rfl)
    · split
      · exact ends_whole _ _ h
      · exact ends_float? _ _ _ h

/-- A sign is one byte. -/
theorem behind_sign : Behind text s →
    Behind text (match s with | '+' :: rest | '-' :: rest => rest | _ => s) := by
  intro h
  split
  · exact h.skip rfl
  · exact h.skip rfl
  · exact h

theorem ends_skipExponent (h : Behind text s) : Ends text id (skipExponent s) := by
  unfold skipExponent
  simp only
  split
  · next c rest hdigits =>
    have hrest : Behind text (c :: rest) := by
      rw [← hdigits]
      exact behind_sign h
    split
    · next hdigit => exact (hrest.skip (utf8Size_of_isDigit hdigit)).skipDigits
    · rw [hdigits]
      exact hrest.within _
  · next hdigits =>
    have hrest : Behind text [] := by
      rw [← hdigits]
      exact behind_sign h
    exact hrest.within _

theorem ends_skipOptionalExponent (h : Behind text s) :
    Ends text id (skipOptionalExponent s) := by
  unfold skipOptionalExponent
  split
  · exact ends_skipExponent (h.skip rfl)
  · exact ends_skipExponent (h.skip rfl)
  · exact h

theorem ends_skip (h : CleanCut text s) : Ends text id (skip s) := by
  unfold skip
  simp only
  split
  · exact h.within _
  · next hdigits => exact within_leadingZero h hdigits
  · next hne _ =>
    have h := h.skipDigits hne
    split
    · next hrest =>
      have h := (hrest ▸ h).skip rfl
      split
      · exact h.within _
      · exact ends_skipOptionalExponent h.skipDigits
    · exact ends_skipOptionalExponent h

end Number

/-! ## Strings

Every reader within a string ends behind a character of one byte, wherever it begins. -/

theorem endInString_mem : .endInString ∈ stringCauses := by decide

theorem invalidEscape_mem : .invalidEscape ∈ stringCauses := by decide

theorem controlCharacter_mem : .controlCharacter ∈ stringCauses := by decide

theorem utf8Size_of_hexDigit? {n : Nat} (h : hexDigit? c = some n) : c.utf8Size = 1 := by
  have hupper : ∀ last : Char, last.toNat < 128 → c ≤ last → c.utf8Size = 1 := fun _ hlast hc =>
    utf8Size_of_lt (Nat.lt_of_le_of_lt hc hlast)
  unfold hexDigit? at h
  simp only [Bool.and_eq_true, decide_eq_true_eq] at h
  split at h
  · next hc => exact hupper '9' (by decide) hc.2
  split at h
  · next hc => exact hupper 'f' (by decide) hc.2
  split at h
  · next hc => exact hupper 'F' (by decide) hc.2
  · cases h

/-- Four digits have been read. -/
theorem exists_of_hexValue? {n : Nat} (h : hexValue? (s.take 4) = some n) :
    ∃ a b c d, s = a :: b :: c :: d :: s.drop 4 ∧ d.utf8Size = 1 := by
  unfold hexValue? at h
  split at h
  · next a b c d hs =>
    simp only [Option.bind_eq_bind, Option.bind_eq_some_iff] at h
    obtain ⟨-, -, -, -, -, -, _, hd, -⟩ := h
    exact ⟨a, b, c, d, by rw [← List.take_append_drop 4 s, hs]; rfl, utf8Size_of_hexDigit? hd⟩
  · cases h

theorem ends_readHex (h : s <:+ text) : Ends text Prod.snd (readHex s) := by
  unfold readHex
  split
  · next hvalue =>
    obtain ⟨a, b, c, d, hs, hd⟩ := exists_of_hexValue? hvalue
    have hdrop : d :: s.drop 4 <:+ s := ⟨[a, b, c], hs.symm⟩
    exact Behind.of_cons (hdrop.trans h) hd
  · simp only
    split
    · exact .inString endInString_mem
    · exact .inString invalidEscape_mem

theorem ends_readTrailing (leading : Nat) (h : s <:+ text) :
    Ends text Prod.snd (readTrailing leading s) := by
  unfold readTrailing
  split
  · refine (ends_readHex (suffix_behind (suffix_behind h))).bind fun ⟨trailing, rest⟩ hrest => ?_
    simp only
    split
    · exact hrest
    · exact hrest.before _
  · exact .inString endInString_mem
  · exact .inString endInString_mem
  · exact (Behind.of_cons h rfl).within _
  · cases s with
    | nil => contradiction
    | cons c rest => exact .within h

theorem ends_readEscape (h : s <:+ text) : Ends text Prod.snd (readEscape s) := by
  unfold readEscape
  split
  · exact .inString endInString_mem
  iterate 8 exact Behind.of_cons h rfl
  · refine (ends_readHex (suffix_behind h)).bind fun ⟨n, rest⟩ hrest => ?_
    simp only
    split
    · exact hrest.before _
    split
    · exact ends_readTrailing n hrest.suffix
    · exact hrest
  · exact .inString invalidEscape_mem

theorem ends_readCharacters (bound : List Char) (h : s <:+ text) :
    Ends text Prod.snd (readCharacters bound s) := by
  induction bound generalizing s with
  | nil => exact .inString endInString_mem
  | cons b bound ih =>
    unfold readCharacters
    split
    · exact .inString endInString_mem
    · exact Behind.of_cons h rfl
    · refine (ends_readEscape (suffix_behind h)).bind fun ⟨c, rest⟩ hrest => ?_
      exact (ih hrest.suffix).bind fun _ hrest => hrest
    · split
      · exact .inString controlCharacter_mem
      · exact (ih (suffix_behind h)).bind fun _ hrest => hrest

theorem ends_readStringBody (h : s <:+ text) : Ends text Prod.snd (readStringBody s) :=
  (ends_readCharacters s h).bind fun _ hrest => hrest

theorem ends_skipEscape (h : s <:+ text) : Ends text id (skipEscape s) := by
  unfold skipEscape
  split
  · exact .inString endInString_mem
  · exact (ends_readHex (suffix_behind h)).bind fun _ hrest => hrest
  · split
    · next hc =>
      have hone : OneByte ['"', '\\', '/', 'b', 'f', 'n', 'r', 't'] := by decide
      exact Behind.of_cons h (hone _ hc)
    · exact .inString invalidEscape_mem

theorem ends_skipCharacters (bound : List Char) (h : s <:+ text) :
    Ends text id (skipCharacters bound s) := by
  induction bound generalizing s with
  | nil => exact .inString endInString_mem
  | cons b bound ih =>
    unfold skipCharacters
    split
    · exact .inString endInString_mem
    · exact Behind.of_cons h rfl
    · exact (ends_skipEscape (suffix_behind h)).bind fun rest hrest => ih hrest.suffix
    · split
      · exact .inString controlCharacter_mem
      · exact ih (suffix_behind h)

theorem ends_skipStringBody (h : s <:+ text) : Ends text id (skipStringBody s) :=
  ends_skipCharacters s h

end Json

end Choreography
