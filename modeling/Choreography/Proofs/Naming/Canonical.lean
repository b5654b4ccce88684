import Choreography.Proofs.Naming.Casing

/-!
# Casings bring every text into one form

Whatever the text, a name is put together from the same words: those of the text, with a fallback in
front if they would not begin with a letter (`named`). They can be found again in the names with
separators, so a casing makes the same name from such a name as from the text.

- `words_join`: words in lower case are found again between separators.
- `Casing.nameChars_eq`: every casing writes the named words of the text.
- `casings_canonical`: the form of all names, and that no casing tells a text from its names.
-/

namespace Choreography

namespace Naming

/-! ## Words in lower case -/

/-- A word in lower case: at least one character, all of them small letters and digits. -/
def IsLowerWord (word : List Char) : Prop :=
  word ≠ [] ∧ ∀ c ∈ word, c.isLower = true ∨ c.isDigit = true

instance (word : List Char) : Decidable (IsLowerWord word) :=
  @instDecidableAnd _ _ _ (List.decidableBAll _ word)

variable {c : Char} {word rest text : List Char} {ws : List (List Char)}

theorem isAlphanum_of_lower (h : c.isLower = true ∨ c.isDigit = true) : c.isAlphanum = true :=
  Bool.or_eq_true_iff.2 (h.imp_left fun hlower => Bool.or_eq_true_iff.2 (.inr hlower))

theorem isLower_toLower (h : c.isAlphanum = true) :
    c.toLower.isLower = true ∨ c.toLower.isDigit = true := by
  refine forall_alphanum (P := fun c => c.toLower.isLower = true ∨ c.toLower.isDigit = true) ?_ h
  decide

/-- What is in lower case is no capital, and lowering keeps it. -/
theorem lower_stays (h : c.isLower = true ∨ c.isDigit = true) :
    c.isUpper = false ∧ c.toLower = c ∧ c.toUpper.isDigit = c.isDigit := by
  refine forall_alphanum (P := fun c => c.isLower = true ∨ c.isDigit = true →
    c.isUpper = false ∧ c.toLower = c ∧ c.toUpper.isDigit = c.isDigit) ?_ (isAlphanum_of_lower h) h
  decide

theorem isLowerWord_singleton (h : c.isLower = true ∨ c.isDigit = true) : IsLowerWord [c] :=
  ⟨List.cons_ne_nil c [], List.forall_mem_singleton.2 h⟩

theorem IsLowerWord.cons (h : IsLowerWord word) (hc : c.isLower = true ∨ c.isDigit = true) :
    IsLowerWord (c :: word) :=
  ⟨List.cons_ne_nil c word, List.forall_mem_cons.2 ⟨hc, h.2⟩⟩

/-- Words come in lower case. -/
theorem isLowerWord_words (text : List Char) : ∀ word ∈ words text, IsLowerWord word := by
  fun_induction words text with
  | case1 => exact fun _ h => absurd h List.not_mem_nil
  | case2 c rest hc next first more hwords hhead hjoins ih =>
    rw [hwords] at ih
    obtain ⟨hfirst, hmore⟩ := List.forall_mem_cons.1 ih
    exact List.forall_mem_cons.2 ⟨hfirst.cons (isLower_toLower hc), hmore⟩
  | case3 c rest hc next first more hwords hhead hjoins ih =>
    rw [hwords] at ih
    exact List.forall_mem_cons.2 ⟨isLowerWord_singleton (isLower_toLower hc), ih⟩
  | case4 c rest hc hother ih =>
    exact List.forall_mem_cons.2 ⟨isLowerWord_singleton (isLower_toLower hc), ih⟩
  | case5 c rest hc ih => exact ih

/-! ## Words are found again -/

/-- A word ends where the text ends, or in front of a character that belongs to no word. -/
theorem words_append (h : IsLowerWord word) (hrest : rest.head?.all (!·.isAlphanum) = true) :
    words (word ++ rest) = word :: words rest := by
  obtain ⟨hne, hchars⟩ := h
  induction word with
  | nil => exact absurd rfl hne
  | cons c word ih =>
    obtain ⟨hc, hword⟩ := List.forall_mem_cons.1 hchars
    obtain ⟨-, hlower, -⟩ := lower_stays hc
    rw [List.cons_append, words, if_pos (isAlphanum_of_lower hc), hlower]
    cases word with
    | nil =>
      -- the rest begins with no character that the word could go on with
      rw [List.nil_append]
      split
      · next next first more hhead hmore =>
        rw [hhead] at hrest
        have hjoins : joins c next = false := by
          rw [joins, show next.isAlphanum = false by simpa using hrest, Bool.false_and]
        rw [hjoins, hmore]
        rfl
      · rfl
    | cons d word =>
      obtain ⟨hd, -⟩ := List.forall_mem_cons.1 hword
      obtain ⟨hupper, -, -⟩ := lower_stays hd
      have hjoins : joins c d = true := by
        rw [joins, isAlphanum_of_lower hd, hupper]
        rfl
      rw [ih (List.cons_ne_nil d word) hword]
      simp only [List.cons_append, List.head?_cons, hjoins, if_true]

/-- Words in lower case are found again between separators. -/
theorem words_join {separator : Char} (hsep : separator.isAlphanum = false)
    (h : ∀ word ∈ ws, IsLowerWord word) : words ([separator].intercalate ws) = ws := by
  induction ws with
  | nil => rfl
  | cons word ws ih =>
    obtain ⟨hword, hws⟩ := List.forall_mem_cons.1 h
    cases ws with
    | nil =>
      have hwords : words (word ++ []) = [word] := words_append hword rfl
      rw [List.append_nil] at hwords
      rw [List.intercalate_singleton, hwords]
    | cons next ws =>
      rw [List.intercalate_cons_cons, List.append_assoc, words_append hword (by simp [hsep]),
        List.singleton_append]
      rw [words, if_neg (by simp [hsep]), ih hws]

/-! ## The words of a name -/

/-- The words with the fallback in front if there are none, or if the first begins with a digit. -/
def named : List (List Char) → List (List Char)
  | [] => ["service".toList]
  | word :: more =>
    if word.head?.any Char.isDigit then "service".toList :: word :: more else word :: more

theorem isLowerWord_service : IsLowerWord "service".toList := by decide

theorem isLowerWord_named (h : ∀ word ∈ ws, IsLowerWord word) :
    ∀ word ∈ named ws, IsLowerWord word := by
  cases ws with
  | nil => exact List.forall_mem_singleton.2 isLowerWord_service
  | cons word more =>
    rw [named]
    split
    · exact List.forall_mem_cons.2 ⟨isLowerWord_service, h⟩
    · exact h

/-- Words that begin with a letter need no fallback. -/
theorem named_named (ws : List (List Char)) : named (named ws) = named ws := by
  cases ws with
  | nil => rfl
  | cons word more =>
    by_cases hdigit : word.head?.any Char.isDigit = true
    · rw [named, if_pos hdigit]
      rfl
    · rw [named, if_neg hdigit, named, if_neg hdigit]

namespace Casing

/-- A word as a casing writes it. -/
def spelled (casing : Casing) (word : List Char) : List Char :=
  if casing.capitals then capitalized word else word

theorem parts_eq (casing : Casing) (text : List Char) :
    casing.parts text = (words text).map casing.spelled := by
  by_cases h : casing.capitals = true
  · have hspelled : casing.spelled = capitalized := funext fun word => if_pos h
    rw [parts, if_pos h, hspelled]
  · have hspelled : casing.spelled = id := funext fun word => if_neg h
    rw [parts, if_neg h, hspelled, List.map_id]

variable {casing : Casing}

theorem head?_spelled (h : IsLowerWord word) :
    ∃ c rest, casing.spelled word = c :: rest ∧ c.isDigit = word.head?.any Char.isDigit := by
  obtain ⟨hne, hchars⟩ := h
  obtain ⟨c, rest, rfl⟩ := List.exists_cons_of_ne_nil hne
  obtain ⟨-, -, hdigit⟩ := lower_stays (hchars c List.mem_cons_self)
  unfold spelled
  split
  · exact ⟨c.toUpper, rest, rfl, hdigit⟩
  · exact ⟨c, rest, rfl, rfl⟩

/-- The fallback is a word like any other. So a casing writes the named words of the text. -/
theorem nameChars_eq (h : casing.fallback.toList = casing.spelled "service".toList)
    (text : List Char) : casing.nameChars text =
      casing.separator.toList.intercalate ((named (words text)).map casing.spelled) := by
  unfold nameChars
  rw [parts_eq, h]
  cases hwords : words text with
  | nil => exact (List.intercalate_singleton).symm
  | cons word more =>
    have hword : IsLowerWord word := isLowerWord_words text word (hwords ▸ List.mem_cons_self)
    obtain ⟨c, rest, hspelled, hdigit⟩ := casing.head?_spelled hword
    rw [List.map_cons, hspelled, List.intercalate_cons_cons_left, named, ← hdigit]
    simp only
    split
    · rw [List.map_cons, List.map_cons, hspelled, List.intercalate_cons_cons,
        List.intercalate_cons_cons_left]
    · rw [List.map_cons, hspelled, List.intercalate_cons_cons_left]

/-- Only the words of a text count. -/
theorem nameChars_congr (h : casing.fallback.toList = casing.spelled "service".toList)
    {text other : List Char} (hwords : named (words text) = named (words other)) :
    casing.nameChars text = casing.nameChars other := by
  rw [nameChars_eq h, nameChars_eq h, hwords]

/-- The casing writes words as they are, with a separator between them that belongs to no word. -/
structure Separates (casing : Casing) (separator : Char) : Prop where
  toList_separator : casing.separator.toList = [separator]
  apart : separator.isAlphanum = false
  fallback : casing.fallback = "service"
  plain : casing.capitals = false

theorem snake_separates : snake.Separates '_' := ⟨by decide, by decide, rfl, rfl⟩

theorem kebab_separates : kebab.Separates '-' := ⟨by decide, by decide, rfl, rfl⟩

namespace Separates

variable {separator : Char}

theorem nameChars_eq (h : casing.Separates separator) (text : List Char) :
    casing.nameChars text = [separator].intercalate (named (words text)) := by
  have hspelled : casing.spelled = id := funext fun word => by simp [spelled, h.plain]
  rw [Casing.nameChars_eq (by rw [h.fallback, hspelled]; rfl), hspelled, List.map_id,
    h.toList_separator]

/-- The words of a name are the named words of its text. -/
theorem words_name (h : casing.Separates separator) (text : String) :
    words (casing.name text).toList = named (words text.toList) := by
  rw [toList_name, h.nameChars_eq]
  exact words_join h.apart (isLowerWord_named (isLowerWord_words text.toList))

end Separates

/-- The casings for generated code. -/
def all : List Casing := [snake, kebab, pascal]

theorem fallback_eq : ∀ casing ∈ all,
    casing.fallback.toList = casing.spelled "service".toList := by decide

/-- No casing tells a text from another one with the same named words. -/
theorem name_congr (h : casing ∈ all) {text other : String}
    (hwords : named (words text.toList) = named (words other.toList)) :
    casing.name text = casing.name other :=
  congrArg String.ofList (nameChars_congr (fallback_eq casing h) hwords)

theorem name_of_words (h : casing ∈ all) {text name : String}
    (hwords : words name.toList = named (words text.toList)) :
    casing.name name = casing.name text :=
  name_congr h (by rw [hwords, named_named])

end Casing

/-! ## The form of names -/

/-- The text consists of words in lower case, at least one of them, with single separators between
them. The first begins with a letter. -/
structure Joined (separator : Char) (ws : List (List Char)) (text : String) : Prop where
  text_eq : text.toList = [separator].intercalate ws
  words : ∀ word ∈ ws, IsLowerWord word
  letter : ∃ c rest more, ws = (c :: rest) :: more ∧ c.isLower = true

open Casing

theorem Casing.Separates.joined {casing : Casing} {separator : Char}
    (h : casing.Separates separator) (text : String) :
    Joined separator (named (words text.toList)) (casing.name text) where
  text_eq := by rw [toList_name, h.nameChars_eq]
  words := isLowerWord_named (isLowerWord_words _)
  letter := by
    have hwords := isLowerWord_words text.toList
    cases hw : words text.toList with
    | nil => exact ⟨'s', "ervice".toList, [], rfl, by decide⟩
    | cons word more =>
      rw [hw] at hwords
      obtain ⟨hne, hchars⟩ := hwords word List.mem_cons_self
      obtain ⟨c, rest, rfl⟩ := List.exists_cons_of_ne_nil hne
      rw [named]
      split
      · exact ⟨'s', "ervice".toList, _, rfl, by decide⟩
      · next hdigit =>
        exact ⟨c, rest, more, rfl, (hchars c List.mem_cons_self).resolve_right hdigit⟩

/-- Whatever the text, its names in small letters are words in lower case between single separators,
and these are the same words for both. The name in capitals begins with a capital and goes on with
letters and digits. A casing makes the same name from the text as from either of its names in small
letters. So those names are kept when they are given as texts, and two texts that share one of them
share all names. -/
theorem casings_canonical (text : String) :
    (∃ ws, Joined '_' ws (snake.name text) ∧ Joined '-' ws (kebab.name text)) ∧
    (∃ c rest, (pascal.name text).toList = c :: rest ∧ c.isUpper = true ∧
      ∀ d ∈ rest, d.isAlphanum = true) ∧
    (∀ casing ∈ Casing.all, casing.name (snake.name text) = casing.name text ∧
      casing.name (kebab.name text) = casing.name text) ∧
    ∀ other, snake.name text = snake.name other →
      ∀ casing ∈ Casing.all, casing.name text = casing.name other := by
  have hsnake := snake_separates.words_name
  have hkebab := kebab_separates.words_name
  refine ⟨⟨_, snake_separates.joined text, kebab_separates.joined text⟩, ?_,
    fun casing h => ⟨name_of_words h (hsnake text), name_of_words h (hkebab text)⟩, ?_⟩
  -- without words, and in front of a digit, the fallback stands, which has a capital as well
  · have hhead : (pascal.nameChars text.toList).head?.any Char.isUpper = true :=
      nameChars_head_isUpper rfl (by decide) text.toList
    have hchars : ∀ c ∈ pascal.nameChars text.toList, c.isAlphanum = true := fun c hc =>
      (mem_nameChars pascal_sound hc).resolve_right List.not_mem_nil
    rw [← toList_name] at hhead hchars
    obtain ⟨c, rest, hname⟩ : ∃ c rest, (pascal.name text).toList = c :: rest := by
      cases hname : (pascal.name text).toList with
      | nil => rw [hname] at hhead; cases hhead
      | cons c rest => exact ⟨c, rest, rfl⟩
    rw [hname] at hhead hchars
    exact ⟨c, rest, hname, hhead, fun d hd => hchars d (List.mem_cons_of_mem c hd)⟩
  · intro other hnames casing h
    -- the snake name keeps the words, and they are all that a casing looks at
    calc casing.name text
      _ = casing.name (snake.name text) := (name_of_words h (hsnake text)).symm
      _ = casing.name (snake.name other) := by rw [hnames]
      _ = casing.name other := name_of_words h (hsnake other)

/-- Two texts with the same words, the first of which begins with a digit. -/
theorem casings_canonical_sample :
    snake.name "3ds Check" = "service_3ds_check" ∧
    (∃ ws, Joined '_' ws "service_3ds_check" ∧ Joined '-' ws "service-3ds-check") ∧
    pascal.name "service_3ds_check" = "Service3dsCheck" ∧
    snake.name "3ds Check" = snake.name "--3ds_check" ∧
    pascal.name "3ds Check" = pascal.name "--3ds_check" := by
  obtain ⟨hjoined, -, hsame, hshared⟩ := casings_canonical "3ds Check"
  have hsnake : snake.name "3ds Check" = "service_3ds_check" := by decide
  have hkebab : kebab.name "3ds Check" = "service-3ds-check" := by decide
  have hpascal : pascal.name "3ds Check" = "Service3dsCheck" := by decide
  have hother : snake.name "3ds Check" = snake.name "--3ds_check" := by decide
  have hmem : pascal ∈ Casing.all := by simp [Casing.all]
  obtain ⟨hfromSnake, -⟩ := hsame pascal hmem
  rw [hsnake, hkebab] at hjoined
  rw [hsnake, hpascal] at hfromSnake
  exact ⟨hsnake, hjoined, hfromSnake, hother, hshared _ hother pascal hmem⟩

end Naming

end Choreography
