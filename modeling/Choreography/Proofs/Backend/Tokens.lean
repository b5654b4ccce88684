import Choreography.Backend.Rust
import Choreography.Proofs.Backend.Literals

/-!
# Rust modules as tokens

`scan` takes a text apart into words, string literals and single marks, one character at a time;
comments and blanks leave no trace. It knows the part of the language that modules are written in:
neither numbers nor characters in single quotes have a token of their own.

`Spells` says which tokens a piece of text leaves between two modes, so pieces are put together with
`Spells.append`.

- `spells_word`: a word ends where a character stands that is none of its own.
- `lexes_quote`: a literal is one token, whatever its text holds: quotes and backslashes stand
  behind backslashes only.
- `spells_blockComment`: a text that opens and closes its own comments in pairs can be put in a
  comment and closes it at its end, also without the blanks at its line ends.
- `exists_lexes_doc`: so a documentation text is a comment or an attribute of one literal.
-/

namespace Choreography

namespace Rust

/-! ## Tokens -/

/-- What a text consists of, comments and blanks apart. A literal is kept as it is spelled. -/
inductive Token where
  | word (text : String)
  | literal (spelling : String)
  | mark (c : Char)
  deriving DecidableEq, Repr

/-- What the next character belongs to. -/
inductive Mode where
  | code
  | word (read : List Char)
  /-- A slash, which may begin a comment. -/
  | slash
  | lineComment
  /-- A comment with some open comments around it, and its last character unless it belongs to an
  opening or closing already. -/
  | blockComment (depth : Nat) (last : Char)
  | literal (read : List Char)
  /-- A literal, behind a backslash. -/
  | escape (read : List Char)
  deriving DecidableEq, Repr

/-- A character where no token is open. -/
def Mode.start (c : Char) : List Token × Mode :=
  if isWordChar c then ([], .word [c])
  else if c = '"' then ([], .literal [c])
  else if c = '/' then ([], .slash)
  else if c = ' ' || c = '\n' then ([], .code)
  else ([.mark c], .code)

/-- One more character: the tokens that it completes and the mode behind it. -/
def Mode.next : Mode → Char → List Token × Mode
  | .code, c => start c
  | .word read, c =>
    if isWordChar c then ([], .word (read ++ [c]))
    else (.word (String.ofList read) :: (start c).1, (start c).2)
  | .slash, c =>
    if c = '/' then ([], .lineComment)
    else if c = '*' then ([], .blockComment 0 ' ')
    else (.mark '/' :: (start c).1, (start c).2)
  | .lineComment, c => ([], if c = '\n' then .code else .lineComment)
  | .blockComment depth last, c =>
    if last = '/' && c = '*' then ([], .blockComment (depth + 1) ' ')
    else if last = '*' && c = '/' then
      match depth with
      | 0 => ([], .code)
      | depth + 1 => ([], .blockComment depth ' ')
    else ([], .blockComment depth c)
  | .literal read, c =>
    if c = '"' then ([.literal (String.ofList (read ++ [c]))], .code)
    else if c = '\\' then ([], .escape (read ++ [c]))
    else ([], .literal (read ++ [c]))
  | .escape read, c => ([], .literal (read ++ [c]))

/-- The tokens of some characters, and the mode behind them. -/
def scan : Mode → List Char → List Token × Mode
  | mode, [] => ([], mode)
  | mode, c :: cs =>
    let (first, mode) := mode.next c
    let (others, mode) := scan mode cs
    (first ++ others, mode)

/-- The tokens of a text, if no token or comment is open at its end. -/
def tokens? (text : String) : Option (List Token) :=
  match scan .code text.toList with
  | (ts, .code) => some ts
  | _ => none

/-! ## Pieces of text -/

/-- The characters are taken apart into these tokens and lead from one mode to the other. -/
def Spells (mode : Mode) (cs : List Char) (ts : List Token) (mode' : Mode) : Prop :=
  scan mode cs = (ts, mode')

instance (mode : Mode) (cs : List Char) (ts : List Token) (mode' : Mode) :
    Decidable (Spells mode cs ts mode') := inferInstanceAs (Decidable (_ = _))

variable {mode mode' mode'' : Mode} {c : Char} {cs as bs : List Char} {ts us : List Token}

theorem Spells.nil (mode : Mode) : Spells mode [] [] mode := rfl

theorem Spells.cons (hc : mode.next c = (ts, mode')) (h : Spells mode' cs us mode'') :
    Spells mode (c :: cs) (ts ++ us) mode'' := by
  have hcs : scan mode' cs = (us, mode'') := h
  simp only [Spells, scan, hc, hcs]

theorem Spells.append (ha : Spells mode as ts mode') (hb : Spells mode' bs us mode'') :
    Spells mode (as ++ bs) (ts ++ us) mode'' := by
  induction as generalizing mode ts with
  | nil =>
    cases ha
    exact hb
  | cons c as ih =>
    cases ha
    rw [List.cons_append, List.append_assoc]
    exact .cons rfl (ih rfl)

/-- A text that stands between tokens. -/
def Lexes (text : String) (ts : List Token) : Prop := Spells .code text.toList ts .code

instance (text : String) (ts : List Token) : Decidable (Lexes text ts) :=
  inferInstanceAs (Decidable (Spells _ _ _ _))

theorem Lexes.tokens? {text : String} (h : Lexes text ts) : tokens? text = some ts := by
  have hscan : scan .code text.toList = (ts, .code) := h
  rw [Rust.tokens?, hscan]

theorem Lexes.append {a b : String} (ha : Lexes a ts) (hb : Lexes b us) :
    Lexes (a ++ b) (ts ++ us) := by
  rw [Lexes, String.toList_append]
  exact Spells.append ha hb

theorem Lexes.join {α : Type} {f : α → String} {g : α → List Token} {l : List α}
    (h : ∀ a ∈ l, Lexes (f a) (g a)) : Lexes (String.join (l.map f)) (l.flatMap g) := by
  induction l with
  | nil => exact Spells.nil _
  | cons a l ih =>
    obtain ⟨ha, hl⟩ := List.forall_mem_cons.1 h
    rw [List.map_cons, String.join_cons, List.flatMap_cons]
    exact ha.append (ih hl)

theorem spells_blanks (n : Nat) : Spells .code (List.replicate n ' ') [] .code := by
  induction n with
  | zero => exact .nil _
  | succ n ih => exact .cons rfl ih

/-- A line is its text, if the line end closes what the text has opened. -/
theorem lexes_line {text : String} (depth : Nat) (h : Spells .code text.toList ts mode)
    (hend : mode.next '\n' = ([], .code)) : Lexes (line depth text) ts := by
  have hbreak : Spells mode ['\n'] [] .code := .cons hend (.nil _)
  have := ((spells_blanks (4 * depth)).append h).append hbreak
  rw [List.nil_append, List.append_nil] at this
  rw [Lexes, line, String.toList_append, String.toList_append, String.toList_ofList]
  exact this

theorem Lexes.line {text : String} (depth : Nat) (h : Lexes text ts) : Lexes (line depth text) ts :=
  lexes_line depth h rfl

/-! ## Words -/

theorem spells_wordChars (read : List Char) (h : ∀ c ∈ cs, isWordChar c = true) :
    Spells (.word read) cs [] (.word (read ++ cs)) := by
  induction cs generalizing read with
  | nil =>
    rw [List.append_nil]
    exact .nil _
  | cons c cs ih =>
    obtain ⟨hc, hcs⟩ := List.forall_mem_cons.1 h
    have hnext : (Mode.word read).next c = ([], .word (read ++ [c])) := if_pos hc
    have := Spells.cons hnext (ih (read ++ [c]) hcs)
    rwa [List.append_assoc] at this

/-- A word is complete in front of a character that is no word character. -/
theorem spells_word {word : String} (hne : word ≠ "")
    (hword : ∀ c ∈ word.toList, isWordChar c = true) (hc : isWordChar c = false)
    (h : Spells .code (c :: cs) ts mode) :
    Spells .code (word.toList ++ c :: cs) (.word word :: ts) mode := by
  have hend : Spells (.word word.toList) (c :: cs) (.word word :: ts) mode := by
    have hnext : (Mode.word word.toList).next c =
        (.word word :: (Mode.start c).1, (Mode.start c).2) := by
      rw [Mode.next, if_neg (by simp [hc]), String.ofList_toList]
    cases h
    exact .cons hnext rfl
  cases hchars : word.toList with
  | nil => exact absurd (String.toList_injective hchars) hne
  | cons first rest =>
    rw [hchars] at hword hend
    obtain ⟨hfirst, hrest⟩ := List.forall_mem_cons.1 hword
    have hstart : Mode.code.next first = ([], .word [first]) := if_pos hfirst
    exact Spells.cons hstart ((spells_wordChars [first] hrest).append hend)

/-- The word characters of an identifier, and the keywords that it is not. -/
theorem isIdentifier_spec {word : String} (h : isIdentifier word = true) :
    word ≠ "" ∧ (∀ c ∈ word.toList, isWordChar c = true) ∧ word ∉ keywords := by
  simp only [isIdentifier, Bool.and_eq_true, Bool.not_eq_true', List.isEmpty_eq_false_iff,
    decide_eq_true_eq, List.all_eq_true] at h
  obtain ⟨⟨⟨hne, -⟩, hchars⟩, hkeyword⟩ := h
  exact ⟨fun h => hne (by rw [h]; rfl), hchars, hkeyword⟩

/-- An identifier in front of a text that does not go on with a word character. -/
theorem Lexes.word {name text : String} (hname : isIdentifier name = true)
    (hhead : text.toList.head? = some c) (hc : isWordChar c = false) (h : Lexes text ts) :
    Lexes (name ++ text) (.word name :: ts) := by
  obtain ⟨hne, hchars, -⟩ := isIdentifier_spec hname
  obtain ⟨rest, htext⟩ := List.head?_eq_some_iff.1 hhead
  rw [Lexes, htext] at h
  rw [Lexes, String.toList_append, htext]
  exact spells_word hne hchars hc h

/-! ## Literals -/

/-- Behind a backslash any character belongs to the literal, so no quote within it ends it. -/
theorem spells_sealed (read : List Char) (h : Text.Sealed cs) :
    Spells (.literal read) cs [] (.literal (read ++ cs)) := by
  induction h generalizing read with
  | nil =>
    rw [List.append_nil]
    exact .nil _
  | @plain c cs hc _ ih =>
    have hnext : (Mode.literal read).next c = ([], .literal (read ++ [c])) := by
      rw [Mode.next, if_neg hc.1, if_neg hc.2]
    have := Spells.cons hnext (ih (read ++ [c]))
    rwa [List.append_assoc] at this
  | @escape c cs _ ih =>
    have hopen : (Mode.literal read).next '\\' = ([], .escape (read ++ ['\\'])) := rfl
    have hescape : (Mode.escape (read ++ ['\\'])).next c =
        ([], .literal (read ++ ['\\'] ++ [c])) := rfl
    have := Spells.cons hopen (.cons hescape (ih _))
    rwa [List.append_assoc, List.append_assoc] at this

/-- The literal of a text is one token. -/
theorem lexes_quote (text : String) :
    Lexes (RustLiteral.quote text) [.literal (RustLiteral.quote text)] := by
  have hbody := spells_sealed ['"'] (RustLiteral.spelled_body Text.visible text.toList).isSealed
  have hclose : Spells (.literal ('"' :: RustLiteral.body Text.visible text.toList)) ['"']
      [.literal (RustLiteral.quote text)] .code := .cons rfl (.nil _)
  have hopen : Mode.code.next '"' = ([], .literal ['"']) := rfl
  have htext : (RustLiteral.quote text).toList =
      '"' :: (RustLiteral.body Text.visible text.toList ++ ['"']) := String.toList_ofList
  rw [Lexes, htext]
  exact .cons hopen (hbody.append hclose)

/-! ## Comments -/

theorem spells_lineComment (h : '\n' ∉ cs) : Spells .lineComment cs [] .lineComment := by
  induction cs with
  | nil => exact .nil _
  | cons c cs ih =>
    rw [List.mem_cons, not_or] at h
    have hnext : Mode.lineComment.next c = ([], .lineComment) := by
      rw [Mode.next, if_neg (Ne.symm h.1)]
    exact .cons hnext (ih h.2)

theorem head?_of_trimLineEnds (h : (trimLineEnds cs).head? = some '\n') :
    cs.head? = some ' ' ∨ cs.head? = some '\n' := by
  cases cs with
  | nil => cases h
  | cons c rest =>
    rw [trimLineEnds] at h
    by_cases hc : (c = ' ' && (trimLineEnds rest).head? = some '\n') = true
    · simp only [Bool.and_eq_true, decide_eq_true_eq] at hc
      rw [hc.1]
      exact .inl rfl
    · rw [if_neg hc] at h
      exact .inr h

theorem getLast?_ne_of_cons {d : Char} (h : (c :: cs).getLast? ≠ some d) :
    cs.getLast? ≠ some d := by
  intro hcs
  rw [List.getLast?_cons, hcs] at h
  exact h rfl

/-- A text that opens and closes its comments in pairs is passed over, and the comment around it is
closed by what stands behind it. The character in front must not make an opening or a closing with
the first one, nor the last one with what stands behind. -/
theorem spells_blockComment {depth : Nat} {last : Char} (hnest : commentsNest depth cs = true)
    (hlast : cs.getLast? ≠ some '/') (hopening : last = '/' → cs ≠ [] ∧ cs.head? ≠ some '*')
    (hclosing : last = '*' → cs.head? ≠ some '/') :
    Spells (.blockComment depth last) (trimLineEnds (cs ++ ['*', '/'])) [] .code := by
  -- the cases are those of the count; by `hopening` and `hclosing` the character in front makes no
  -- pair with the next one, which the lexer would see and the count would not
  fun_induction commentsNest depth cs generalizing last with
  | case1 depth rest ih =>
    -- the text opens a comment of its own
    have hslash : (Mode.blockComment depth last).next '/' = ([], .blockComment depth '/') := by
      have : last ≠ '*' := fun h => hclosing h rfl
      simp [Mode.next, this]
    have hstar : (Mode.blockComment depth '/').next '*' = ([], .blockComment (depth + 1) ' ') := rfl
    exact .cons hslash (.cons hstar
      (ih hnest (getLast?_ne_of_cons (getLast?_ne_of_cons hlast)) (by simp) (by simp)))
  | case2 rest => cases hnest
  | case3 depth rest ih =>
    -- the text closes a comment of its own
    have hstar : (Mode.blockComment (depth + 1) last).next '*' =
        ([], .blockComment (depth + 1) '*') := by
      have : last ≠ '/' := fun h => (hopening h).2 rfl
      simp [Mode.next, this]
    have hslash : (Mode.blockComment (depth + 1) '*').next '/' =
        ([], .blockComment depth ' ') := rfl
    exact .cons hstar (.cons hslash
      (ih hnest (getLast?_ne_of_cons (getLast?_ne_of_cons hlast)) (by simp) (by simp)))
  | case4 depth c rest hopen hclose hclose' ih =>
    rw [List.cons_append, trimLineEnds]
    split_ifs with hblank
    · -- a blank in front of a line end leaves no trace
      simp only [Bool.and_eq_true, decide_eq_true_eq] at hblank
      have hhead := head?_of_trimLineEnds hblank.2
      cases rest with
      | nil => simp at hhead
      | cons d rest =>
        refine ih hnest (getLast?_ne_of_cons hlast)
          (fun _ => ⟨List.cons_ne_nil _ _, ?_⟩) fun _ => ?_
        all_goals
          rw [List.cons_append, List.head?_cons] at hhead
          rcases hhead with h | h <;> simp [Option.some.inj h]
    · have hnext : (Mode.blockComment depth last).next c = ([], .blockComment depth c) := by
        have hno : ¬(last = '/' ∧ c = '*') := fun h => (hopening h.1).2 (by rw [h.2]; rfl)
        have hnc : ¬(last = '*' ∧ c = '/') := fun h => hclosing h.1 (by rw [h.2]; rfl)
        simp [Mode.next, hno, hnc]
      -- an ordinary character: it makes no pair with the next one either, or another case would
      -- count it
      refine .cons hnext (ih hnest (getLast?_ne_of_cons hlast) ?_ ?_)
      · rintro rfl
        constructor
        · rintro rfl
          exact hlast rfl
        · intro h
          obtain ⟨more, rfl⟩ := List.head?_eq_some_iff.1 h
          exact hopen more rfl rfl
      · rintro rfl h
        obtain ⟨more, rfl⟩ := List.head?_eq_some_iff.1 h
        cases depth with
        | zero => exact hclose more rfl rfl rfl
        | succ depth => exact hclose' depth more rfl rfl rfl
  | case5 depth =>
    -- the text has ended, and what stands behind it closes the comment around it
    have hdepth : depth = 0 := of_decide_eq_true hnest
    have hstar : (Mode.blockComment depth last).next '*' = ([], .blockComment depth '*') := by
      have : last ≠ '/' := fun h => (hopening h).1 rfl
      simp [Mode.next, this]
    have hslash : (Mode.blockComment depth '*').next '/' = ([], .code) := by rw [hdepth]; rfl
    exact .cons hstar (.cons hslash (.nil _))

/-! ## Documentation -/

/-- The tokens that begin or end a declaration. -/
def declaring : List Token := [.word "const", .word "trait", .word "fn", .mark '\x7d']

/-- Nothing is declared among the tokens. -/
def Silent (ts : List Token) : Prop := ∀ t ∈ ts, t ∉ declaring

instance (ts : List Token) : Decidable (Silent ts) := inferInstanceAs (Decidable (∀ t ∈ ts, _))

theorem Silent.append (ha : Silent ts) (hb : Silent us) : Silent (ts ++ us) :=
  List.forall_mem_append.2 ⟨ha, hb⟩

theorem silent_literal (spelling : String) : Silent [.literal spelling] := by
  simp [Silent, declaring]

/-- What the openings of a documentation style lead to. -/
structure DocStyle.Sound (style : DocStyle) : Prop where
  lineStart : ∃ rest, style.lineComment.toList = '/' :: '/' :: rest ∧ '\n' ∉ rest
  blockStart : ∃ last, Spells .code style.blockComment.toList [] (.blockComment 0 last) ∧ last ≠ '/'
  notBlank : ' ' ∉ style.blockComment.toList
  literalStart : ∃ ts, Lexes style.attributeStart ts ∧ Silent ts

theorem DocStyle.outer_sound : DocStyle.outer.Sound where
  lineStart := ⟨['/'], by decide, by decide⟩
  blockStart := ⟨'*', by decide, by decide⟩
  notBlank := by decide
  literalStart := ⟨[.mark '#', .mark '[', .word "doc", .mark '='], by decide, by decide⟩

theorem DocStyle.inner_sound : DocStyle.inner.Sound where
  lineStart := ⟨['!'], by decide, by decide⟩
  blockStart := ⟨'!', by decide, by decide⟩
  notBlank := by decide
  literalStart := ⟨[.mark '#', .mark '!', .mark '[', .word "doc", .mark '='], by decide, by decide⟩

/-- Whatever stands behind a character that is not blank, the character is kept. -/
theorem trimEnd_cons (hc : c ≠ ' ') (cs : List Char) : trimEnd (c :: cs) = c :: trimEnd cs := by
  unfold trimEnd
  rw [List.reverse_cons, List.dropWhile_append]
  split
  · next h =>
    rw [List.isEmpty_iff.1 h]
    simp [hc]
  · rw [List.reverse_append]
    rfl

theorem mem_of_mem_trimEnd (h : c ∈ trimEnd cs) : c ∈ cs := by
  have := (List.dropWhile_sublist _).subset (List.mem_reverse.1 h)
  exact List.mem_reverse.1 this

theorem trimLineEnds_append (h : ' ' ∉ as) :
    trimLineEnds (as ++ bs) = as ++ trimLineEnds bs := by
  induction as with
  | nil => rfl
  | cons a as ih =>
    rw [List.mem_cons, not_or] at h
    rw [List.cons_append, trimLineEnds, ih h.2]
    simp [Ne.symm h.1]

variable {style : DocStyle} {text : String}

theorem spells_lineDoc (hstyle : style.Sound) (h : '\n' ∉ cs) :
    Spells .code (trimEnd (style.lineComment.toList ++ cs)) [] .lineComment := by
  obtain ⟨mark, hline, hmark⟩ := hstyle.lineStart
  have hrest : '\n' ∉ trimEnd (mark ++ cs) := fun hmem =>
    (List.mem_append.1 (mem_of_mem_trimEnd hmem)).elim hmark h
  rw [hline, List.cons_append, List.cons_append, trimEnd_cons (by decide), trimEnd_cons (by decide)]
  exact .cons rfl (.cons rfl (spells_lineComment hrest))

theorem spells_blockDoc (hstyle : style.Sound) (hnest : commentsNest 0 cs = true)
    (hlast : cs.getLast? ≠ some '/') (hfirst : cs.head? = some ' ') :
    Spells .code (trimLineEnds (style.blockComment.toList ++ cs ++ "*/".toList)) [] .code := by
  obtain ⟨last, hblock, hne⟩ := hstyle.blockStart
  rw [List.append_assoc, trimLineEnds_append hstyle.notBlank]
  refine hblock.append (spells_blockComment hnest hlast (fun h => absurd h hne) fun _ => ?_)
  rw [hfirst]
  decide

/-- A documentation text that begins with a blank declares nothing. -/
theorem exists_lexes_doc (hstyle : style.Sound) (depth : Nat)
    (htext : text.toList.head? = some ' ') :
    ∃ ts, Lexes (doc style depth text) ts ∧ Silent ts := by
  unfold doc
  dsimp only
  -- a documentation is a line comment, a block comment or an attribute
  split
  · next hbreak =>
    have hspells := spells_lineDoc hstyle hbreak
    rw [← String.toList_ofList (l := trimEnd _)] at hspells
    exact ⟨[], lexes_line depth hspells rfl, by decide⟩
  split
  · next hnest =>
    simp only [Bool.and_eq_true, decide_eq_true_eq] at hnest
    refine ⟨[], Lexes.line depth ?_, by decide⟩
    rw [Lexes, String.toList_ofList]
    exact spells_blockDoc hstyle hnest.1 hnest.2 htext
  · obtain ⟨opening, hopening, hsilent⟩ := hstyle.literalStart
    have hclose : Lexes "]" [.mark ']'] := by decide
    refine ⟨opening ++ [Token.literal (RustLiteral.quote text)] ++ [Token.mark ']'],
      Lexes.line depth ?_, ?_⟩
    · exact (hopening.append (lexes_quote text)).append hclose
    · exact (hsilent.append (silent_literal _)).append (by decide)

end Rust

end Choreography
