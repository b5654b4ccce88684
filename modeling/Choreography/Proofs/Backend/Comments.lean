import Choreography.Proofs.Backend.Declarations
import Choreography.Proofs.Backend.Interfaces
import Mathlib.Data.List.DropRight

/-!
# Service texts in comments

The names, identifiers and events of services stand in comments, and not all of them are spelled
there as they are in the code.

- `TypeScript.headComment_moduleFile_iff`: the comment at the head of a module keeps to its two
  lines just in case the identifier is of one line, and the name has no line end that JSON leaves
  as it is.
- `Rust.hasLoneReturn_moduleText_iff`: a module has a carriage return without a line feed just in
  case a documentation text leaves one. A text that is written as an attribute leaves none.
- `comments_unbroken_iff`: so it is for the files of any services. An identifier of two lines and an
  event with a carriage return break their comments (`texts_break_comments`).
-/

namespace Choreography

/-! ## TypeScript -/

namespace TypeScript

/-- The characters that end a line. -/
def lineEnds : List Char := ['\n', '\r', '\u2028', '\u2029']

/-- The lines of a text, for all line ends there are. -/
def sourceLines : List Char → List (List Char)
  | [] => [[]]
  | '\r' :: '\n' :: rest => [] :: sourceLines rest
  | c :: rest =>
    if c ∈ lineEnds then [] :: sourceLines rest
    else (sourceLines rest).modifyHead (c :: ·)

/-- The lines in front of the first blank one. -/
def headComment (text : String) : List (List Char) :=
  (sourceLines text.toList).takeWhile (· ≠ [])

/-- No line ends among the characters. -/
def Unbroken (cs : List Char) : Prop := ∀ c ∈ cs, c ∉ lineEnds

instance (cs : List Char) : Decidable (Unbroken cs) := List.decidableBAll _ _

variable {as bs cs rest : List Char}

@[simp] theorem unbroken_append : Unbroken (as ++ bs) ↔ Unbroken as ∧ Unbroken bs :=
  List.forall_mem_append

/-- A line that a line feed ends. -/
theorem sourceLines_append (h : Unbroken cs) (rest : List Char) :
    sourceLines (cs ++ '\n' :: rest) = cs :: sourceLines rest := by
  induction cs with
  | nil =>
    rw [List.nil_append, sourceLines, if_pos (by decide)]
    exact nofun
  | cons c cs ih =>
    obtain ⟨hc, hcs⟩ := List.forall_mem_cons.1 h
    rw [List.cons_append, sourceLines, if_neg hc, ih hcs]
    · rfl
    · rintro rest rfl
      exact absurd (by decide) hc

theorem unbroken_of_mem {line : List Char} (h : line ∈ sourceLines cs) : Unbroken line := by
  -- a line end is consumed where it ends a line, so a line is made of the other characters
  fun_induction sourceLines cs generalizing line with
  | case1 =>
    rw [List.mem_singleton.1 h]
    exact nofun
  | case2 rest ih =>
    rcases List.mem_cons.1 h with rfl | h
    · exact nofun
    · exact ih h
  | case3 c rest _ hc ih =>
    rcases List.mem_cons.1 h with rfl | h
    · exact nofun
    · exact ih h
  | case4 c rest _ hc ih =>
    cases hlines : sourceLines rest with
    | nil =>
      rw [hlines] at h
      cases h
    | cons first others =>
      rw [hlines, List.modifyHead_cons] at h
      rcases List.mem_cons.1 h with rfl | h
      · have hfirst : Unbroken first := ih (hlines ▸ List.mem_cons_self)
        exact List.forall_mem_cons.2 ⟨hc, hfirst⟩
      · exact ih (hlines ▸ List.mem_cons_of_mem _ h)

/-- JSON escapes two of the four line ends. -/
theorem unbroken_quote (text : String) : Unbroken (Json.quote text).toList ↔
    '\u2028' ∉ text.toList ∧ '\u2029' ∉ text.toList := by
  have hquote : (Json.quote text).toList = '"' :: (text.toList.flatMap Json.escape ++ ['"']) :=
    String.toList_ofList
  constructor
  · intro h
    have hraw : ∀ c ∈ lineEnds, c ∈ Json.escape c → c ∉ text.toList := by
      intro c hc hescape hmem
      refine h c ?_ hc
      rw [hquote]
      exact List.mem_cons_of_mem _ (List.mem_append_left _ (List.mem_flatMap.2 ⟨c, hmem, hescape⟩))
    exact ⟨hraw _ (by decide) (by decide), hraw _ (by decide) (by decide)⟩
  · rintro ⟨hline, hparagraph⟩ c hmem hc
    -- all other line ends are control characters, which are escaped
    have hlate : ∀ c ∈ lineEnds, ' ' ≤ c → ¬c ≤ '~' ∧ (c = '\u2028' ∨ c = '\u2029') := by
      simp only [lineEnds, List.forall_mem_cons, List.not_mem_nil, false_imp_iff, implies_true,
        and_true]
      decide
    rw [hquote, List.mem_cons, List.mem_append, List.mem_flatMap, List.mem_singleton] at hmem
    rcases hmem with rfl | ⟨d, hd, hmem⟩ | rfl
    · exact absurd hc (by decide)
    · obtain ⟨hspace, hescape⟩ := Json.mem_escape hmem
      obtain ⟨htilde, hseparator⟩ := hlate c hc hspace
      cases hescape.resolve_right htilde
      rcases hseparator with rfl | rfl
      · exact hline hd
      · exact hparagraph hd
    · exact absurd hc (by decide)

theorem unlines_append (ls ms : List String) : unlines (ls ++ ms) = unlines ls ++ unlines ms := by
  rw [unlines, List.map_append, String.join_append]
  rfl

theorem sourceLines_unlines {line : String} (h : Unbroken line.toList) (others : List String) :
    sourceLines (unlines (line :: others)).toList =
      line.toList :: sourceLines (unlines others).toList := by
  have hsplit : (unlines (line :: others)).toList =
      line.toList ++ '\n' :: (unlines others).toList := by
    simp [unlines, String.toList_append]
  rw [hsplit, sourceLines_append h]

/-- Lines in front of a blank one are read back just in case no line ends within them. -/
theorem headComment_unlines_iff {head others : List String} (hne : ∀ line ∈ head, line ≠ "") :
    headComment (unlines (head ++ "" :: others)) = head.map (·.toList) ↔
      ∀ line ∈ head, Unbroken line.toList := by
  constructor
  · intro h line hline
    have hmem : line.toList ∈ headComment (unlines (head ++ "" :: others)) :=
      h ▸ List.mem_map_of_mem hline
    exact unbroken_of_mem ((List.takeWhile_sublist _).subset hmem)
  · intro h
    unfold headComment
    -- the comment goes on to the first empty line, and no line of the head is empty
    induction head with
    | nil =>
      rw [List.nil_append, sourceLines_unlines (by decide)]
      rfl
    | cons line head ih =>
      obtain ⟨hline, hhead⟩ := List.forall_mem_cons.1 h
      obtain ⟨hlineNe, hheadNe⟩ := List.forall_mem_cons.1 hne
      have hchars : line.toList ≠ [] := fun heq => hlineNe (String.toList_injective heq)
      rw [List.cons_append, sourceLines_unlines hline, List.takeWhile_cons_of_pos,
        ih hheadNe hhead, List.map_cons]
      exact decide_eq_true hchars

theorem unbroken_headLines_iff (s : Service) : (∀ line ∈ headLines s, Unbroken line.toList) ↔
    Unbroken s.id.text.toList ∧ '\u2028' ∉ s.name.toList ∧ '\u2029' ∉ s.name.toList := by
  have hnotice : Unbroken ("// " ++ generatedNotice).toList := by decide
  have hopening : Unbroken "// Service ".toList := by decide
  have hbracket : Unbroken " (".toList := by decide
  have hclosing : Unbroken ")".toList := by decide
  rw [String.toList_append, unbroken_append] at hnotice
  simp only [headLines, List.forall_mem_cons, List.not_mem_nil, false_imp_iff, implies_true,
    String.toList_append, unbroken_append, unbroken_quote, hnotice, hopening, hbracket, hclosing,
    and_true, true_and]
  exact and_comm

/-- Behind the head of a module stands a blank line. -/
theorem exists_moduleLines (s : Service) (stem : String) :
    ∃ others, moduleLines stem s = headLines s ++ "" :: others := by
  unfold moduleLines interfaceLines
  split
  · exact ⟨_, by simp only [List.append_assoc, List.cons_append]; rfl⟩
  · exact ⟨_, by simp only [List.append_assoc, List.cons_append]; rfl⟩

/-- The comment at the head of a module keeps to its two lines just in case the identifier is of
one line, and the name has no line end that JSON leaves as it is. -/
theorem headComment_moduleFile_iff (s : Service) (moduleStem stem : String) :
    headComment (moduleFile s moduleStem stem).content = (headLines s).map (·.toList) ↔
      Unbroken s.id.text.toList ∧ '\u2028' ∉ s.name.toList ∧ '\u2029' ∉ s.name.toList := by
  obtain ⟨others, hothers⟩ := exists_moduleLines s stem
  have hne : ∀ line ∈ headLines s, line ≠ "" := by
    rintro line hline rfl
    exact absurd (getElem?_headLines s "" hline) (by decide)
  rw [moduleFile, hothers, headComment_unlines_iff hne, unbroken_headLines_iff]

end TypeScript

/-! ## Rust -/

namespace Rust

/-- There is a carriage return without a line feed behind it. -/
def hasLoneReturn : List Char → Bool
  | [] => false
  | c :: rest => (c = '\r' && rest.head? ≠ some '\n') || hasLoneReturn rest

/-- There is a carriage return without a line feed behind it, even if the blanks in front of line
ends are taken away. -/
def returnStays : List Char → Bool
  | [] => false
  | c :: rest => (c = '\r' && (rest.dropWhile (· = ' ')).head? ≠ some '\n') || returnStays rest

/-- The text leaves a lone carriage return in its comment. It is no comment, but an attribute, if
it has several lines and its own comments do not nest. -/
def LeavesReturn (text : String) : Prop :=
  returnStays text.toList = true ∧ ('\n' ∉ text.toList ∨ commentsNest 0 text.toList = true)

instance (text : String) : Decidable (LeavesReturn text) := inferInstanceAs (Decidable (_ ∧ _))

/-- The documentation texts of a module that name something of the service. -/
def docTexts (s : Service) : List String :=
  moduleDoc s :: s.operations.map handlerDoc ++ s.calls.map senderDoc

variable {as bs cs : List Char} {a b text : String} {p q : Prop}

/-! ### Carriage returns -/

theorem hasLoneReturn_eq_false (h : '\r' ∉ cs) : hasLoneReturn cs = false := by
  induction cs with
  | nil => rfl
  | cons c cs ih =>
    rw [List.mem_cons, not_or] at h
    simp [hasLoneReturn, Ne.symm h.1, ih h.2]

/-- The end of a text decides nothing if no carriage return stands in front of it. -/
theorem hasLoneReturn_append (h : as.getLast? ≠ some '\r') :
    hasLoneReturn (as ++ bs) = (hasLoneReturn as || hasLoneReturn bs) := by
  induction as with
  | nil => rfl
  | cons a as ih =>
    rw [List.cons_append, hasLoneReturn, hasLoneReturn, ih (getLast?_ne_of_cons h), Bool.or_assoc]
    cases as with
    | nil =>
      have ha : a ≠ '\r' := fun heq => h (by rw [heq]; rfl)
      simp [ha]
    | cons => rfl

theorem returnStays_eq_false (h : '\r' ∉ cs) : returnStays cs = false := by
  induction cs with
  | nil => rfl
  | cons c cs ih =>
    rw [List.mem_cons, not_or] at h
    simp [returnStays, Ne.symm h.1, ih h.2]

theorem head?_trimLineEnds_iff : (trimLineEnds cs).head? = some '\n' ↔
    (cs.dropWhile (· = ' ')).head? = some '\n' := by
  induction cs with
  | nil => rfl
  | cons c cs ih =>
    by_cases hc : c = ' '
    · subst hc
      by_cases hbreak : (trimLineEnds cs).head? = some '\n'
      · simp [trimLineEnds, hbreak, ← ih]
      · simp [trimLineEnds, hbreak, ← ih]
    · simp [trimLineEnds, hc]

theorem hasLoneReturn_trimLineEnds (cs : List Char) :
    hasLoneReturn (trimLineEnds cs) = returnStays cs := by
  induction cs with
  | nil => rfl
  | cons c cs ih =>
    rw [trimLineEnds, returnStays]
    split
    · next h =>
      simp only [Bool.and_eq_true, decide_eq_true_eq] at h
      simp [ih, h.1]
    · rw [hasLoneReturn, ih]
      congr 2
      simp only [ne_eq, decide_not, head?_trimLineEnds_iff]

theorem trimLineEnds_eq_self (h : '\n' ∉ cs) : trimLineEnds cs = cs := by
  induction cs with
  | nil => rfl
  | cons c cs ih =>
    rw [List.mem_cons, not_or] at h
    rw [trimLineEnds, ih h.2, if_neg]
    intro hc
    simp only [Bool.and_eq_true, decide_eq_true_eq] at hc
    exact h.2 (List.mem_of_head? hc.2)

theorem trimEnd_eq_self (h : cs.getLast? ≠ some ' ') : trimEnd cs = cs := by
  refine List.rdropWhile_eq_self_iff.2 fun hne hblank => h ?_
  rw [List.getLast?_eq_some_getLast hne, of_decide_eq_true hblank]

/-- Blanks at the end of a text stay if no line end follows. -/
theorem trimLineEnds_append_of_not_mem (h : '\n' ∉ bs) :
    trimLineEnds (as ++ bs) = trimLineEnds as ++ bs := by
  induction as with
  | nil => exact trimLineEnds_eq_self h
  | cons a as ih =>
    have hhead : (trimLineEnds as ++ bs).head? = some '\n' ↔
        (trimLineEnds as).head? = some '\n' := by
      rw [List.head?_append, Option.or_eq_some_iff]
      exact or_iff_left fun hbs => h (List.mem_of_head? hbs.2)
    rw [List.cons_append, trimLineEnds, trimLineEnds, ih]
    simp only [hhead]
    split
    · rfl
    · rfl

/-! ### Texts without carriage returns -/

/-- No carriage return stands in the text. -/
def NoReturn (text : String) : Prop := '\r' ∉ text.toList

instance (text : String) : Decidable (NoReturn text) := inferInstanceAs (Decidable (_ ∉ _))

theorem NoReturn.append (ha : NoReturn a) (hb : NoReturn b) : NoReturn (a ++ b) := by
  rw [NoReturn, String.toList_append, List.mem_append]
  exact fun h => h.elim ha hb

theorem NoReturn.join {texts : List String} (h : ∀ t ∈ texts, NoReturn t) :
    NoReturn (String.join texts) := by
  rw [NoReturn, String.toList_join, List.mem_flatMap]
  rintro ⟨t, ht, hmem⟩
  exact h t ht hmem

theorem NoReturn.intercalate {separator : String} {texts : List String}
    (hseparator : NoReturn separator) (h : ∀ t ∈ texts, NoReturn t) :
    NoReturn (separator.intercalate texts) := by
  induction texts with
  | nil => exact List.not_mem_nil
  | cons first texts ih =>
    obtain ⟨hfirst, hrest⟩ := List.forall_mem_cons.1 h
    cases texts with
    | nil => rwa [String.intercalate_singleton]
    | cons second texts =>
      rw [String.intercalate_cons_cons]
      exact (hfirst.append hseparator).append (ih hrest)

theorem noReturn_blanks (n : Nat) : NoReturn (String.ofList (List.replicate n ' ')) := by
  rw [NoReturn, String.toList_ofList]
  exact fun hmem => absurd (List.eq_of_mem_replicate hmem) (by decide)

theorem NoReturn.line (h : NoReturn text) (depth : Nat) : NoReturn (line depth text) :=
  ((noReturn_blanks _).append h).append (by decide)

theorem noReturn_identifier {name : String} (h : isIdentifier name = true) : NoReturn name :=
  fun hmem => absurd ((isIdentifier_spec h).2.1 _ hmem) (by decide)

/-- A literal spells carriage returns as escapes. -/
theorem noReturn_quote (text : String) : NoReturn (RustLiteral.quote text) := by
  have hbody : '\r' ∉ RustLiteral.body Text.visible text.toList := fun hmem =>
    absurd ((RustLiteral.spelled_body _ _).space_le Text.visible_eq_false _ hmem) (by decide)
  rw [NoReturn, RustLiteral.quote, String.toList_ofList, RustLiteral.chars, List.mem_append,
    List.mem_cons]
  rintro ((h | h) | h)
  · exact absurd h (by decide)
  · exact hbody h
  · exact absurd h (by decide)

theorem noReturn_table {name : String} (hname : NoReturn name) (entries : List String) :
    NoReturn (table name entries) := by
  have hliterals : ∀ l ∈ entries.map RustLiteral.quote, NoReturn l := by
    simp only [List.forall_mem_map]
    exact fun entry _ => noReturn_quote entry
  have hopening : NoReturn ("pub const " ++ name ++ ": &[&str] = &[") :=
    (NoReturn.append (by decide) hname).append (by decide)
  unfold table
  dsimp only
  split
  · exact ((hopening.append (.intercalate (by decide) hliterals)).append (by decide)).line 0
  · refine ((hopening.line 0).append (.join ?_)).append (by decide)
    rw [List.forall_mem_map]
    exact fun l hl => ((hliterals l hl).append (by decide)).line 1

theorem noReturn_method {name : String} (hname : NoReturn name) : NoReturn (method name) := by
  have hopening : NoReturn ("fn " ++ name) := NoReturn.append (by decide) hname
  unfold method
  dsimp only
  split
  · exact (hopening.append (by decide)).line 1
  · exact (((hopening.append (by decide)).line 1).append (by decide)).append (by decide)

/-! ### Lone carriage returns -/

/-- Whatever follows, there is a lone carriage return in the text just in case. -/
structure Returns (text : String) (p : Prop) : Prop where
  closed : text.toList.getLast? ≠ some '\r'
  iff : hasLoneReturn text.toList = true ↔ p

theorem NoReturn.returns (h : NoReturn text) : Returns text False where
  closed hlast := h (List.mem_of_getLast? hlast)
  iff := by simp [hasLoneReturn_eq_false h]

theorem Returns.append (ha : Returns a p) (hb : Returns b q) : Returns (a ++ b) (p ∨ q) where
  closed := by
    rw [String.toList_append, List.getLast?_append]
    intro h
    rcases Option.or_eq_some_iff.1 h with h | ⟨-, h⟩
    · exact hb.closed h
    · exact ha.closed h
  iff := by
    rw [String.toList_append, hasLoneReturn_append ha.closed, Bool.or_eq_true, ha.iff, hb.iff]

theorem Returns.before (ha : Returns a p) (hb : Returns b False) : Returns (a ++ b) p := by
  simpa using ha.append hb

theorem Returns.behind (hb : Returns b p) (ha : NoReturn a) : Returns (a ++ b) p := by
  simpa using ha.returns.append hb

theorem Returns.join {α : Type} {f : α → String} {p : α → Prop} {l : List α}
    (h : ∀ x ∈ l, Returns (f x) (p x)) : Returns (String.join (l.map f)) (∃ x ∈ l, p x) := by
  induction l with
  | nil => exact ⟨by simp, by simp [hasLoneReturn]⟩
  | cons x l ih =>
    obtain ⟨hx, hl⟩ := List.forall_mem_cons.1 h
    rw [List.map_cons, String.join_cons, List.exists_mem_cons_iff]
    exact hx.append (ih hl)

theorem Returns.line (h : Returns text p) (depth : Nat) : Returns (line depth text) p :=
  (h.behind (noReturn_blanks _)).before (NoReturn.returns (by decide))

/-- The openings of a documentation style have no carriage return. -/
structure DocStyle.Plain (style : DocStyle) : Prop where
  lineComment : NoReturn style.lineComment
  blockComment : NoReturn style.blockComment
  attributeStart : NoReturn style.attributeStart

theorem DocStyle.outer_plain : DocStyle.outer.Plain := ⟨by decide, by decide, by decide⟩

theorem DocStyle.inner_plain : DocStyle.inner.Plain := ⟨by decide, by decide, by decide⟩

section Docs

variable {style : DocStyle} (hlast : text.toList.getLast? = some '.')

include hlast

theorem returns_lineDoc (hplain : style.Plain) (hbreak : '\n' ∉ text.toList) :
    Returns (String.ofList (trimEnd (style.lineComment.toList ++ text.toList)))
      (returnStays text.toList = true) := by
  have hblank : (style.lineComment.toList ++ text.toList).getLast? ≠ some ' ' := by
    rw [List.getLast?_append, hlast, Option.some_or]
    decide
  have htext : Returns text (returnStays text.toList = true) := by
    constructor
    · rw [hlast]
      decide
    · rw [← hasLoneReturn_trimLineEnds, trimLineEnds_eq_self hbreak]
  rw [trimEnd_eq_self hblank, ← String.toList_append, String.ofList_toList]
  exact htext.behind hplain.lineComment

theorem returns_blockDoc (hstyle : style.Sound) (hplain : style.Plain) :
    Returns (String.ofList (trimLineEnds (style.blockComment.toList ++ text.toList ++ "*/".toList)))
      (returnStays text.toList = true) := by
  have htext : Returns (String.ofList (trimLineEnds text.toList))
      (returnStays text.toList = true) := by
    constructor
    · obtain ⟨cs, hcs⟩ := List.getLast?_eq_some_iff.1 hlast
      rw [String.toList_ofList, hcs, trimLineEnds_append_of_not_mem (by decide),
        List.getLast?_concat]
      decide
    · rw [String.toList_ofList, hasLoneReturn_trimLineEnds]
  -- only the text is trimmed, not the marks around it
  have hcomment : String.ofList
      (trimLineEnds (style.blockComment.toList ++ text.toList ++ "*/".toList)) =
        style.blockComment ++ String.ofList (trimLineEnds text.toList) ++ "*/" := by
    rw [trimLineEnds_append_of_not_mem (by decide), trimLineEnds_append hstyle.notBlank]
    simp [String.ofList_append, String.append_assoc]
  rw [hcomment]
  exact (htext.behind hplain.blockComment).before (NoReturn.returns (by decide))

/-- What becomes of a documentation text that ends in a full stop. -/
theorem returns_doc (hstyle : style.Sound) (hplain : style.Plain) (depth : Nat) :
    Returns (doc style depth text) (LeavesReturn text) := by
  unfold doc LeavesReturn
  dsimp only
  split
  · next hbreak =>
    simpa [hbreak] using (returns_lineDoc hlast hplain hbreak).line depth
  next hbreak =>
  split
  · next hnest =>
    simp only [Bool.and_eq_true, decide_eq_true_eq] at hnest
    simpa [hnest.1] using (returns_blockDoc hlast hstyle hplain).line depth
  · next hnest =>
    have hnest : commentsNest 0 text.toList = false := by simpa [hlast] using hnest
    have hattribute : NoReturn (style.attributeStart ++ RustLiteral.quote text ++ "]") :=
      (hplain.attributeStart.append (noReturn_quote text)).append (by decide)
    simpa [hbreak, hnest] using (hattribute.line depth).returns

theorem returns_plainDoc (hstyle : style.Sound) (hplain : style.Plain) (depth : Nat)
    (htext : NoReturn text) : Returns (doc style depth text) False := by
  simpa [LeavesReturn, returnStays_eq_false htext] using returns_doc hlast hstyle hplain depth

end Docs

/-! ### Modules -/

theorem returns_eventTrait {name verb : String} {docText : String → String}
    (hname : NoReturn name) (hverb : IsWord verb)
    (hlast : ∀ event, (docText event).toList.getLast? = some '.') (events : List String) :
    Returns (eventTrait name verb docText events)
      (∃ event ∈ events, LeavesReturn (docText event)) := by
  have hmember : ∀ m ∈ (methodNames verb events).zip events,
      Returns (doc .outer 1 (docText m.2) ++ method m.1) (LeavesReturn (docText m.2)) := by
    intro m hm
    have hmethod := methodNames_spec hverb events m.1 (List.of_mem_zip hm).1
    exact (returns_doc (hlast m.2) DocStyle.outer_sound DocStyle.outer_plain 1).before
      (noReturn_method (noReturn_identifier hmethod)).returns
  have hevents : ((methodNames verb events).zip events).map (·.2) = events :=
    List.map_snd_zip (by simp [methodNames])
  have hopening : NoReturn (line 0 ("pub trait " ++ name ++ " \x7b") ++ line 1 "type Error;") :=
    (((NoReturn.append (by decide) hname).append (by decide)).line 0).append (by decide)
  have hclosing : NoReturn (line 0 "\x7d") := by decide
  have hmembers := ((Returns.join hmember).behind hopening).before hclosing.returns
  refine ⟨hmembers.closed, hmembers.iff.trans ?_⟩
  conv_rhs => rw [← hevents]
  simp only [List.mem_map, exists_exists_and_eq_and]

theorem getLast?_append_right {b : String} (h : b.toList.getLast? = some '.') (a : String) :
    (a ++ b).toList.getLast? = some '.' := by
  rw [String.toList_append, List.getLast?_append, h, Option.some_or]

theorem getLast?_moduleDoc (s : Service) : (moduleDoc s).toList.getLast? = some '.' :=
  getLast?_append_right (by decide) _

theorem getLast?_handlerDoc (event : String) : (handlerDoc event).toList.getLast? = some '.' :=
  getLast?_append_right (by decide) _

theorem getLast?_senderDoc (event : String) : (senderDoc event).toList.getLast? = some '.' :=
  getLast?_append_right (by decide) _

/-- A module has a carriage return without a line feed just in case a documentation text leaves
one. The tables, the traits and the documentation of the tables have no carriage return at all. -/
theorem hasLoneReturn_moduleText_iff (s : Service) :
    hasLoneReturn (moduleText s).toList = true ↔ ∃ text ∈ docTexts s, LeavesReturn text := by
  have hmodule : Returns (doc .inner 0 (moduleDoc s)) (LeavesReturn (moduleDoc s)) :=
    returns_doc (getLast?_moduleDoc s) DocStyle.inner_sound DocStyle.inner_plain 0
  have hhandled : NoReturn (operationsTrait s) :=
    noReturn_identifier (declaredWords_spec s _ List.mem_cons_self)
  have hissued : NoReturn (callsTrait s) :=
    noReturn_identifier (declaredWords_spec s _ (by simp [declaredWords]))
  have hoperations := returns_eventTrait hhandled isWord_on getLast?_handlerDoc s.operations
  have hcalls := returns_eventTrait hissued isWord_send getLast?_senderDoc s.calls
  have hname : NoReturn
      (line 0 ("pub const SERVICE: &str = " ++ RustLiteral.quote s.name ++ ";")) :=
    ((NoReturn.append (by decide) (noReturn_quote s.name)).append (by decide)).line 0
  have hoperationTable : NoReturn (table "OPERATIONS" s.operations) :=
    noReturn_table (by decide) s.operations
  have hcallTable : NoReturn (table "CALLS" s.calls) := noReturn_table (by decide) s.calls
  have hhead : NoReturn head := by decide
  -- the fixed documentation texts are the same for all services
  have hdoc : ∀ text : String, text.toList.getLast? = some '.' → NoReturn text →
      Returns (doc .outer 0 text) False := fun _ hlast htext =>
    returns_plainDoc hlast DocStyle.outer_sound DocStyle.outer_plain 0 htext
  have hdisplay := hdoc " Display name of this service." (by decide) (by decide)
  have hreceives := hdoc " Events this service receives." (by decide) (by decide)
  have hsends := hdoc " Events this service sends." (by decide) (by decide)
  have hinbound := hdoc " Inbound events handled by this service." (by decide) (by decide)
  have houtbound := hdoc " Outbound events issued by this service." (by decide) (by decide)
  -- the parts in the order of the module; a carriage return in front of a part without any is lone
  have htop := ((hmodule.behind hhead).before hdisplay).before hname.returns
  have htables := (((htop.before hreceives).before hoperationTable.returns).before hsends).before
    hcallTable.returns
  have htraits := (((htables.before hinbound).append hoperations).before houtbound).append hcalls
  rw [moduleText, htraits.iff, docTexts]
  simp only [List.cons_append, List.exists_mem_cons_iff, List.mem_append, List.mem_map,
    or_and_right, exists_or, exists_exists_and_eq_and, or_assoc]

end Rust

/-! ## Both backends -/

/-- For each of any services: the comment at the head of its TypeScript module keeps to its two
lines just in case the identifier is of one line, and the name has no line end that JSON leaves as
it is. Its Rust module has a carriage return without a line feed just in case a documentation text
leaves one. -/
theorem comments_unbroken_iff {services : List Service} {i : Nat} {s : Service}
    (h : services[i]? = some s) :
    (∃ files file, TypeScript.adapter.generateChecked services = .ok files ∧
      files[i]? = some file ∧ file.service = some s.id ∧
      (TypeScript.headComment file.content = (TypeScript.headLines s).map (·.toList) ↔
        TypeScript.Unbroken s.id.text.toList ∧
          '\u2028' ∉ s.name.toList ∧ '\u2029' ∉ s.name.toList)) ∧
    ∃ files file, Rust.adapter.generateChecked services = .ok files ∧
      files[i]? = some file ∧ file.service = some s.id ∧
      (Rust.hasLoneReturn file.content.toList = true ↔
        ∃ text ∈ Rust.docTexts s, Rust.LeavesReturn text) := by
  constructor
  · obtain ⟨moduleStem, stem, -, hfile⟩ := TypeScript.getElem?_files h
    exact ⟨_, _, TypeScript.generateChecked_eq services, hfile, rfl,
      TypeScript.headComment_moduleFile_iff s moduleStem stem⟩
  · obtain ⟨name, hfile⟩ := Rust.getElem?_files h
    exact ⟨_, _, Rust.generateChecked_eq services, hfile, rfl,
      Rust.hasLoneReturn_moduleText_iff s⟩

/-- Line ends that all comments get over: escaped ones in the name, blanks in front of a line feed,
and an event that is no comment. -/
def neatService : Service where
  id := ⟨"env-1"⟩
  name := "Shop\nand more"
  operations := ["paid\r \ntwice", "*/\rlost\n"]

theorem comments_unbroken_iff_sample :
    [neatService][0]? = some neatService ∧
      (∃ files file, TypeScript.adapter.generateChecked [neatService] = .ok files ∧
        files[0]? = some file ∧
        TypeScript.headComment file.content = (TypeScript.headLines neatService).map (·.toList)) ∧
      ∃ files file, Rust.adapter.generateChecked [neatService] = .ok files ∧
        files[0]? = some file ∧ Rust.hasLoneReturn file.content.toList = false := by
  have hservice : [neatService][0]? = some neatService := rfl
  obtain ⟨⟨ts, tsFile, hts, htsFile, -, hhead⟩, rs, rsFile, hrs, hrsFile, -, hreturn⟩ :=
    comments_unbroken_iff hservice
  refine ⟨hservice, ⟨ts, tsFile, hts, htsFile, hhead.2 (by decide)⟩, rs, rsFile, hrs, hrsFile, ?_⟩
  rw [← Bool.not_eq_true, hreturn]
  decide

/-- An identifier of two lines, and an event with a carriage return. -/
def splitService : Service where
  id := ⟨"env-1\nexport const leaked = 1;"⟩
  name := "Shop"
  operations := ["paid\rtwice"]

/-- The second line of the identifier is code, and the carriage return stands in a comment. -/
theorem texts_break_comments :
    (∃ files file, TypeScript.adapter.generateChecked [splitService] = .ok files ∧
      files[0]? = some file ∧ TypeScript.headComment file.content =
        [ "// @generated by sextant. Do not edit manually.".toList
        , "// Service \"Shop\" (env-1".toList
        , "export const leaked = 1;)".toList ]) ∧
    ∃ files file, Rust.adapter.generateChecked [splitService] = .ok files ∧
      files[0]? = some file ∧ Rust.hasLoneReturn file.content.toList = true := by
  have hservice : [splitService][0]? = some splitService := rfl
  obtain ⟨moduleStem, stem, -, htsFile⟩ := TypeScript.getElem?_files hservice
  obtain ⟨name, hrsFile⟩ := Rust.getElem?_files hservice
  refine ⟨⟨_, _, TypeScript.generateChecked_eq _, htsFile, ?_⟩,
    _, _, Rust.generateChecked_eq _, hrsFile, ?_⟩
  · obtain ⟨others, hothers⟩ := TypeScript.exists_moduleLines splitService stem
    have hsplit : TypeScript.unlines (TypeScript.headLines splitService) =
        TypeScript.unlines [ "// @generated by sextant. Do not edit manually."
          , "// Service \"Shop\" (env-1", "export const leaked = 1;)" ] := by decide
    rw [TypeScript.moduleFile, hothers, TypeScript.unlines_append, hsplit,
      ← TypeScript.unlines_append, (TypeScript.headComment_unlines_iff (by decide)).2 (by decide)]
    rfl
  · exact (Rust.hasLoneReturn_moduleText_iff splitService).2 (by decide)

end Choreography
