import Choreography.Proofs.Backend.Rust
import Choreography.Proofs.Backend.Tokens

/-!
# Rust modules are read back

`table?` and `trait?` find the entries of a table and the methods of a trait among the tokens of a
text, by the keyword and the name in front of them. They know how tables and traits look, in both
layouts, but not which events a service has.

- `literals?_commas` and `literals?_commaEnded`: the entries of a table on one line and on many.
- `exists_lexes_members`: the members of a trait, each a documentation and a method. Nothing that a
  documentation says is a declaration, whatever the event is.
- `IsPart.append`: what is declared in a text is what is declared in its parts.
- `declares_files`: so the tables of a module list the events of its service as they are spelled,
  its traits have one method for each event, and nothing else is declared.
-/

namespace Choreography

namespace Rust

open Naming

/-! ## Reading declarations -/

/-- The name in front of the tokens, and what stands behind it. -/
def name? : List Token → Option (String × List Token)
  | .word name :: rest => some (name, rest)
  | _ => none

/-- What is declared under a keyword: the names behind it, each with the tokens that follow. -/
def declared (keyword : String) : List Token → List (String × List Token)
  | [] => []
  | t :: rest =>
    (if t = .word keyword then (name? rest).toList else []) ++ declared keyword rest

/-- The tokens between the name of a table and its entries. -/
def tableStart : List Token :=
  [ .mark ':', .mark '&', .mark '[', .mark '&', .word "str", .mark ']', .mark '=', .mark '&'
  , .mark '[' ]

/-- The literals up to the closing bracket, with commas between them; one may follow the last. -/
def literals? : List Token → Option (List String)
  | .mark ']' :: _ => some []
  | .literal l :: .mark ',' :: rest => do return l :: (← literals? rest)
  | .literal l :: .mark ']' :: _ => some [l]
  | _ => none

/-- The entries of a table, behind its name. -/
def entries? (ts : List Token) : Option (List String) :=
  (ts.dropPrefix? tableStart).bind literals?

/-- The methods of a trait, behind its name and up to the first closing brace. -/
def methods (ts : List Token) : List String :=
  (declared "fn" (ts.takeWhile (· ≠ .mark '\x7d'))).map (·.1)

/-- The entries of the table of a name. -/
def table? (name : String) (ts : List Token) : Option (List String) :=
  ((declared "const" ts).lookup name).bind entries?

/-- The methods of the trait of a name. -/
def trait? (name : String) (ts : List Token) : Option (List String) :=
  ((declared "trait" ts).lookup name).map methods

/-! ## Declared names -/

variable {keyword name : String} {before after ts us : List Token}

theorem declared_append (h : .word keyword ∉ before) :
    declared keyword (before ++ after) = declared keyword after := by
  induction before with
  | nil => rfl
  | cons t before ih =>
    rw [List.mem_cons, not_or] at h
    rw [List.cons_append, declared, if_neg (Ne.symm h.1), ih h.2, List.nil_append]

theorem declared_cons (h : name ≠ keyword) :
    declared keyword (.word keyword :: .word name :: after) =
      (name, after) :: declared keyword after := by
  have hname : Token.word keyword ∉ [Token.word name] := by simpa using Ne.symm h
  have hrest : declared keyword ([Token.word name] ++ after) = declared keyword after :=
    declared_append hname
  rw [declared, if_pos rfl, ← List.singleton_append, hrest]
  rfl

/-- A declaration between tokens that declare nothing under its keyword. -/
theorem declared_between (hbefore : .word keyword ∉ before) (hname : name ≠ keyword)
    (hts : .word keyword ∉ ts) (after : List Token) :
    declared keyword (before ++ .word keyword :: .word name :: (ts ++ after)) =
      (name, ts ++ after) :: declared keyword after := by
  rw [declared_append hbefore, declared_cons hname, declared_append hts]

theorem Silent.not_mem (h : Silent ts) {t : Token} (ht : t ∈ declaring) : t ∉ ts :=
  fun hmem => h t hmem ht

theorem Silent.word_ne (h : Silent [.word name]) (hkeyword : .word keyword ∈ declaring) :
    name ≠ keyword :=
  fun heq => h _ List.mem_cons_self (heq ▸ hkeyword)

/-! ## Identifiers -/

/-- An identifier is none of the keywords that declare something. -/
theorem silent_identifier (hname : isIdentifier name = true) : Silent [.word name] := by
  have hkeywords : ∀ keyword, .word keyword ∈ declaring → keyword ∈ keywords := by
    simp [declaring, keywords]
  intro t ht hdeclaring
  rw [List.mem_singleton.1 ht] at hdeclaring
  exact (isIdentifier_spec hname).2.2 (hkeywords name hdeclaring)

/-! ## Parts -/

/-- What is declared among the tokens, whatever follows them. -/
structure IsPart (ts : List Token) (constants traits : List (String × List Token)) : Prop where
  const : ∀ after, declared "const" (ts ++ after) =
    constants.map (fun d => (d.1, d.2 ++ after)) ++ declared "const" after
  trait : ∀ after, declared "trait" (ts ++ after) =
    traits.map (fun d => (d.1, d.2 ++ after)) ++ declared "trait" after

theorem Silent.isPart (h : Silent ts) : IsPart ts [] [] where
  const _ := declared_append (h.not_mem (by decide))
  trait _ := declared_append (h.not_mem (by decide))

theorem IsPart.append {cs cs' trs trs' : List (String × List Token)} (ha : IsPart ts cs trs)
    (hb : IsPart us cs' trs') :
    IsPart (ts ++ us) (cs.map (fun d => (d.1, d.2 ++ us)) ++ cs')
      (trs.map (fun d => (d.1, d.2 ++ us)) ++ trs') := by
  constructor
  · intro after
    simp [ha.const, hb.const]
  · intro after
    simp [ha.trait, hb.trait]

/-- A constant is declared under its keyword only. -/
theorem isPart_const (hname : Silent [.word name]) (hts : Silent ts) :
    IsPart (.word "pub" :: .word "const" :: .word name :: ts) [(name, ts)] [] := by
  constructor
  · have hpub : Token.word "const" ∉ [Token.word "pub"] := by decide
    exact declared_between hpub (hname.word_ne (by decide)) (hts.not_mem (by decide))
  · have htrait : Token.word "trait" ∉ [Token.word "pub", .word "const"] ++ ([Token.word name] ++ ts) := by
      simp only [List.mem_append, not_or]
      exact ⟨by decide, hname.not_mem (by decide), hts.not_mem (by decide)⟩
    exact fun _ => declared_append htrait

/-- A documented part. -/
theorem exists_isPart_doc {style : DocStyle} (hstyle : style.Sound) {docText text : String}
    {constants traits : List (String × List Token)} (hdoc : docText.toList.head? = some ' ')
    (h : Lexes text ts) (hpart : IsPart ts constants traits) :
    ∃ us, Lexes (doc style 0 docText ++ text) us ∧ IsPart us constants traits := by
  obtain ⟨before, hbefore, hsilent⟩ := exists_lexes_doc hstyle 0 hdoc
  exact ⟨before ++ ts, hbefore.append h, hsilent.isPart.append hpart⟩

/-! ## Tables -/

/-- Literals with commas between them. -/
def commas : List String → List Token
  | [] => []
  | [l] => [.literal l]
  | l :: more => .literal l :: .mark ',' :: commas more

theorem literals?_commas (ls : List String) (after : List Token) :
    literals? (commas ls ++ .mark ']' :: after) = some ls := by
  fun_induction commas ls with
  | case1 => rfl
  | case2 l => rfl
  | case3 l more hmore ih =>
    rw [List.cons_append, List.cons_append, literals?, ih]
    rfl

/-- Literals with a comma behind each. -/
def commaEnded (ls : List String) : List Token :=
  ls.flatMap fun l => [.literal l, .mark ',']

theorem literals?_commaEnded (ls : List String) (after : List Token) :
    literals? (commaEnded ls ++ .mark ']' :: after) = some ls := by
  induction ls with
  | nil => rfl
  | cons l ls ih =>
    have hcons : commaEnded (l :: ls) = .literal l :: .mark ',' :: commaEnded ls := rfl
    rw [hcons, List.cons_append, List.cons_append, literals?, ih]
    rfl

theorem lexes_intercalate (events : List String) :
    Lexes (String.intercalate ", " (events.map RustLiteral.quote))
      (commas (events.map RustLiteral.quote)) := by
  have hcomma : Lexes ", " [.mark ','] := by decide
  induction events with
  | nil => exact Spells.nil _
  | cons event events ih =>
    cases events with
    | nil =>
      rw [List.map_singleton, String.intercalate_singleton]
      exact lexes_quote event
    | cons next events =>
      rw [List.map_cons, List.map_cons, String.intercalate_cons_cons]
      exact ((lexes_quote event).append hcomma).append ih

theorem silent_commas (ls : List String) : Silent (commas ls) := by
  fun_induction commas ls with
  | case1 => decide
  | case2 l => exact silent_literal l
  | case3 l more hmore ih =>
    exact ((silent_literal l).append (by decide : Silent [.mark ','])).append ih

theorem silent_commaEnded (ls : List String) : Silent (commaEnded ls) := by
  induction ls with
  | nil => decide
  | cons l ls ih => exact ((silent_literal l).append (by decide : Silent [.mark ','])).append ih

theorem lexes_tableStart (hname : isIdentifier name = true) :
    Lexes ("pub const " ++ name ++ ": &[&str] = &[")
      (.word "pub" :: .word "const" :: .word name :: tableStart) := by
  have hkeywords : Lexes "pub const " [.word "pub", .word "const"] := by decide
  have hstart : Lexes ": &[&str] = &[" tableStart := by decide
  rw [String.append_assoc]
  exact hkeywords.append (hstart.word hname rfl (by decide))

/-- A table is its name with the literals of all entries, on one line or on many. -/
theorem exists_lexes_table (hname : isIdentifier name = true) (events : List String) :
    ∃ ts, Lexes (table name events)
        (.word "pub" :: .word "const" :: .word name :: (tableStart ++ ts)) ∧ Silent ts ∧
      ∀ after, literals? (ts ++ after) = some (events.map RustLiteral.quote) := by
  have hopening := lexes_tableStart hname
  have hclosing : Lexes "];" [.mark ']', .mark ';'] := by decide
  have hsilent : Silent [.mark ']', .mark ';'] := by decide
  unfold table
  dsimp only
  -- the entries stand in one line if they fit there, and otherwise in one line each
  split
  · refine ⟨commas (events.map RustLiteral.quote) ++ [Token.mark ']', .mark ';'], ?_,
      (silent_commas _).append hsilent, fun after => ?_⟩
    · have := ((hopening.append (lexes_intercalate events)).append hclosing).line 0
      simpa using this
    · rw [List.append_assoc]
      exact literals?_commas _ _
  · have hlines : Lexes
        (String.join ((events.map RustLiteral.quote).map fun l => line 1 (l ++ ",")))
        (commaEnded (events.map RustLiteral.quote)) := by
      refine Lexes.join fun l hl => ?_
      obtain ⟨event, -, rfl⟩ := List.mem_map.1 hl
      exact ((lexes_quote event).append (by decide : Lexes "," [.mark ','])).line 1
    refine ⟨commaEnded (events.map RustLiteral.quote) ++ [Token.mark ']', .mark ';'], ?_,
      (silent_commaEnded _).append hsilent, fun after => ?_⟩
    · have := ((hopening.line 0).append hlines).append (hclosing.line 0)
      simpa using this
    · rw [List.append_assoc]
      exact literals?_commaEnded _ _

theorem dropPrefix?_append (before after : List Token) :
    (before ++ after).dropPrefix? before = some after :=
  List.dropPrefix?_eq_some_iff.2 ⟨before, rfl, beq_self_eq_true before⟩

theorem exists_isPart_table (hname : isIdentifier name = true) (events : List String) :
    ∃ us ts, Lexes (table name events) us ∧ IsPart us [(name, ts)] [] ∧
      ∀ after, entries? (ts ++ after) = some (events.map RustLiteral.quote) := by
  obtain ⟨ts, hlexes, hsilent, hliterals⟩ := exists_lexes_table hname events
  have hstart : Silent tableStart := by decide
  refine ⟨_, tableStart ++ ts, hlexes,
    isPart_const (silent_identifier hname) (hstart.append hsilent), fun after => ?_⟩
  rw [entries?, List.append_assoc, dropPrefix?_append]
  exact hliterals after

/-! ## Traits -/

/-- The tokens of a text, if they can be computed and declare nothing. -/
theorem exists_lexes_silent {text : String}
    (h : (scan .code text.toList).2 = .code ∧ Silent (scan .code text.toList).1) :
    ∃ ts, Lexes text ts ∧ Silent ts :=
  ⟨_, Prod.ext rfl h.1, h.2⟩

/-- A method, on one line or on many, is its name with a signature. -/
theorem exists_lexes_method (hname : isIdentifier name = true) :
    ∃ ts, Lexes (method name) (.word "fn" :: .word name :: ts) ∧ Silent ts := by
  have hfn : Lexes "fn " [.word "fn"] := by decide
  have hword : ∀ rest ts, rest.toList.head? = some '(' → Lexes rest ts →
      Lexes ("fn " ++ name ++ rest) (.word "fn" :: .word name :: ts) := by
    intro rest ts hhead h
    rw [String.append_assoc]
    exact hfn.append (h.word hname hhead (by decide))
  unfold method
  dsimp only
  split
  · obtain ⟨ts, hts, hsilent⟩ : ∃ ts, Lexes "(&mut self) -> Result<(), Self::Error>;" ts ∧
        Silent ts := exists_lexes_silent (by decide)
    exact ⟨ts, (hword _ ts rfl hts).line 1, hsilent⟩
  · obtain ⟨ts, hts, hsilent⟩ : ∃ ts, Lexes (line 2 "&mut self," ++
        line 1 ") -> Result<(), Self::Error>;") ts ∧ Silent ts := exists_lexes_silent (by decide)
    have hopening := (hword "(" [.mark '('] rfl (by decide)).line 1
    refine ⟨.mark '(' :: ts, ?_, (by decide : Silent [.mark '(']).append hsilent⟩
    rw [String.append_assoc]
    exact hopening.append hts

/-- The tokens of the members of a trait declare methods with these names and nothing else, and the
trait does not end among them. -/
structure IsMembers (names : List String) (ts : List Token) : Prop where
  methods : (declared "fn" ts).map (·.1) = names
  only : ∀ t ∈ ts, t ∈ declaring → t = .word "fn"

/-- One more member in front. -/
theorem IsMembers.cons {names : List String} (h : IsMembers names us)
    (hname : isIdentifier name = true) (hbefore : Silent before) (hts : Silent ts) :
    IsMembers (name :: names) (before ++ (.word "fn" :: .word name :: ts ++ us)) := by
  have hword : Silent [.word name] := silent_identifier hname
  constructor
  · rw [List.cons_append, List.cons_append, declared_between (hbefore.not_mem (by decide))
      (hword.word_ne (by decide)) (hts.not_mem (by decide)), List.map_cons, h.methods]
  · intro t ht hdeclaring
    simp only [List.mem_append, List.mem_cons] at ht
    rcases ht with ht | (rfl | rfl | ht) | ht
    · exact absurd hdeclaring (hbefore t ht)
    · rfl
    · exact absurd hdeclaring (hword _ List.mem_cons_self)
    · exact absurd hdeclaring (hts t ht)
    · exact h.only t ht hdeclaring

theorem IsMembers.silent_append {names : List String} (h : IsMembers names us)
    (hbefore : Silent before) : IsMembers names (before ++ us) := by
  constructor
  · rw [declared_append (hbefore.not_mem (by decide)), h.methods]
  · intro t ht hdeclaring
    rcases List.mem_append.1 ht with ht | ht
    · exact absurd hdeclaring (hbefore t ht)
    · exact h.only t ht hdeclaring

theorem IsMembers.not_mem {names : List String} (h : IsMembers names ts) {t : Token}
    (ht : t ∈ declaring) (hne : t ≠ .word "fn") : t ∉ ts :=
  fun hmem => hne (h.only t hmem ht)

/-- Up to the closing brace there are the members. -/
theorem IsMembers.takeWhile {names : List String} (h : IsMembers names ts) (after : List Token) :
    (ts ++ .mark '\x7d' :: after).takeWhile (· ≠ .mark '\x7d') = ts := by
  have hts : ∀ t ∈ ts, decide (t ≠ .mark '\x7d') = true := fun t ht =>
    decide_eq_true fun heq => h.not_mem (by decide) (by decide) (heq ▸ ht)
  rw [List.takeWhile_append_of_pos hts]
  simp

/-- The members of a trait: nothing that the documentation of a method says is declared. -/
theorem exists_lexes_members {docText : String → String}
    (hdoc : ∀ event, (docText event).toList.head? = some ' ') {members : List (String × String)}
    (hnames : ∀ m ∈ members, isIdentifier m.1 = true) :
    ∃ ts, Lexes (String.join (members.map fun (methodName, event) =>
        doc .outer 1 (docText event) ++ method methodName)) ts ∧
      IsMembers (members.map (·.1)) ts := by
  induction members with
  | nil => exact ⟨[], Spells.nil _, rfl, by simp⟩
  | cons m members ih =>
    obtain ⟨hname, hnames⟩ := List.forall_mem_cons.1 hnames
    obtain ⟨us, hus, hmembers⟩ := ih hnames
    obtain ⟨before, hbefore, hsilent⟩ := exists_lexes_doc DocStyle.outer_sound 1 (hdoc m.2)
    obtain ⟨ts, hts, hmethod⟩ := exists_lexes_method hname
    refine ⟨before ++ (.word "fn" :: .word m.1 :: ts ++ us), ?_,
      hmembers.cons hname hsilent hmethod⟩
    rw [List.map_cons, String.join_cons, ← List.append_assoc]
    exact (hbefore.append hts).append hus

theorem methodNames_zip (verb : String) (events : List String) :
    ((methodNames verb events).zip events).map (·.1) = methodNames verb events :=
  List.map_fst_zip (by simp [methodNames])

/-- A trait is its name with a method for each event. -/
theorem exists_lexes_eventTrait {verb : String} {docText : String → String}
    (hname : isIdentifier name = true) (hverb : IsWord verb)
    (hdoc : ∀ event, (docText event).toList.head? = some ' ') (events : List String) :
    ∃ ts, Lexes (eventTrait name verb docText events)
        (.word "pub" :: .word "trait" :: .word name :: (ts ++ [Token.mark '\x7d'])) ∧
      IsMembers (methodNames verb events) ts := by
  have hkeywords : Lexes "pub trait " [.word "pub", .word "trait"] := by decide
  have hbrace : Lexes " \x7b" [.mark '\x7b'] := by decide
  obtain ⟨us, hus, hsilent⟩ : ∃ ts, Lexes (line 1 "type Error;") ts ∧ Silent ts :=
    exists_lexes_silent (by decide)
  have hnames : ∀ m ∈ (methodNames verb events).zip events, isIdentifier m.1 = true :=
    fun m hm => methodNames_spec hverb events m.1 (List.of_mem_zip hm).1
  obtain ⟨ts, hts, hmembers⟩ := exists_lexes_members hdoc hnames
  rw [methodNames_zip] at hmembers
  have hopening := ((hkeywords.append (hbrace.word hname rfl (by decide))).line 0).append hus
  have hclosing : Lexes (line 0 "\x7d") [.mark '\x7d'] := by decide
  refine ⟨.mark '\x7b' :: (us ++ ts), ?_, ?_⟩
  · rw [← String.append_assoc] at hopening
    have := (hopening.append hts).append hclosing
    simpa [eventTrait] using this
  · exact (hmembers.silent_append hsilent).silent_append (by decide : Silent [.mark '\x7b'])

/-- A trait is declared under its keyword only. -/
theorem isPart_trait {names : List String} (hname : Silent [.word name])
    (hts : IsMembers names ts) :
    IsPart (.word "pub" :: .word "trait" :: .word name :: (ts ++ [Token.mark '\x7d'])) []
      [(name, ts ++ [Token.mark '\x7d'])] := by
  have hmembers : ∀ keyword, .word keyword ∈ declaring → keyword ≠ "fn" →
      Token.word keyword ∉ ts ++ [Token.mark '\x7d'] := by
    intro keyword hdeclaring hne
    rw [List.mem_append, not_or]
    exact ⟨hts.not_mem hdeclaring (by simpa using hne), by simp⟩
  constructor
  · have hconst : Token.word "const" ∉
        [Token.word "pub", .word "trait"] ++ ([Token.word name] ++ (ts ++ [Token.mark '\x7d'])) := by
      rw [List.mem_append, not_or, List.mem_append, not_or]
      exact ⟨by decide, hname.not_mem (by decide), hmembers _ (by decide) (by decide)⟩
    exact fun _ => declared_append hconst
  · have hpub : Token.word "trait" ∉ [Token.word "pub"] := by decide
    exact declared_between hpub (hname.word_ne (by decide)) (hmembers _ (by decide) (by decide))

theorem exists_isPart_eventTrait {verb : String} {docText : String → String}
    (hname : isIdentifier name = true) (hverb : IsWord verb)
    (hdoc : ∀ event, (docText event).toList.head? = some ' ') (events : List String) :
    ∃ us ts, Lexes (eventTrait name verb docText events) us ∧ IsPart us [] [(name, ts)] ∧
      ∀ after, methods (ts ++ after) = methodNames verb events := by
  obtain ⟨ts, hlexes, hmembers⟩ := exists_lexes_eventTrait hname hverb hdoc events
  refine ⟨_, ts ++ [Token.mark '\x7d'], hlexes, isPart_trait (silent_identifier hname) hmembers,
    fun after => ?_⟩
  rw [methods, List.append_assoc, List.singleton_append, hmembers.takeWhile, hmembers.methods]

/-! ## Modules -/

/-- A method is named after its event; it gets a number if the name is taken. -/
def NamedAfter (verb methodName event : String) : Prop :=
  let name := verb ++ "_" ++ Casing.snake.name event
  methodName = name ∨ ∃ n, methodName = suffixed name n

/-- One method for each event, in their order. -/
structure IsMethodsOf (verb : String) (events methodNames : List String) : Prop where
  named : List.Forall₂ (NamedAfter verb) methodNames events
  nodup : methodNames.Nodup

theorem isMethodsOf_methodNames (verb : String) (events : List String) :
    IsMethodsOf verb events (methodNames verb events) where
  named := by
    have h := unique_forall₂ [] (events.map fun event => verb ++ "_" ++ Casing.snake.name event)
    rwa [List.forall₂_map_right_iff] at h
  nodup := unique_nodup [] _

/-- What is read back from the tokens of the module of a service. -/
structure Declares (s : Service) (ts : List Token) : Prop where
  constants : (declared "const" ts).map (·.1) = ["SERVICE", "OPERATIONS", "CALLS"]
  operations : table? "OPERATIONS" ts = some (s.operations.map RustLiteral.quote)
  calls : table? "CALLS" ts = some (s.calls.map RustLiteral.quote)
  traits : (declared "trait" ts).map (·.1) = [operationsTrait s, callsTrait s]
  handlers : ∃ names, trait? (operationsTrait s) ts = some names ∧
    IsMethodsOf "on" s.operations names
  senders : ∃ names, trait? (callsTrait s) ts = some names ∧
    IsMethodsOf "send" s.calls names

theorem operationsTrait_ne_callsTrait (s : Service) : operationsTrait s ≠ callsTrait s := by
  intro h
  have := congrArg String.toList h
  rw [operationsTrait, callsTrait, String.toList_append, String.toList_append,
    List.append_cancel_left_eq] at this
  exact absurd this (by decide)

/-- The constant with the name of the service. -/
theorem exists_isPart_service (s : Service) :
    ∃ us ts, Lexes (line 0 ("pub const SERVICE: &str = " ++ RustLiteral.quote s.name ++ ";")) us ∧
      IsPart us [("SERVICE", ts)] [] := by
  have hopening : Lexes "pub const SERVICE: &str = " (.word "pub" :: .word "const" ::
      .word "SERVICE" :: [.mark ':', .mark '&', .word "str", .mark '=']) := by decide
  have hclosing : Lexes ";" [.mark ';'] := by decide
  have hsilent : Silent ([Token.mark ':', .mark '&', .word "str", .mark '='] ++
      ([Token.literal (RustLiteral.quote s.name)] ++ [Token.mark ';'])) :=
    Silent.append (by decide) ((silent_literal _).append (by decide))
  refine ⟨_, _, ?_, isPart_const (by decide) hsilent⟩
  simpa using ((hopening.append (lexes_quote s.name)).append hclosing).line 0

theorem head?_append_left {a : String} (h : a.toList.head? = some ' ') (b : String) :
    (a ++ b).toList.head? = some ' ' := by
  rw [String.toList_append, List.head?_append, h]
  rfl

theorem head?_handlerDoc (event : String) : (handlerDoc event).toList.head? = some ' ' :=
  head?_append_left (head?_append_left (by decide) event) _

theorem head?_senderDoc (event : String) : (senderDoc event).toList.head? = some ' ' :=
  head?_append_left (head?_append_left (by decide) event) _

theorem head?_moduleDoc (s : Service) : (moduleDoc s).toList.head? = some ' ' :=
  head?_append_left (head?_append_left (head?_append_left (head?_append_left (by decide) _) _) _) _

/-- The parts of a module: a constant, two tables and two traits. -/
theorem exists_parts (s : Service) :
    ∃ us t₀ t₁ t₂ t₃ t₄, Lexes (moduleText s) us ∧
      declared "const" us = [("SERVICE", t₀), ("OPERATIONS", t₁), ("CALLS", t₂)] ∧
      declared "trait" us = [(operationsTrait s, t₃), (callsTrait s, t₄)] ∧
      entries? t₁ = some (s.operations.map RustLiteral.quote) ∧
      entries? t₂ = some (s.calls.map RustLiteral.quote) ∧
      methods t₃ = methodNames "on" s.operations ∧ methods t₄ = methodNames "send" s.calls := by
  have houter := DocStyle.outer_sound
  have htakes : isIdentifier (operationsTrait s) = true := declaredWords_spec s _ List.mem_cons_self
  have hissues : isIdentifier (callsTrait s) = true :=
    declaredWords_spec s _ (by simp [declaredWords])
  -- each of the five parts on its own, from the top of the module down
  obtain ⟨_, t₀, hl₀, hp₀⟩ := exists_isPart_service s
  obtain ⟨_, t₁, hl₁, hp₁, ht₁⟩ :=
    exists_isPart_table (by decide : isIdentifier "OPERATIONS" = true) s.operations
  obtain ⟨_, t₂, hl₂, hp₂, ht₂⟩ :=
    exists_isPart_table (by decide : isIdentifier "CALLS" = true) s.calls
  obtain ⟨_, t₃, hl₃, hp₃, ht₃⟩ := exists_isPart_eventTrait htakes isWord_on head?_handlerDoc s.operations
  obtain ⟨_, t₄, hl₄, hp₄, ht₄⟩ := exists_isPart_eventTrait hissues isWord_send head?_senderDoc s.calls
  -- documentation declares nothing, so a part stays what it is behind it
  have hdoc : ∀ docText : String, docText.toList.head? = some ' ' →
      ∀ {text ts cs trs}, Lexes text ts → IsPart ts cs trs →
        ∃ us, Lexes (doc .outer 0 docText ++ text) us ∧ IsPart us cs trs :=
    fun _ hdoc _ _ _ _ => exists_isPart_doc houter hdoc
  obtain ⟨_, hl₀, hp₀⟩ := hdoc " Display name of this service." (by decide) hl₀ hp₀
  obtain ⟨_, hl₀, hp₀⟩ := exists_isPart_doc DocStyle.inner_sound (head?_moduleDoc s) hl₀ hp₀
  obtain ⟨_, hl₁, hp₁⟩ := hdoc " Events this service receives." (by decide) hl₁ hp₁
  obtain ⟨_, hl₂, hp₂⟩ := hdoc " Events this service sends." (by decide) hl₂ hp₂
  obtain ⟨_, hl₃, hp₃⟩ := hdoc " Inbound events handled by this service." (by decide) hl₃ hp₃
  obtain ⟨_, hl₄, hp₄⟩ := hdoc " Outbound events issued by this service." (by decide) hl₄ hp₄
  have hhead : Lexes head [] := by decide
  have hlexes := hhead.append (hl₀.append (hl₁.append (hl₂.append (hl₃.append hl₄))))
  have hpart := hp₀.append (hp₁.append (hp₂.append (hp₃.append hp₄)))
  have hconst := hpart.const []
  have htrait := hpart.trait []
  simp only [List.map_cons, List.map_nil, List.cons_append, List.nil_append, List.append_nil,
    declared] at hconst htrait
  refine ⟨_, _, _, _, _, _, ?_, hconst, htrait, ht₁ _, ht₂ _, ht₃ _, ?_⟩
  · rw [moduleText]
    simpa only [String.append_assoc, List.nil_append] using hlexes
  · simpa using ht₄ []

/-- The tokens of a module declare the tables and the traits of its service, and nothing else. -/
theorem declares_moduleText (s : Service) : ∃ ts, Lexes (moduleText s) ts ∧ Declares s ts := by
  obtain ⟨ts, t₀, t₁, t₂, t₃, t₄, hlexes, hconst, htrait, ht₁, ht₂, ht₃, ht₄⟩ := exists_parts s
  have hne : (callsTrait s == operationsTrait s) = false :=
    beq_eq_false_iff_ne.2 (operationsTrait_ne_callsTrait s).symm
  refine ⟨ts, hlexes, ?_, ?_, ?_, ?_, ?_, ?_⟩
  · rw [hconst]; rfl
  · rw [table?, hconst, ← ht₁]; rfl
  · rw [table?, hconst, ← ht₂]; rfl
  · rw [htrait]; rfl
  · exact ⟨_, by simp [trait?, htrait, ht₃], isMethodsOf_methodNames _ _⟩
  · exact ⟨_, by simp [trait?, htrait, hne, ht₄, List.lookup_cons], isMethodsOf_methodNames _ _⟩

/-- The module of each service declares its events. -/
theorem declares_files {services : List Service} {i : Nat} {s : Service}
    (h : services[i]? = some s) :
    ∃ file ts, (files services)[i]? = some file ∧ file.service = some s.id ∧
      tokens? file.content = some ts ∧ Declares s ts := by
  obtain ⟨name, hfile⟩ := getElem?_files h
  obtain ⟨ts, hlexes, hdeclares⟩ := declares_moduleText s
  exact ⟨moduleFile s name, ts, hfile, rfl, hlexes.tokens?, hdeclares⟩

end Rust

end Choreography
