import Choreography.Backend
import Choreography.Proofs.Backend.Tokens
import Choreography.Proofs.Json.Strings

/-!
# Quoted events are read back

Either backend spells an event as a string literal of its own format. A reader of that format gets
the event back, so no two events are spelled alike.

- `Text.Sealed.not_escapesNext_iff`: a quote in front of a sealed text is closed by the one behind
  it, and by none within.
- `RustLiteral.read`: a reader for the literals of Rust, one character at a time. `Reads` says what
  a piece of a literal spells between two of its modes.
- `RustLiteral.Spelled.reads`: a spelled text is read back, whatever is held to be visible.
- `Backend.quoting_faithful`: both backends.
-/

namespace Choreography

/-! ## Escaped quotes -/

namespace Text

/-- A character behind this text is escaped by a backslash at its end. -/
def escapesNext : List Char → Bool
  | [] => false
  | ['\\'] => true
  | '\\' :: _ :: rest => escapesNext rest
  | _ :: rest => escapesNext rest

theorem escapesNext_plain {c : Char} (hc : c ≠ '\\') (rest : List Char) :
    escapesNext (c :: rest) = escapesNext rest := by
  rw [escapesNext]
  · exact fun h => absurd h hc
  · exact fun _ _ h => absurd h hc

namespace Sealed

variable {cs ds : List Char}

/-- Only the quote behind the text is not escaped. -/
theorem not_escapesNext_iff (h : Sealed cs) {before after : List Char}
    (heq : cs ++ ['"'] = before ++ '"' :: after) : escapesNext before = false ↔ after = [] := by
  -- over the pieces of the body: a piece is one plain character, or a backslash and the next one
  induction h generalizing before with
  | nil =>
    cases before with
    | nil =>
      cases heq
      exact iff_of_true rfl rfl
    | cons b before => simp at heq
  | @plain c rest hc _ ih =>
    cases before with
    | nil => exact absurd (List.cons.inj heq).1 hc.1
    | cons b before =>
      obtain ⟨rfl, hrest⟩ := List.cons.inj heq
      rw [escapesNext_plain hc.2, ih hrest]
  | @escape c rest _ ih =>
    match before, heq with
    | [b], heq =>
      obtain ⟨rfl, htail⟩ := List.cons.inj heq
      refine iff_of_false (by decide) ?_
      rw [← (List.cons.inj htail).2]
      simp
    | b :: d :: before, heq =>
      obtain ⟨rfl, htail⟩ := List.cons.inj heq
      obtain ⟨rfl, hrest⟩ := List.cons.inj htail
      rw [escapesNext, ih hrest]

end Sealed

end Text

/-! ## Quoting -/

open Text (escapesNext Sealed)

/-- Events are spelled in quotes, in a way that can be read back. -/
structure Faithful (decode? : String → Option String) (quote : String → String) : Prop where
  decoded : ∀ event, decode? (quote event) = some event
  injective : ∀ a b, quote a = quote b → a = b
  enclosed : ∀ event, ∃ body, (quote event).toList = '"' :: body ++ ['"']
  /-- Of all quotes in the spelling, only the first and the last are not escaped. -/
  quotes : ∀ event before after, (quote event).toList = before ++ '"' :: after →
    (escapesNext before = false ↔ before = [] ∨ after = [])

/-- No spelling holds a control character. -/
def FreeOfControls (quote : String → String) : Prop :=
  ∀ event, ∀ c ∈ (quote event).toList, ' ' ≤ c

section

variable {decode? : String → Option String} {quote : String → String}

theorem Faithful.of_sealed (hdecoded : ∀ event, decode? (quote event) = some event)
    (hsealed : ∀ event, ∃ body, Sealed body ∧ (quote event).toList = '"' :: (body ++ ['"'])) :
    Faithful decode? quote where
  decoded := hdecoded
  injective a b h := by
    have hb := hdecoded b
    rw [← h, hdecoded a] at hb
    exact Option.some.inj hb
  enclosed event := by
    obtain ⟨body, -, heq⟩ := hsealed event
    exact ⟨body, heq⟩
  quotes event before after hsplit := by
    obtain ⟨body, hbody, heq⟩ := hsealed event
    rw [heq] at hsplit
    cases before with
    | nil => exact iff_of_true rfl (.inl rfl)
    | cons b before =>
      obtain ⟨rfl, hrest⟩ := List.cons.inj hsplit
      rw [Text.escapesNext_plain (by decide), hbody.not_escapesNext_iff hrest]
      exact (or_iff_right (List.cons_ne_nil _ _)).symm

theorem FreeOfControls.of_body (hbody : ∀ event, ∃ body, (∀ c ∈ body, ' ' ≤ c) ∧
    (quote event).toList = '"' :: (body ++ ['"'])) : FreeOfControls quote := by
  intro event c hc
  obtain ⟨body, hspace, heq⟩ := hbody event
  rw [heq, List.mem_cons, List.mem_append, List.mem_singleton] at hc
  rcases hc with rfl | hc | rfl
  · decide
  · exact hspace c hc
  · decide

end

/-! ## JSON -/

namespace Json

/-- Reads a text that is one string and nothing else. -/
def decode? (text : String) : Option String :=
  match text.toList with
  | '"' :: body =>
    match readStringBody body with
    | .ok (s, []) => some s
    | _ => none
  | _ => none

theorem toList_quote (event : String) :
    (quote event).toList = '"' :: (event.toList.flatMap escape ++ ['"']) := String.toList_ofList

theorem decode?_quote (event : String) : decode? (quote event) = some event := by
  simp only [decode?, toList_quote, readStringBody_escaped]

theorem isPlain_hexChar (n : Nat) : Rust.IsPlain (hexChar n) := by
  have hdigits : ∀ d < 16, Rust.IsPlain (Nat.digitChar d) := by decide
  exact hdigits _ (Nat.mod_lt n (by decide))

theorem sealed_escape (c : Char) : Sealed (escape c) := by
  by_cases hquote : c = '"'
  · rw [escape, if_pos hquote]
    exact .escape '"' .nil
  by_cases hbackslash : c = '\\'
  · rw [escape, if_neg hquote, if_pos hbackslash]
    exact .escape '\\' .nil
  have hdigits : ∀ d ∈ ['0', '0', hexChar (c.toNat / 16), hexChar c.toNat], Rust.IsPlain d := by
    have hzero : Rust.IsPlain '0' := by decide
    simp [isPlain_hexChar, hzero]
  rw [escape, if_neg hquote, if_neg hbackslash]
  repeat' split
  all_goals first
    | exact .escape _ .nil
    | exact .escape 'u' (.of_plain hdigits)
    | exact .plain ⟨hquote, hbackslash⟩ .nil

theorem sealed_escaped (cs : List Char) : Sealed (cs.flatMap escape) := by
  induction cs with
  | nil => exact .nil
  | cons c cs ih => exact (sealed_escape c).append ih

theorem faithful_quote : Faithful decode? quote :=
  .of_sealed decode?_quote fun event => ⟨_, sealed_escaped event.toList, toList_quote event⟩

theorem freeOfControls_quote : FreeOfControls quote := by
  refine .of_body fun event => ⟨_, fun c hc => ?_, toList_quote event⟩
  obtain ⟨d, -, hd⟩ := List.mem_flatMap.1 hc
  exact (mem_escape hd).1

end Json

/-! ## Rust -/

namespace RustLiteral

/-- What the next character of a literal belongs to. -/
inductive Mode where
  /-- It stands for itself, or it begins an escape or ends the literal. -/
  | text
  /-- Behind a backslash. -/
  | escape
  /-- The first of two digits. -/
  | high
  /-- The second of two digits. -/
  | low (first : Nat)
  /-- The brace in front of a code point. -/
  | brace
  /-- Within the braces, behind some digits. -/
  | codePoint (digits value : Nat)
  /-- Behind an escaped line end. Blanks are skipped up to the next character. -/
  | continued
  deriving DecidableEq

/-- A character that is no part of an escape. A carriage return has to be escaped. -/
def Mode.start (c : Char) : Option (List Char × Mode) :=
  if c = '\\' then some ([], .escape) else if c = '\r' then none else some ([c], .text)

/-- One more character: what it spells, if anything, and the mode behind it. Two digits stand for
ASCII characters only, and up to six digits in braces for any character. -/
def Mode.next : Mode → Char → Option (List Char × Mode)
  | .text, c => start c
  | .escape, c =>
    if c = 'x' then some ([], .high)
    else if c = 'u' then some ([], .brace)
    else if c = '\n' then some ([], .continued)
    else (letters.lookup c).map fun spelled => ([spelled], .text)
  | .high, c => do
    let n ← Json.hexDigit? c
    if n < 8 then some ([], .low n) else none
  | .low first, c => do
    let n ← Json.hexDigit? c
    some ([Char.ofNat (16 * first + n)], .text)
  | .brace, c => if c = '\x7b' then some ([], .codePoint 0 0) else none
  | .codePoint digits value, c =>
    if c = '\x7d' then
      if 0 < digits ∧ value.isValidChar then some ([Char.ofNat value], .text) else none
    else if c = '_' then
      if 0 < digits then some ([], .codePoint digits value) else none
    else if digits < 6 then do
      let n ← Json.hexDigit? c
      some ([], .codePoint (digits + 1) (16 * value + n))
    else none
  | .continued, c => if c ∈ [' ', '\t', '\n', '\r'] then some ([], .continued) else start c

/-- A quote ends the literal. -/
def Mode.closes : Mode → Bool
  | .text | .continued => true
  | _ => false

/-- Reads a literal up to its closing quote, and refuses a text behind it. -/
def read : Mode → List Char → Option (List Char)
  | _, [] => none
  | mode, c :: rest =>
    if mode.closes && c = '"' then
      if rest = [] then some [] else none
    else do
      let (spelled, mode) ← mode.next c
      return spelled ++ (← read mode rest)

/-- Reads a text that is one literal and nothing else. -/
def decode? (text : String) : Option String :=
  match text.toList with
  | '"' :: rest => (read .text rest).map String.ofList
  | _ => none

/-- A piece of a literal leads from one mode to another, and spells a text on the way. -/
def Reads (mode : Mode) (piece spelled : List Char) (after : Mode) : Prop :=
  ∀ rest, read mode (piece ++ rest) = (read after rest).map (spelled ++ ·)

section Pieces

variable {mode next after : Mode} {c : Char} {piece more spelled first : List Char}

theorem Reads.nil (mode : Mode) : Reads mode [] [] mode := fun rest => by simp

theorem Reads.append (h : Reads mode piece first next) (h' : Reads next more spelled after) :
    Reads mode (piece ++ more) (first ++ spelled) after := by
  intro rest
  rw [List.append_assoc, h, h', Option.map_map]
  congr 1
  funext read
  exact (List.append_assoc first spelled read).symm

theorem Reads.single (hnext : mode.next c = some (first, next))
    (hopen : (mode.closes && c = '"') = false) : Reads mode [c] first next := by
  intro rest
  rw [List.singleton_append, read, hopen, hnext]
  cases hread : read next rest with
  | none => simp [hread]
  | some read => simp [hread]

theorem Reads.cons (hnext : mode.next c = some (first, next))
    (hopen : (mode.closes && c = '"') = false) (h : Reads next more spelled after) :
    Reads mode (c :: more) (first ++ spelled) after := (Reads.single hnext hopen).append h

/-- A character that spells nothing of its own. -/
theorem Reads.pass (hnext : mode.next c = some ([], next))
    (hopen : (mode.closes && c = '"') = false) (h : Reads next more spelled after) :
    Reads mode (c :: more) spelled after := Reads.cons hnext hopen h

/-- A character behind a backslash. -/
theorem Reads.letter {letter : Char} (h : Mode.escape.next letter = some ([c], .text)) :
    Reads .text ['\\', letter] [c] .text :=
  .pass rfl rfl (.single h rfl)

theorem Reads.plain (hplain : Rust.IsPlain c) (hreturn : c ≠ '\r') : Reads .text [c] [c] .text := by
  refine .single ?_ (by simp [hplain.1])
  rw [Mode.next, Mode.start, if_neg hplain.2, if_neg hreturn]

end Pieces

/-! ### Code points -/

theorem hexDigit?_digitChar : ∀ d < 16, Json.hexDigit? (Nat.digitChar d) = some d := by
  decide

theorem next_digitChar {digits d : Nat} (value : Nat) (hdigits : digits < 6) (hd : d < 16) :
    (Mode.codePoint digits value).next (Nat.digitChar d) =
      some ([], .codePoint (digits + 1) (16 * value + d)) := by
  have hends : ∀ d < 16, Nat.digitChar d ≠ '\x7d' ∧ Nat.digitChar d ≠ '_' := by decide
  obtain ⟨hbrace, hunderscore⟩ := hends d hd
  rw [Mode.next, if_neg hbrace, if_neg hunderscore, if_pos hdigits, hexDigit?_digitChar d hd]
  rfl

/-- Digit by digit, the value of a number is found again. -/
theorem reads_hex {n : Nat} (h : (Text.hex n).length ≤ 6) :
    Reads (.codePoint 0 0) (Text.hex n) [] (.codePoint (Text.hex n).length n) := by
  induction n using Nat.strongRecOn with
  | ind n ih =>
    have hhex : Text.hex n = if n < 16 then [Nat.digitChar n]
        else Text.hex (n / 16) ++ [Nat.digitChar (n % 16)] := Nat.toDigits_eq_if (by decide)
    by_cases hn : n < 16
    · rw [hhex, if_pos hn]
      have hnext := next_digitChar 0 (by decide : 0 < 6) hn
      simp only [Nat.mul_zero, Nat.zero_add] at hnext
      exact .single hnext rfl
    · rw [if_neg hn] at hhex
      rw [hhex, List.length_append, List.length_singleton] at h ⊢
      have hnext := next_digitChar (n / 16) (Nat.lt_of_succ_le h)
        (Nat.mod_lt n (by decide))
      rw [Nat.div_add_mod] at hnext
      exact (ih (n / 16) (by omega) (Nat.le_of_succ_le h)).append (.single hnext rfl)

theorem length_hex_le (c : Char) : (Text.hex c.toNat).length ≤ 6 := by
  refine (Nat.length_toDigits_le_iff (by decide) (by decide)).2 ?_
  have hvalid : c.toNat.isValidChar := c.valid
  rcases hvalid with h | ⟨-, h⟩ <;> omega

theorem reads_codePoint (c : Char) :
    Reads .text (['\\', 'u', '\x7b'] ++ Text.hex c.toNat ++ ['\x7d']) [c] .text := by
  have hopen : Reads .text ['\\', 'u', '\x7b'] [] (.codePoint 0 0) :=
    .pass rfl rfl (.pass rfl rfl (.single rfl rfl))
  have hclose : (Mode.codePoint (Text.hex c.toNat).length c.toNat).next '\x7d' =
      some ([c], .text) := by
    have hvalid : c.toNat.isValidChar := c.valid
    rw [Mode.next, if_pos rfl, if_pos ⟨Nat.length_toDigits_pos, hvalid⟩, Char.ofNat_toNat]
  exact (hopen.append (reads_hex (length_hex_le c))).append (.single hclose rfl)

/-! ### Spelled texts -/

variable {isVisible : Char → Bool}

namespace Spelling

variable {c : Char} {piece : List Char}

theorem reads (h : Spelling isVisible c piece) : Reads .text piece [c] .text := by
  cases h with
  | letter hletter =>
    have hletters : letters.all (fun p => Mode.escape.next p.1 = some ([p.2], .text)) = true := by
      decide
    exact .letter (of_decide_eq_true (List.all_eq_true.1 hletters _ hletter))
  | null hnull =>
    subst hnull
    exact .pass rfl rfl (.pass rfl rfl (.pass rfl rfl (.single rfl rfl)))
  | plain hplain hreturn => exact .plain hplain hreturn
  | codePoint => exact reads_codePoint c

end Spelling

namespace Spelled

variable {cs spelling : List Char}

theorem reads (h : Spelled isVisible cs spelling) : Reads .text spelling cs .text := by
  induction h with
  | nil => exact .nil _
  | cons hpiece _ ih => exact hpiece.reads.append ih

end Spelled

/-- The literal of a text, with a choice of the characters that stand for themselves. -/
def quoteWith (isVisible : Char → Bool) (text : String) : String :=
  String.ofList (chars isVisible text.toList)

theorem toList_quoteWith (isVisible : Char → Bool) (text : String) :
    (quoteWith isVisible text).toList = '"' :: (body isVisible text.toList ++ ['"']) :=
  String.toList_ofList

theorem decode?_quoteWith (isVisible : Char → Bool) (text : String) :
    decode? (quoteWith isVisible text) = some text := by
  have hclose : read .text ['"'] = some [] := rfl
  have hread := (spelled_body isVisible text.toList).reads ['"']
  simp only [decode?, toList_quoteWith, hread, hclose, Option.map_some, List.append_nil,
    String.ofList_toList]

theorem faithful_quoteWith (isVisible : Char → Bool) : Faithful decode? (quoteWith isVisible) :=
  .of_sealed (decode?_quoteWith isVisible) fun text =>
    ⟨_, (spelled_body isVisible text.toList).isSealed, toList_quoteWith isVisible text⟩

theorem freeOfControls_quoteWith (h : ∀ c < ' ', isVisible c = false) :
    FreeOfControls (quoteWith isVisible) :=
  .of_body fun text =>
    ⟨_, (spelled_body isVisible text.toList).space_le h, toList_quoteWith isVisible text⟩

end RustLiteral

/-! ## Both backends -/

namespace Backend

/-- Reads a literal of the language. -/
def decode? : Backend → String → Option String
  | .typescript => Json.decode?
  | .rust => RustLiteral.decode?

/-- Each backend spells every event in quotes, with no other quote that is not escaped and without
control characters; the reader of its literals gets the event back, so quoting is injective. Which
characters Rust holds to be visible does not matter: any choice is read back, and any that leaves
out the control characters keeps them out of the spelling. -/
theorem quoting_faithful (isVisible : Char → Bool) :
    (∀ backend : Backend, Faithful backend.decode? backend.adapter.quoteEvent ∧
      FreeOfControls backend.adapter.quoteEvent) ∧
    Faithful RustLiteral.decode? (RustLiteral.quoteWith isVisible) ∧
    ((∀ c < ' ', isVisible c = false) → FreeOfControls (RustLiteral.quoteWith isVisible)) := by
  refine ⟨fun backend => ?_, RustLiteral.faithful_quoteWith isVisible,
    RustLiteral.freeOfControls_quoteWith⟩
  cases backend with
  | typescript => exact ⟨Json.faithful_quote, Json.freeOfControls_quote⟩
  | rust => exact ⟨RustLiteral.faithful_quoteWith Text.visible,
      RustLiteral.freeOfControls_quoteWith Text.visible_eq_false⟩

/-- A null character in front of a digit and another one, a backslash in front of a quote, a control
character, and an accent on a letter. -/
def sampleEvent : String :=
  String.ofList ['\x00', '7', '\x00', '\\', '"', '\x01', 'e', '\u0301']

/-- Nothing beyond ASCII is held to be visible. -/
def visibleAscii (c : Char) : Bool := ' ' ≤ c && c ≤ '~'

theorem quoting_faithful_sample :
    let spelled := "\"\\u00007\\u0000\\\\\\\"\\u0001e\u0301\""
    let literal := "\"\\x007\\0\\\\\\\"\\u\x7b1\x7de\\u\x7b301\x7d\""
    (Backend.typescript.adapter.quoteEvent sampleEvent = spelled ∧
      Json.decode? spelled = some sampleEvent) ∧
    (Backend.rust.adapter.quoteEvent sampleEvent = literal ∧
      RustLiteral.decode? literal = some sampleEvent) ∧
    RustLiteral.quoteWith visibleAscii sampleEvent = literal ∧
    (∀ c < ' ', visibleAscii c = false) ∧ FreeOfControls (RustLiteral.quoteWith visibleAscii) := by
  intro spelled literal
  have hspelled : Backend.typescript.adapter.quoteEvent sampleEvent = spelled := by decide
  have hliteral : Backend.rust.adapter.quoteEvent sampleEvent = literal := by decide +kernel
  have hascii : RustLiteral.quoteWith visibleAscii sampleEvent = literal := by decide
  have hcontrols : ∀ c < ' ', visibleAscii c = false := fun c hc => by
    rw [visibleAscii, decide_eq_false (Char.not_le.2 hc), Bool.false_and]
  obtain ⟨hboth, hchoice, hfree⟩ := quoting_faithful visibleAscii
  have hdecoded := (hboth .typescript).1.decoded sampleEvent
  have hread := hchoice.decoded sampleEvent
  rw [hspelled] at hdecoded
  rw [hascii] at hread
  exact ⟨⟨hspelled, hdecoded⟩, ⟨hliteral, hread⟩, hascii, hcontrols, hfree hcontrols⟩

end Backend

end Choreography
