import Choreography.Snapshot
import Mathlib.Data.List.DropRight

/-!
# Positions and byte offsets

A text is its bytes, and a place in it is the number of bytes in front. The position of a place
counts the line feeds in front of its line, and the bytes from the start of that line
(`Position.ofPlace`).

- `Position.behind_eq`: this is how faults are placed.
- `Position.offsetIn_ofPlace`: the offset of a position is the byte in front of its place, or the
  place itself at the start of a line.
- `Position.onLine_offsetIn`: that offset is on the line of the position.
- `offsetIn_of_lt`, `offsetIn_eq_mod`: the offset of any position, with the sum as a word.
- `offsets_invert_positions`: all offsets of errors, those of positions outside the text included.
-/

namespace Choreography

open Json

namespace Text

/-! ## Bytes -/

/-- The bytes of a text. -/
def bytes (source : String) : List UInt8 := source.toByteArray.data.toList

/-- The bytes of some characters. -/
def encode (cs : List Char) : List UInt8 := cs.flatMap String.utf8EncodeChar

/-- The byte that ends a line. -/
def lineFeed : UInt8 := 10

theorem bytes_eq (source : String) : bytes source = encode source.toList := by
  rw [bytes, ← String.utf8Encode_toList, List.utf8Encode, List.toList_data_toByteArray, encode]

@[simp] theorem byteLength_nil : byteLength [] = 0 := rfl

@[simp] theorem byteLength_cons (c : Char) (cs : List Char) :
    byteLength (c :: cs) = c.utf8Size + byteLength cs := rfl

@[simp] theorem byteLength_append (cs ds : List Char) :
    byteLength (cs ++ ds) = byteLength cs + byteLength ds := by
  induction cs with
  | nil => simp
  | cons c cs ih => rw [List.cons_append, byteLength_cons, byteLength_cons, ih, Nat.add_assoc]

theorem encode_cons (c : Char) (cs : List Char) :
    encode (c :: cs) = String.utf8EncodeChar c ++ encode cs := List.flatMap_cons

theorem encode_append (cs ds : List Char) : encode (cs ++ ds) = encode cs ++ encode ds :=
  List.flatMap_append

@[simp] theorem length_encode (cs : List Char) : (encode cs).length = byteLength cs := by
  induction cs with
  | nil => rfl
  | cons c cs ih =>
    rw [encode_cons, List.length_append, String.length_utf8EncodeChar, ih, byteLength_cons]

theorem byteLength_toList (source : String) : byteLength source.toList = source.utf8ByteSize := by
  rw [← length_encode, ← bytes_eq, bytes, Array.length_toList]
  rfl

/-- The bytes of a character beyond ASCII are all beyond ASCII. -/
theorem le_of_mem_encodeChar {c : Char} (h : 127 < c.toNat) {b : UInt8}
    (hb : b ∈ String.utf8EncodeChar c) : 128 ≤ b.toNat := by
  have h : 127 < c.val.toNat := h
  unfold String.utf8EncodeChar at hb
  simp only [if_neg (Nat.not_le.2 h)] at hb
  -- a byte is a marker of at least 128 and some bits of the character below it
  split at hb
  · rcases List.mem_pair.1 hb with rfl | rfl <;> simp only [UInt8.toNat_ofNat'] <;> omega
  · split at hb <;> simp only [List.mem_cons, List.not_mem_nil, or_false] at hb
    · rcases hb with rfl | rfl | rfl <;> simp only [UInt8.toNat_ofNat'] <;> omega
    · rcases hb with rfl | rfl | rfl | rfl <;> simp only [UInt8.toNat_ofNat'] <;> omega

theorem encodeChar_lineFeed : String.utf8EncodeChar '\n' = [lineFeed] := rfl

/-- No character but the line feed has a byte that ends a line. -/
theorem lineFeed_not_mem_encodeChar {c : Char} (h : c ≠ '\n') :
    lineFeed ∉ String.utf8EncodeChar c := by
  intro hmem
  rcases Nat.lt_or_ge 127 c.toNat with hc | hc
  · exact absurd (le_of_mem_encodeChar hc hmem) (by decide)
  · have hone : String.utf8EncodeChar c = [UInt8.ofNat c.toNat] := if_pos hc
    rw [hone, List.mem_singleton] at hmem
    have htoNat := congrArg UInt8.toNat hmem
    rw [UInt8.toNat_ofNat', Nat.mod_eq_of_lt (by omega)] at htoNat
    exact h (Char.toNat_inj.1 htoNat.symm)

end Text

open Text

namespace Json.Position

/-! ## The position of a place -/

/-- The start of the line that a place is on: the place behind the last line feed in front. -/
def lineBegin (bytes : List UInt8) (place : Nat) : Nat :=
  ((bytes.take place).rdropWhile (· ≠ lineFeed)).length

/-- The position of a place. -/
def ofPlace (bytes : List UInt8) (place : Nat) : Position where
  line := 1 + (bytes.take (lineBegin bytes place)).count lineFeed
  column := place - lineBegin bytes place

/-- A place splits the bytes into whole lines, what is in front of it on its own line, and what
comes behind it. -/
structure Split (bytes : List UInt8) (place : Nat) (lines front after : List UInt8) : Prop where
  bytes_eq : bytes = lines ++ (front ++ after)
  place_eq : place = lines.length + front.length
  complete : ∀ b ∈ lines.getLast?, b = lineFeed
  unbroken : lineFeed ∉ front
  lineBegin_eq : lineBegin bytes place = lines.length

variable {bytes lines front after : List UInt8} {place : Nat}

theorem exists_split (h : place ≤ bytes.length) :
    ∃ lines front after, Split bytes place lines front after := by
  have hsplit : (bytes.take place).rdropWhile (· ≠ lineFeed) ++
      (bytes.take place).rtakeWhile (· ≠ lineFeed) = bytes.take place :=
    List.rdropWhile_append_rtakeWhile
  refine ⟨_, (bytes.take place).rtakeWhile (· ≠ lineFeed), bytes.drop place, ?_, ?_, ?_, ?_, rfl⟩
  · rw [← List.append_assoc, hsplit, List.take_append_drop]
  · rw [← List.length_append, hsplit, List.length_take_of_le h]
  · intro b hb
    obtain ⟨hne, rfl⟩ := List.mem_getLast?_eq_getLast hb
    simpa using List.rdropWhile_last_not (· ≠ lineFeed) (bytes.take place) hne
  · intro hmem
    simpa using List.mem_rtakeWhile_imp hmem

theorem exists_split_encode {text : List Char} (h : place ≤ byteLength text) :
    ∃ lines front after, Split (encode text) place lines front after := by
  rw [← length_encode] at h
  exact exists_split h

theorem Split.ofPlace_eq (h : Split bytes place lines front after) :
    ofPlace bytes place = ⟨1 + lines.count lineFeed, front.length⟩ := by
  have htake : bytes.take lines.length = lines := by rw [h.bytes_eq, List.take_left]
  rw [ofPlace, h.lineBegin_eq, htake, h.place_eq, Nat.add_sub_cancel_left]

/-! ## Faults are placed by it -/

/-- The position behind one more byte. -/
def step (p : Position) (b : UInt8) : Position :=
  if b = lineFeed then ⟨p.line + 1, 0⟩ else ⟨p.line, p.column + 1⟩

theorem foldl_step_unbroken (h : lineFeed ∉ front) (p : Position) :
    front.foldl step p = ⟨p.line, p.column + front.length⟩ := by
  induction front generalizing p with
  | nil => rfl
  | cons b front ih =>
    rw [List.mem_cons, not_or] at h
    have hstep : step p b = ⟨p.line, p.column + 1⟩ := if_neg (Ne.symm h.1)
    rw [List.foldl_cons, hstep, ih h.2, List.length_cons, Nat.add_right_comm, Nat.add_assoc]

theorem line_foldl_step (bytes : List UInt8) (p : Position) :
    (bytes.foldl step p).line = p.line + bytes.count lineFeed := by
  induction bytes generalizing p with
  | nil => rfl
  | cons b bytes ih =>
    rw [List.foldl_cons, ih, List.count_cons, step]
    split
    · next h =>
      rw [h, beq_self_eq_true, if_pos rfl]
      exact Nat.add_right_comm _ _ _
    · next h => rw [beq_eq_false_iff_ne.2 h, if_neg Bool.false_ne_true]; rfl

theorem foldl_step_complete (h : ∀ b ∈ lines.getLast?, b = lineFeed) (line : Nat) :
    lines.foldl step ⟨line, 0⟩ = ⟨line + lines.count lineFeed, 0⟩ := by
  rcases List.eq_nil_or_concat lines with rfl | ⟨first, last, rfl⟩
  · rfl
  · obtain rfl : last = lineFeed := h last (by simp)
    rw [List.concat_eq_append, List.foldl_append, List.foldl_cons, List.foldl_nil, step, if_pos rfl,
      line_foldl_step, List.count_append, List.count_singleton_self, Nat.add_assoc]

theorem advance_cons (p : Position) (place : Nat) (c : Char) (text : List Char) :
    advance p (place + 1) (c :: text) =
      if c = '\n' then advance ⟨p.line + 1, 0⟩ place text
      else advance ⟨p.line, p.column + min (place + 1) c.utf8Size⟩ (place + 1 - c.utf8Size) text :=
  rfl

theorem advance_eq_foldl (p : Position) (place : Nat) (text : List Char) :
    advance p place text = ((encode text).take place).foldl step p := by
  -- over the characters; a character takes as many steps as it has bytes in front of the place
  induction text generalizing p place with
  | nil => cases place <;> rfl
  | cons c text ih =>
    cases place with
    | zero => rfl
    | succ place =>
      rw [advance_cons, encode_cons, List.take_append, List.foldl_append,
        String.length_utf8EncodeChar]
      split
      · next hc =>
        rw [ih, hc, encodeChar_lineFeed, show '\n'.utf8Size = 1 from rfl, Nat.add_sub_cancel,
          List.take_succ_cons, List.take_nil, List.foldl_cons, List.foldl_nil, step, if_pos rfl]
      · next hc =>
        have hunbroken : lineFeed ∉ (String.utf8EncodeChar c).take (place + 1) := fun hmem =>
          lineFeed_not_mem_encodeChar hc (List.mem_of_mem_take hmem)
        rw [ih, foldl_step_unbroken hunbroken, List.length_take, String.length_utf8EncodeChar]

/-- The position that a fault has behind some bytes is that of the place. -/
theorem behind_eq {text : List Char} (h : place ≤ byteLength text) :
    behind place text = ofPlace (encode text) place := by
  obtain ⟨lines, front, after, hsplit⟩ := exists_split_encode h
  have htake : (encode text).take place = lines ++ front := by
    rw [hsplit.bytes_eq, hsplit.place_eq, ← List.append_assoc, ← List.length_append, List.take_left]
  rw [behind, advance_eq_foldl, htake, List.foldl_append, foldl_step_complete hsplit.complete,
    foldl_step_unbroken hsplit.unbroken, hsplit.ofPlace_eq, Nat.zero_add]

/-! ## Offsets -/

/-- Whole lines that are not empty end with a line feed. -/
theorem lineFeed_mem (h : ∀ b ∈ lines.getLast?, b = lineFeed) (hne : lines ≠ []) :
    lineFeed ∈ lines := by
  obtain ⟨b, hb⟩ := Option.ne_none_iff_exists'.1 (mt List.getLast?_eq_none_iff.1 hne)
  exact h b hb ▸ List.mem_of_getLast? hb

theorem complete_of_append (first : List UInt8)
    (h : ∀ b ∈ (first ++ lines).getLast?, b = lineFeed) : ∀ b ∈ lines.getLast?, b = lineFeed := by
  intro b hb
  refine h b ?_
  rw [List.getLast?_append, Option.mem_def.1 hb]
  rfl

/-- Skipping as many lines as have ended comes to the end of the last of them. -/
theorem lineStart_eq {text : List Char} {rest : List UInt8} (h : encode text = lines ++ rest)
    (hcomplete : ∀ b ∈ lines.getLast?, b = lineFeed) :
    lineStart (lines.count lineFeed) text = lines.length := by
  induction text generalizing lines with
  | nil =>
    obtain ⟨rfl, -⟩ := List.append_eq_nil_iff.1 h.symm
    rfl
  | cons c text ih =>
    by_cases hempty : lines = []
    · rw [hempty]
      rfl
    rw [encode_cons] at h
    by_cases hc : c = '\n'
    · -- the character is the end of the first line
      obtain ⟨b, more, rfl⟩ := List.exists_cons_of_ne_nil hempty
      rw [hc, encodeChar_lineFeed, List.singleton_append, List.cons_append] at h
      obtain ⟨rfl, htext⟩ := List.cons.inj h
      have hmore : ∀ b ∈ more.getLast?, b = lineFeed :=
        complete_of_append [lineFeed] hcomplete
      rw [List.count_cons_self, lineStart, if_pos hc, ih htext hmore, List.length_cons, hc,
        Nat.add_comm]
      rfl
    · have hlineFeed := lineFeed_mem hcomplete hempty
      rcases List.append_eq_append_iff.1 h with ⟨more, rfl, htext⟩ | ⟨more, hchar, -⟩
      · have hmore : lineFeed ∈ more :=
          (List.mem_append.1 hlineFeed).resolve_left (lineFeed_not_mem_encodeChar hc)
        obtain ⟨k, hk⟩ := Nat.exists_eq_add_one.2 (List.count_pos_iff.2 hmore)
        have hrest := ih htext (complete_of_append _ hcomplete)
        rw [hk] at hrest
        rw [List.count_append, List.count_eq_zero.2 (lineFeed_not_mem_encodeChar hc), Nat.zero_add,
          hk, lineStart, if_neg hc, hrest, List.length_append, String.length_utf8EncodeChar]
      · exact absurd (hchar ▸ List.mem_append_left more hlineFeed) (lineFeed_not_mem_encodeChar hc)

variable {text : List Char}

/-- The start of a place's line and the bytes up to the place add up to the byte in front of the
place, and nothing is cut at the end of the text. -/
theorem offsetSum_ofPlace (h : place ≤ byteLength text) :
    (ofPlace (encode text) place).offsetSum text =
      if 0 < (ofPlace (encode text) place).column then place - 1 else place := by
  obtain ⟨lines, front, after, hsplit⟩ := exists_split_encode h
  have hstart := lineStart_eq hsplit.bytes_eq hsplit.complete
  have hplace := hsplit.place_eq
  simp only [offsetSum, hsplit.ofPlace_eq, Nat.add_sub_cancel_left, hstart]
  split <;> omega

theorem offsetSum_ofPlace_le (h : place ≤ byteLength text) :
    (ofPlace (encode text) place).offsetSum text ≤ byteLength text := by
  rw [offsetSum_ofPlace h]
  split <;> omega

theorem offsetIn_eq (p : Position) (text : List Char) : p.offsetIn text =
    if p.offsetSum text ≤ byteLength text then p.offsetSum text
    else min (p.offsetSum text % lengthLimit) (byteLength text) := rfl

theorem offsetIn_of_le {p : Position} (h : p.offsetSum text ≤ byteLength text) :
    p.offsetIn text = p.offsetSum text :=
  if_pos h

/-- A sum that is a word is cut at the end of the text. -/
theorem offsetIn_of_lt {p : Position} (h : p.offsetSum text < lengthLimit) :
    p.offsetIn text = min (p.offsetSum text) (byteLength text) := by
  rw [offsetIn_eq, Nat.mod_eq_of_lt h]
  split
  · next hle => exact (Nat.min_eq_left hle).symm
  · rfl

/-- The length of the text is a word, and so is the sum that is cut at the end of the text. -/
theorem offsetIn_eq_mod (h : byteLength text < lengthLimit) (p : Position) :
    p.offsetIn text = min (p.offsetSum text % lengthLimit) (byteLength text) := by
  rw [offsetIn_eq]
  split
  · next hle => rw [Nat.mod_eq_of_lt (Nat.lt_of_le_of_lt hle h), Nat.min_eq_left hle]
  · rfl

theorem offsetIn_le (p : Position) (text : List Char) : p.offsetIn text ≤ byteLength text := by
  rw [offsetIn_eq]
  split
  · assumption
  · exact Nat.min_le_right _ _

/-- The offset of a place's position is the byte in front of the place, and the place itself at the
start of a line. -/
theorem offsetIn_ofPlace (h : place ≤ byteLength text) :
    (ofPlace (encode text) place).offsetIn text =
      if 0 < (ofPlace (encode text) place).column then place - 1 else place := by
  rw [offsetIn_of_le (offsetSum_ofPlace_le h), offsetSum_ofPlace h]

/-! ## Lines -/

/-- The place is on the line of that number: between its first byte and its end, with the line feed
that may follow left out. -/
def OnLine (bytes : List UInt8) (line place : Nat) : Prop :=
  ∃ lines content after, bytes = lines ++ (content ++ after) ∧
    (∀ b ∈ lines.getLast?, b = lineFeed) ∧ lineFeed ∉ content ∧
    (∀ b ∈ after.head?, b = lineFeed) ∧ line = 1 + lines.count lineFeed ∧
    lines.length ≤ place ∧ place ≤ lines.length + content.length

/-- A place is on the line of its position, and so is everything from the start of the line on. -/
theorem Split.onLine (h : Split bytes place lines front after) {o : Nat} (hstart : lines.length ≤ o)
    (ho : o ≤ place) : OnLine bytes (ofPlace bytes place).line o := by
  refine ⟨lines, front ++ after.takeWhile (· ≠ lineFeed), after.dropWhile (· ≠ lineFeed), ?_,
    h.complete, ?_, ?_, by rw [h.ofPlace_eq], hstart, ?_⟩
  · rw [List.append_assoc, List.takeWhile_append_dropWhile, h.bytes_eq]
  · intro hmem
    rcases List.mem_append.1 hmem with hmem | hmem
    · exact h.unbroken hmem
    · simpa using List.mem_takeWhile_imp hmem
  · intro b hb
    have hhead := List.head?_dropWhile_not (· ≠ lineFeed) after
    rw [Option.mem_def.1 hb] at hhead
    simpa using hhead
  · rw [List.length_append]
    have := h.place_eq
    omega

/-- The offset of a place's position is on its line. -/
theorem onLine_offsetIn (h : place ≤ byteLength text) :
    OnLine (encode text) (ofPlace (encode text) place).line
      ((ofPlace (encode text) place).offsetIn text) := by
  obtain ⟨lines, front, after, hsplit⟩ := exists_split_encode h
  have hplace := hsplit.place_eq
  have hcolumn : (ofPlace (encode text) place).column = front.length :=
    congrArg Position.column hsplit.ofPlace_eq
  refine hsplit.onLine ?_ ?_ <;> rw [offsetIn_ofPlace h, hcolumn] <;> split <;> omega

end Json.Position

/-! ## Errors -/

open Json.Position in
/-- Each place of the text, the end included, is found again from its position: its error points to
the byte in front of it, or to the place itself if it is the start of a line, and nothing is added up
to more than the text. And whatever line and column an error names, it points into the text or to its
end. Where it points is the sum of the line's start and the column, cut off at the end of the text; a
sum that is not a word has started again at zero before that, and a text is never that long. -/
theorem offsets_invert_positions (source detail : String) :
    (∀ place ≤ source.utf8ByteSize,
      let p := ofPlace (bytes source) place
      p.offsetSum source.toList ≤ source.utf8ByteSize ∧
        (LoadError.malformed detail p).offsetIn? source =
          some (if 0 < p.column then place - 1 else place)) ∧
    ∀ p : Position, ∃ o ≤ source.utf8ByteSize,
      (LoadError.malformed detail p).offsetIn? source = some o ∧
      (p.offsetSum source.toList < lengthLimit →
        o = min (p.offsetSum source.toList) source.utf8ByteSize) ∧
      (source.utf8ByteSize < lengthLimit →
        o = min (p.offsetSum source.toList % lengthLimit) source.utf8ByteSize) := by
  rw [← byteLength_toList]
  refine ⟨fun place h => ?_, fun p => ⟨_, p.offsetIn_le _, rfl, offsetIn_of_lt, fun h => ?_⟩⟩
  · rw [bytes_eq]
    exact ⟨offsetSum_ofPlace_le h, congrArg some (offsetIn_ofPlace h)⟩
  · exact p.offsetIn_eq_mod h

open Json.Position in
/-- Two lines, the first one with a letter of two bytes; and a column that no line has, the largest
word. -/
theorem offsets_invert_positions_sample :
    ofPlace (bytes "é\nab") 2 = ⟨1, 2⟩ ∧
      (LoadError.malformed "" ⟨1, 2⟩).offsetIn? "é\nab" = some 1 ∧
    ofPlace (bytes "é\nab") 3 = ⟨2, 0⟩ ∧
      (LoadError.malformed "" ⟨2, 0⟩).offsetIn? "é\nab" = some 3 ∧
    ofPlace (bytes "é\nab") 5 = ⟨2, 2⟩ ∧
      (LoadError.malformed "" ⟨2, 2⟩).offsetIn? "é\nab" = some 4 ∧
    (LoadError.malformed "" ⟨7, 7⟩).offsetIn? "é\nab" = some 5 ∧
    (LoadError.malformed "" ⟨3, lengthLimit - 1⟩).offsetIn? "ab\ncd\n" = some 4 := by
  have h := (offsets_invert_positions "é\nab" "").1
  obtain ⟨o, -, hbehind, hword, -⟩ := (offsets_invert_positions "é\nab" "").2 ⟨7, 7⟩
  obtain ⟨o', -, hwrapped, -, hlength⟩ :=
    (offsets_invert_positions "ab\ncd\n" "").2 ⟨3, lengthLimit - 1⟩
  refine ⟨by decide, (h 2 (by decide)).2, by decide, (h 3 (by decide)).2, by decide,
    (h 5 (by decide)).2, ?_, ?_⟩
  · rw [hbehind, hword (by decide)]
    rfl
  · rw [hwrapped, hlength (by decide)]
    decide +kernel

end Choreography
