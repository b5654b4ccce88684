import Choreography.Diagnostic
import Choreography.Proofs.Json.Placement.Values

/-!
# What the label of a malformed snapshot marks

- `Text.Boundary` and `Label.IsSlice`: no character of the source is cut, at a place or at either
  end of a label.
- `Snapshot.placed_of_parseContents`: where faults of snapshots are placed.
- `Json.Placed.boundary_offsetIn`: their offsets cut no character, but for the causes that only
  strings have.
- `labels_on_fault_lines`: every error of the form of a snapshot has an offset, on its line. The
  label there is a slice of the source only at the end or at a character of one byte.
- `labels_cut_characters`: so there are labels that cut a character.
-/

namespace Choreography

open Json

/-! ## Boundaries -/

namespace Text

variable {source : String} {o : Nat}

/-- The offset is between two characters of the source, or at one of its ends. -/
def Boundary (source : String) (o : Nat) : Prop :=
  String.Pos.Raw.IsValid source ⟨o⟩

/-- A character of one byte stands at the offset. -/
def OneByteAt (source : String) (o : Nat) : Prop :=
  ∃ before c after, source.toList = before ++ c :: after ∧ byteLength before = o ∧ c.utf8Size = 1

theorem boundary_iff :
    Boundary source o ↔
      ∃ before after, source.toList = before ++ after ∧ byteLength before = o := by
  rw [Boundary, String.Pos.Raw.isValid_iff_exists_append]
  constructor
  · rintro ⟨before, after, rfl, h⟩
    refine ⟨before.toList, after.toList, String.toList_append, ?_⟩
    rw [byteLength_toList]
    exact (congrArg String.Pos.Raw.byteIdx h).symm
  · rintro ⟨before, after, hsource, rfl⟩
    refine ⟨String.ofList before, String.ofList after, ?_, ?_⟩
    · rw [← String.ofList_append, ← hsource, String.ofList_toList]
    · have hlength := byteLength_toList (String.ofList before)
      rw [String.toList_ofList] at hlength
      exact congrArg String.Pos.Raw.mk hlength

end Text

open Text

/-- A text of the source can be cut out at the label. -/
def Label.IsSlice (label : Label) (source : String) : Prop :=
  Boundary source label.offset ∧ Boundary source (label.offset + label.length)

namespace Text

variable {source : String} {o : Nat}

theorem boundary_end (source : String) : Boundary source source.utf8ByteSize :=
  boundary_iff.2 ⟨source.toList, [], (List.append_nil _).symm, byteLength_toList source⟩

/-- One byte can be cut out if it is a character. -/
theorem boundary_one_byte_iff (h : o < source.utf8ByteSize) :
    Boundary source o ∧ Boundary source (o + 1) ↔ OneByteAt source o := by
  constructor
  · rintro ⟨hstart, hend⟩
    obtain ⟨before, after, hsource, rfl⟩ := boundary_iff.1 hstart
    obtain ⟨before', after', hsource', hlength⟩ := boundary_iff.1 hend
    rw [← byteLength_toList, hsource, byteLength_append] at h
    cases after with
    | nil => simp at h
    | cons c after =>
      refine ⟨before, c, after, hsource, rfl, ?_⟩
      have hpos := c.utf8Size_pos
      rcases List.append_eq_append_iff.1 (hsource.symm.trans hsource') with
        ⟨more, rfl, hmore⟩ | ⟨more, rfl, -⟩
      · rw [byteLength_append] at hlength
        cases more with
        | nil => simp at hlength
        | cons d more =>
          obtain ⟨rfl, -⟩ := List.cons.inj hmore
          rw [byteLength_cons] at hlength
          omega
      · rw [byteLength_append] at hlength
        omega
  · rintro ⟨before, c, after, hsource, rfl, hc⟩
    refine ⟨boundary_iff.2 ⟨before, c :: after, hsource, rfl⟩, boundary_iff.2 ?_⟩
    exact ⟨before ++ [c], after, by simp [hsource], by simp [hc]⟩

end Text

theorem Diagnostic.isSlice_faultLabel_iff (source : String) (p : Position) :
    (Diagnostic.faultLabel source p).IsSlice source ↔
      p.offsetIn source.toList = source.utf8ByteSize ∨
        OneByteAt source (p.offsetIn source.toList) := by
  have hle : p.offsetIn source.toList ≤ source.utf8ByteSize := by
    rw [← byteLength_toList]
    exact p.offsetIn_le _
  unfold Label.IsSlice Diagnostic.faultLabel
  simp only
  split
  · next hlt => rw [boundary_one_byte_iff hlt, or_iff_right (Nat.ne_of_lt hlt)]
  · next hlt =>
    have heq : p.offsetIn source.toList = source.utf8ByteSize := by omega
    rw [heq, Nat.add_zero]
    exact iff_of_true ⟨boundary_end source, boundary_end source⟩ (.inl rfl)

/-! ## Offsets of placed faults -/

namespace Json

variable {text before after : List Char} {c : Char} {f : Fault}

theorem succ_byteLength_le (h : text = before ++ c :: after) :
    byteLength before + 1 ≤ byteLength text := by
  have hpos := c.utf8Size_pos
  simp only [h, byteLength_append, byteLength_cons]
  omega

/-- Only the start of a line is directly behind its line feed. -/
theorem Position.eq_lineFeed_of_column (h : text = before ++ c :: after)
    (hcolumn : (ofPlace (encode text) (byteLength before + 1)).column = 0) : c = '\n' := by
  obtain ⟨lines, front, rest, hsplit⟩ := exists_split_encode (succ_byteLength_le h)
  have hfront : front = [] := by
    rw [hsplit.ofPlace_eq] at hcolumn
    exact List.eq_nil_of_length_eq_zero hcolumn
  -- so the text up to the place is whole lines, and ends with the first byte of the character
  obtain ⟨b, more, hc⟩ : ∃ b more, String.utf8EncodeChar c = b :: more := by
    rw [← List.length_pos_iff_exists_cons, String.length_utf8EncodeChar]
    exact c.utf8Size_pos
  have hlines : lines = encode before ++ [b] := by
    have htake := congrArg (List.take (byteLength before + 1)) hsplit.bytes_eq
    have hplace := hsplit.place_eq
    simp only [hfront, List.length_nil, Nat.add_zero] at hplace
    rw [hfront, List.nil_append, hplace, List.take_left, ← hplace, h, encode_append, encode_cons,
      hc, ← length_encode, List.take_length_add_append] at htake
    exact htake.symm
  have hb : b = lineFeed := hsplit.complete b (by rw [hlines]; simp)
  by_contra hne
  exact lineFeed_not_mem_encodeChar hne (by rw [hc, hb]; exact List.mem_cons_self)

/-- The offset of a place one byte behind the start of a character. -/
theorem Position.offsetIn_behind_first (h : text = before ++ c :: after) :
    ∃ before' after', text = before' ++ after' ∧
      (ofPlace (encode text) (byteLength before + 1)).offsetIn text = byteLength before' := by
  rw [offsetIn_ofPlace (succ_byteLength_le h)]
  split
  · exact ⟨before, c :: after, h, Nat.add_sub_cancel _ _⟩
  · next hcolumn =>
    obtain rfl := eq_lineFeed_of_column h (Nat.eq_zero_of_not_pos hcolumn)
    exact ⟨before ++ ['\n'], after, by simp [h], by simp; rfl⟩

/-- A placed fault is at the start of the text, or one byte behind the start of a character. -/
theorem Placed.place (h : Placed text f) (hcause : f.cause ∉ stringCauses) :
    byteLength text - f.behind = 0 ∨
      ∃ before c after, text = before ++ c :: after ∧
        byteLength text - f.behind = byteLength before + 1 := by
  cases h with
  -- in front of a clean cut stands a character of one byte, or nothing
  | before cut =>
    rcases cut with rfl | ⟨c, ⟨before, rfl⟩, hc⟩
    · exact .inl (Nat.sub_self _)
    · refine .inr ⟨before, c, _, rfl, ?_⟩
      simp only [Fault.before, byteLength_append, byteLength_cons, hc]
      omega
  | within next =>
    obtain ⟨before, rfl⟩ := next
    refine .inr ⟨before, _, _, rfl, ?_⟩
    next c rest =>
    have hpos := c.utf8Size_pos
    simp only [Fault.within, byteLength_append, byteLength_cons]
    omega
  | inString hcause' => exact absurd hcause' hcause

/-- The offset of a fault cuts no character, but for the causes that only strings have. -/
theorem Placed.boundary_offsetIn {source : String} (h : Placed source.toList f)
    (hcause : f.cause ∉ stringCauses) :
    Boundary source ((f.position source.toList).offsetIn source.toList) := by
  rw [Fault.position, Position.behind_eq (Nat.sub_le _ _)]
  rcases h.place hcause with hplace | ⟨before, c, after, hsource, hplace⟩
  · refine boundary_iff.2 ⟨[], source.toList, rfl, ?_⟩
    rw [hplace, Position.offsetIn_ofPlace (Nat.zero_le _), ite_self]
    rfl
  · obtain ⟨before', after', hsplit, hoffset⟩ := Position.offsetIn_behind_first hsource
    rw [hplace, hoffset]
    exact boundary_iff.2 ⟨before', after', hsplit, rfl⟩

end Json

/-! ## Snapshots -/

namespace Snapshot

theorem clean_field {α β : Type} {key : String} {required : Bool} {read : Reader β}
    {put : α → β → α} (h : Reader.Clean read) (a : α) :
    Reader.Clean ((field key required read put).read a) :=
  h.map (put a)

theorem clean_readText : Reader.Clean readText := clean_readString "a string"

theorem clean_readIdentifier {kind : Kind} :
    Reader.Clean (readIdentifier : Reader (Identifier kind)) :=
  clean_readText.map Identifier.mk

theorem clean_readAttached : Reader.Clean readAttached :=
  (clean_readList "a set" clean_readIdentifier).map OrderedSet.ofList

theorem clean_environmentShape : environmentShape.Clean := by
  intro f hf a
  simp only [environmentShape, List.mem_cons, List.not_mem_nil, or_false] at hf
  rcases hf with rfl | rfl
  · exact clean_field clean_readIdentifier a
  · exact clean_field clean_readText a

theorem clean_stepShape : stepShape.Clean := by
  intro f hf a
  simp only [stepShape, List.mem_cons, List.not_mem_nil, or_false] at hf
  rcases hf with rfl | rfl | rfl
  · exact clean_field clean_readIdentifier a
  · exact clean_field clean_readIdentifier a
  · exact clean_field clean_readText a

theorem clean_diagramShape : diagramShape.Clean := by
  intro f hf a
  simp only [diagramShape, List.mem_cons, List.not_mem_nil, or_false] at hf
  rcases hf with rfl | rfl | rfl | rfl
  · exact clean_field clean_readIdentifier a
  · exact clean_field clean_readText a
  · exact clean_field clean_readAttached a
  · exact clean_field (clean_readList _ (Shape.clean_read clean_stepShape)) a

theorem clean_contentsShape : contentsShape.Clean := by
  intro f hf a
  simp only [contentsShape, List.mem_cons, List.not_mem_nil, or_false] at hf
  rcases hf with rfl | rfl
  · exact clean_field (clean_readList _ (Shape.clean_read clean_environmentShape)) a
  · exact clean_field (clean_readList _ (Shape.clean_read clean_diagramShape)) a

theorem placed_of_parseContents {source : String} {f : Fault}
    (h : parseContents source = .error f) : Placed source.toList f :=
  placed_of_decode (Shape.clean_read clean_contentsShape) h

theorem parse_eq_malformed_iff {source detail : String} {p : Position} :
    parse source = .error (.malformed detail p) ↔
      ∃ f, parseContents source = .error f ∧ detail = f.message source.toList ∧
        p = f.position source.toList := by
  unfold parse
  constructor
  · intro h
    split at h
    · next f hf =>
      obtain ⟨rfl, rfl⟩ := LoadError.malformed.inj (Except.error.inj h)
      exact ⟨f, hf, rfl, rfl⟩
    · split at h <;> cases h
  · rintro ⟨f, hf, rfl, rfl⟩
    rw [hf]
    rfl

end Snapshot

/-! ## Labels -/

/-- Every error of the form of a snapshot has an offset on the line that it names, and its label is
there. The offset cuts no character, unless the fault is the missing end of a string, an escape, or
a control character. The label, which is one byte long in front of the end, cuts a character unless
one of one byte stands there. -/
theorem labels_on_fault_lines {source detail : String} {p : Position}
    (h : Snapshot.parse source = .error (.malformed detail p)) :
    ∃ f o, Snapshot.parseContents source = .error f ∧
      detail = f.message source.toList ∧ p = f.position source.toList ∧
      (LoadError.malformed detail p).offsetIn? source = some o ∧
      (Diagnostic.faultLabel source p).offset = o ∧
      Position.OnLine (bytes source) p.line o ∧
      (f.cause ∉ stringCauses → Boundary source o) ∧
      ((Diagnostic.faultLabel source p).IsSlice source ↔
        o = source.utf8ByteSize ∨ OneByteAt source o) := by
  obtain ⟨f, hf, rfl, rfl⟩ := Snapshot.parse_eq_malformed_iff.1 h
  refine ⟨f, _, hf, rfl, rfl, rfl, rfl, ?_, ?_, Diagnostic.isSlice_faultLabel_iff _ _⟩
  · rw [bytes_eq, Fault.position, Position.behind_eq (Nat.sub_le _ _)]
    exact Position.onLine_offsetIn (Nat.sub_le _ _)
  · exact (Snapshot.placed_of_parseContents hf).boundary_offsetIn

/-- A word that is no value, on the third line. -/
def wordSource : String := "\x7b\n  \"environments\": [\n    oops\n  ]\n\x7d"

theorem labels_on_fault_lines_sample :
    Snapshot.parse wordSource =
        .error (.malformed "expected value at line 3 column 5" ⟨3, 5⟩) ∧
      Position.OnLine (bytes wordSource) 3 26 ∧ Boundary wordSource 26 ∧
      (Diagnostic.faultLabel wordSource ⟨3, 5⟩).IsSlice wordSource := by
  have hparse : Snapshot.parse wordSource =
      .error (.malformed "expected value at line 3 column 5" ⟨3, 5⟩) := by decide
  obtain ⟨f, o, hf, -, -, ho, -, hline, hboundary, hslice⟩ := labels_on_fault_lines hparse
  have hfault : Snapshot.parseContents wordSource = .error ⟨.valueDue, 9⟩ := by decide
  have hoffset : (LoadError.malformed "expected value at line 3 column 5" ⟨3, 5⟩).offsetIn?
      wordSource = some 26 := by decide
  obtain rfl := Except.error.inj (hfault.symm.trans hf)
  obtain rfl := Option.some.inj (hoffset.symm.trans ho)
  refine ⟨hparse, hline, hboundary (by decide), hslice.2 (.inr ?_)⟩
  exact ⟨wordSource.toList.take 26, 'o', wordSource.toList.drop 27, by decide, by decide, rfl⟩

/-- The first key stands in quotation marks that are not those of the format. -/
def curlySource : String := "\x7b“environments”: []\x7d"

/-- A control character follows an accented letter, in a string that nobody asked for. -/
def controlSource : String := "\x7b\"x\": \"é\x01\"\x7d"

/-- A label can end or start within a character: it starts at a quotation mark of three bytes and is
one byte long, or it starts at the last byte that was read, the second one of a letter. -/
theorem labels_cut_characters :
    (Snapshot.parse curlySource =
        .error (.malformed "key must be a string at line 1 column 2" ⟨1, 2⟩) ∧
      (Diagnostic.faultLabel curlySource ⟨1, 2⟩).offset = 1 ∧
      (Diagnostic.faultLabel curlySource ⟨1, 2⟩).length = 1 ∧
      ¬ (Diagnostic.faultLabel curlySource ⟨1, 2⟩).IsSlice curlySource) ∧
    Snapshot.parse controlSource =
        .error (.malformed ("control character (\\u0000-\\u001F) found while parsing a string " ++
          "at line 1 column 9") ⟨1, 9⟩) ∧
      (Diagnostic.faultLabel controlSource ⟨1, 9⟩).offset = 8 ∧ ¬ Boundary controlSource 8 := by
  refine ⟨⟨by decide, by decide, by decide, fun h => ?_⟩, by decide, by decide, ?_⟩
  · exact absurd h.2 (by decide : ¬ String.Pos.Raw.IsValid curlySource ⟨2⟩)
  · exact (by decide : ¬ String.Pos.Raw.IsValid controlSource ⟨8⟩)

end Choreography
