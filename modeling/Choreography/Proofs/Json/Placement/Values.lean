import Choreography.Json.Record
import Choreography.Proofs.Json.Placement.Lexeme

/-!
# Where reading stops: values

Lists and records leave the text behind a character of one byte, or a placed fault, if their items
and fields do. The texts that bound their loops are never used up: a round reads something, so the
bound stays as long as what is left.

- `ends_skipValue`: a value of any kind is skipped.
- `Reader.Clean`: what is asked of the readers of items and fields.
- `clean_readList`, `Shape.clean_read`: lists and records of them.
- `placed_of_decode`: the fault of a whole text.
-/

namespace Choreography

namespace Json

variable {α β : Type} {text s : List Char}

theorem length_skipBlanks_le (s : List Char) : (skipBlanks s).length ≤ s.length :=
  List.length_dropWhile_le isBlank s

/-! ## Skipped values -/

/-- The text behind an opening. -/
def Opening.rest : Opening → List Char
  | .scalar rest => rest
  | .bracket _ rest => rest

theorem ends_readColon (h : CleanCut text s) : Ends text id (readColon s) := by
  have h := h.skipBlanks
  unfold readColon
  generalize skipBlanks s = t at h ⊢
  split
  · exact h.skip rfl
  · exact h.within _
  · exact h.within _

theorem ends_skipKey (h : CleanCut text s) : Ends text id (skipKey s) := by
  have h := h.skipBlanks
  unfold skipKey
  generalize skipBlanks s = t at h ⊢
  split
  · refine (ends_skipStringBody (suffix_behind h.suffix)).bind fun rest hrest => ?_
    exact ends_readColon hrest.cleanCut
  · exact h.within _
  · exact h.within _

theorem ends_skipOpening (h : CleanCut text s) : Ends text Opening.rest (skipOpening s) := by
  have h := h.skipBlanks
  unfold skipOpening
  generalize skipBlanks s = t at h ⊢
  split
  · exact h.within _
  · exact (ends_readLetters (by decide) (h.skip rfl)).bind fun _ hrest => hrest
  · exact (ends_readLetters (by decide) (h.skip rfl)).bind fun _ hrest => hrest
  · exact (ends_readLetters (by decide) (h.skip rfl)).bind fun _ hrest => hrest
  · exact (Number.ends_skip (h.skip rfl).cleanCut).bind fun _ hrest => hrest
  · exact (ends_skipStringBody (suffix_behind h.suffix)).bind fun _ hrest => hrest
  · exact h.skip rfl
  · exact h.skip rfl
  · split
    · exact (Number.ends_skip h).bind fun _ hrest => hrest
    · exact h.within _

theorem ends_skipMember (b : Bracket) (h : CleanCut text s) :
    Ends text Opening.rest (skipMember b s) := by
  cases b with
  | list => exact ends_skipOpening h
  | object => exact (ends_skipKey h).bind fun _ hrest => ends_skipOpening hrest.cleanCut

theorem Bracket.utf8Size_close (b : Bracket) : b.close.utf8Size = 1 := by
  cases b <;> rfl

/-- Whatever brackets are open. -/
theorem ends_skipMembers {bound : List Char} (hbound : s.length ≤ bound.length) (isFirst : Bool)
    (brackets : List Bracket) (h : Behind text s) :
    Ends text id (skipMembers bound isFirst brackets s) := by
  -- the bound is not below the text that is left: every member takes at least one character
  induction bound generalizing isFirst brackets s with
  | nil =>
    obtain rfl := List.eq_nil_of_length_eq_zero (Nat.le_zero.1 hbound)
    cases brackets with
    | nil => exact h
    | cons b outer => exact h.within _
  | cons _ bound ih =>
    cases brackets with
    | nil => exact h
    | cons b outer =>
      have h := h.skipBlanks
      have hblanks := length_skipBlanks_le s
      unfold skipMembers
      generalize skipBlanks s = t at h hblanks ⊢
      split
      · exact h.within _
      next c rest =>
      have hrest : rest.length ≤ bound.length := Nat.le_of_succ_le_succ (hblanks.trans hbound)
      split
      · next hc => exact ih hrest _ _ (h.skip (hc ▸ b.utf8Size_close))
      split
      · exact h.within _
      next hcomma =>
      -- a member starts here if it is the first one, and behind the comma otherwise
      have hmember : CleanCut text (if isFirst then c :: rest else rest) := by
        cases isFirst with
        | true => exact h.cleanCut
        | false =>
          have hc : c = ',' := by simpa using hcomma
          exact (h.skip (hc ▸ rfl)).cleanCut
      have hlength : (if isFirst then c :: rest else rest).length ≤ rest.length + 1 := by
        cases isFirst <;> simp
      refine (ends_skipMember b hmember).bind_of_eq fun opening hopening hbehind => ?_
      have hlt := (ends_skipMember b (.refl _)).length_lt hopening
      have hbound : opening.rest.length ≤ bound.length := by omega
      cases opening with
      | scalar left => exact ih hbound _ _ hbehind
      | bracket inner left => exact ih hbound _ _ hbehind

theorem ends_skipValue (h : CleanCut text s) : Ends text id (skipValue s) := by
  refine (ends_skipOpening h).bind fun opening hrest => ?_
  cases opening with
  | scalar rest => exact hrest
  | bracket b rest => exact ends_skipMembers (Nat.le_refl _) true [b] hrest

/-! ## Single values -/

/-- From a clean cut on, the reader leaves the text behind a character of one byte, or a placed
fault. -/
def Reader.Clean (read : Reader α) : Prop :=
  ∀ text s, CleanCut text s → Ends text Prod.snd (read s)

theorem Reader.Clean.map {read : Reader α} (h : Reader.Clean read) (f : α → β) :
    Reader.Clean fun s => do
      let (a, rest) ← read s
      return (f a, rest) :=
  fun text s hs => (h text s hs).bind fun _ hrest => hrest

/-- A word or a number is read before it is refused. -/
theorem placed_wrongKind (expected : String) (h : CleanCut text s) :
    Placed text (wrongKind expected s) := by
  -- the branches are those of the first character, the first three of them for words
  unfold wrongKind
  simp only
  split
  iterate 3
    · split
      · next hread => exact ((ends_readLetters (by decide) (h.skip rfl)).ok hread).before _
      · next hread => exact (ends_readLetters (by decide) (h.skip rfl)).error hread
  · have hends := Number.ends_read true (h.skip rfl).cleanCut
    split
    · next hread => exact (hends.ok hread).before _
    · next hread => exact (hends.ok hread).before _
    · next hread => exact hends.error hread
  · have hends := ends_readStringBody (suffix_behind h.suffix)
    split
    · next hread => exact (hends.ok hread).before _
    · next hread => exact hends.error hread
  · exact .before h
  · exact .before h
  · split
    · have hends := Number.ends_read false h
      split
      · next hread => exact (hends.ok hread).before _
      · next hread => exact (hends.ok hread).before _
      · next hread => exact hends.error hread
    · exact h.within _
  · exact h.within _

theorem clean_readString (expected : String) : Reader.Clean (readString expected) := by
  intro text s h
  have h := h.skipBlanks
  unfold readString
  generalize skipBlanks s = t at h ⊢
  split
  · exact ends_readStringBody (suffix_behind h.suffix)
  · exact h.within _
  · exact placed_wrongKind expected h

/-! ## Lists -/

/-- The text in front of the next member, or of the end of the bracket. -/
def Next.rest : Next → List Char
  | .none rest => rest
  | .member rest => rest

theorem ends_nextItem (isFirst : Bool) (h : Behind text s) :
    Ends text Next.rest (nextItem isFirst s) := by
  have h := h.skipBlanks
  unfold nextItem
  generalize skipBlanks s = t at h ⊢
  split
  · exact h.within _
  · exact h
  · split
    · exact h
    split
    · next hc =>
      have h := (h.skip (hc ▸ rfl)).skipBlanks
      split
      · next hs => exact (hs ▸ h).within _
      · next hs => exact (hs ▸ h).within _
      · exact h
    · exact h.within _

theorem ends_closeList (h : CleanCut text s) : Ends text id (closeList s) := by
  have h := h.skipBlanks
  unfold closeList
  generalize skipBlanks s = t at h ⊢
  split
  · exact h.skip rfl
  · have h := (h.skip rfl).skipBlanks
    split
    · next hs => exact (hs ▸ h).within _
    · exact h.within _
  · exact h.within _
  · exact h.within _

theorem ends_readItems {item : Reader α} (hitem : Reader.Clean item) {bound : List Char}
    (hbound : s.length ≤ bound.length) (isFirst : Bool) (h : Behind text s) :
    Ends text Prod.snd (readItems item bound isFirst s) := by
  induction bound generalizing isFirst s with
  | nil =>
    obtain rfl := List.eq_nil_of_length_eq_zero (Nat.le_zero.1 hbound)
    exact h.within _
  | cons _ bound ih =>
    unfold readItems
    refine (ends_nextItem isFirst h).bind_of_eq fun next hnext hrest => ?_
    have hle := (ends_nextItem isFirst (.blank s)).length_le hnext
    cases next with
    | none rest => exact hrest
    | member rest =>
      refine (hitem text rest hrest.cleanCut).bind_of_eq fun answer ha hleft => ?_
      obtain ⟨a, left⟩ := answer
      have hlt := (hitem rest rest (.refl rest)).length_lt ha
      have hbound : left.length ≤ bound.length := by
        simp only [Next.rest, List.length_cons] at hle hlt hbound
        omega
      exact (ih hbound false hleft).bind fun _ hmore => hmore

theorem clean_readList (expected : String) {item : Reader α} (hitem : Reader.Clean item) :
    Reader.Clean (readList expected item) := by
  intro text s h
  have h := h.skipBlanks
  unfold readList
  generalize skipBlanks s = t at h ⊢
  split
  · have hitems := ends_readItems hitem (Nat.le_refl _) true (h.skip rfl)
    refine hitems.bind fun ⟨items, rest⟩ hrest => ?_
    exact (ends_closeList hrest.cleanCut).bind fun _ hend => hend
  · exact h.within _
  · exact placed_wrongKind expected h

/-! ## Records -/

/-- The text behind a closing bracket or another comma starts at a clean cut as well. -/
theorem CleanCut.afterRefused (b : Bracket) (h : CleanCut text s) :
    CleanCut text (Shape.afterRefused b s) := by
  have h := h.skipBlanks
  unfold Shape.afterRefused
  generalize Json.skipBlanks s = t at h ⊢
  split
  · exact h
  split
  · next hc => exact (h.skip (hc ▸ b.utf8Size_close)).cleanCut
  split
  · next hc =>
    have hcomma := (Bool.and_eq_true_iff.1 hc).2
    exact (h.skip (of_decide_eq_true hcomma ▸ rfl)).skipBlanks.cleanCut
  · exact h

/-- The text behind the members that were read. -/
def Filled.rest : Filled α → List Char
  | .complete _ rest => rest
  | .refused _ rest => rest

/-- The text behind an object that is complete, and in front of what is wrong with another one. -/
def Filled.restOfObject : Filled α → List Char
  | .complete _ rest => rest.drop 1
  | .refused _ rest => rest

namespace Shape

/-- The fields have clean readers. -/
def Clean (shape : Shape α) : Prop :=
  ∀ field ∈ shape.fields, ∀ a, Reader.Clean (field.read a)

theorem ends_readListed (shape : Shape α) {fields : List (RecordField α)}
    (hfields : ∀ field ∈ fields, ∀ a, Reader.Clean (field.read a)) (index : Nat) (a : α)
    (h : Behind text s) : Ends text Filled.rest (shape.readListed fields index a s) := by
  induction fields generalizing index a s with
  | nil => exact h
  | cons field fields ih =>
    obtain ⟨hfield, hfields⟩ := List.forall_mem_cons.1 hfields
    unfold readListed
    refine (ends_nextItem _ h).bind fun next hnext => ?_
    cases next with
    | member rest =>
      refine (hfield a text rest hnext.cleanCut).bind fun ⟨b, left⟩ hleft => ?_
      exact ih hfields _ _ hleft
    | none rest =>
      simp only
      split
      · exact hnext
      · exact ih hfields _ _ hnext

theorem ends_nextKey (isFirst : Bool) (h : Behind text s) :
    Ends text Next.rest (nextKey isFirst s) := by
  have h := h.skipBlanks
  unfold nextKey
  generalize skipBlanks s = t at h ⊢
  split
  · exact h.within _
  · exact h
  · split
    · split
      · next hc => exact h.skip (hc ▸ rfl)
      · exact h.within _
    split
    · next hc =>
      have h := (h.skip (hc ▸ rfl)).skipBlanks
      split
      · next hs => exact (hs ▸ h).skip rfl
      · next hs => exact (hs ▸ h).within _
      · next hs => exact (hs ▸ h).within _
      · exact h.within _
    · exact h.within _

theorem nextKey_none {isFirst : Bool} {rest : List Char}
    (h : nextKey isFirst s = .ok (.none rest)) : ∃ more, rest = '\x7d' :: more := by
  unfold nextKey at h
  split at h
  · cases h
  · cases h
    exact ⟨_, rfl⟩
  · split at h
    · split at h <;> cases h
    split at h
    · split at h <;> cases h
    · cases h

theorem ends_readKeyed {shape : Shape α} (hshape : shape.Clean) {bound : List Char}
    (hbound : s.length ≤ bound.length) (isFirst : Bool) (seen : List String) (a : α)
    (h : Behind text s) :
    Ends text Filled.restOfObject (shape.readKeyed bound isFirst seen a s) := by
  induction bound generalizing isFirst seen a s with
  | nil =>
    obtain rfl := List.eq_nil_of_length_eq_zero (Nat.le_zero.1 hbound)
    exact h.within _
  | cons _ bound ih =>
    unfold readKeyed
    refine (ends_nextKey isFirst h).bind_of_eq fun next hnext hrest => ?_
    have hle := (ends_nextKey isFirst (.blank s)).length_le hnext
    cases next with
    | none rest =>
      obtain ⟨more, rfl⟩ := nextKey_none hnext
      simp only
      split
      · exact hrest
      · exact Behind.skip hrest rfl
    | member rest =>
      -- the key, the colon and the value are each behind what comes before them
      refine (ends_readStringBody hrest.suffix).bind_of_eq fun answer hkey hleft => ?_
      obtain ⟨key, left⟩ := answer
      have hlt := (ends_readStringBody (List.suffix_refl rest)).length_lt hkey
      have hbound : left.length ≤ bound.length := by
        simp only [Next.rest, List.length_cons] at hle hlt hbound
        omega
      simp only
      split
      · refine (ends_readColon hleft.cleanCut).bind_of_eq fun value hcolon hvalue => ?_
        refine (ends_skipValue hvalue.cleanCut).bind_of_eq fun more hskip hmore => ?_
        have hvalue' := (ends_readColon (.refl left)).length_lt hcolon
        have hmore' := (ends_skipValue (.refl value)).length_lt hskip
        exact ih (by simp only [id] at hvalue' hmore'; omega) _ _ _ hmore
      · next field hfield =>
        split
        · exact hleft
        · have hclean := hshape field (List.mem_of_find?_eq_some hfield) a
          refine (ends_readColon hleft.cleanCut).bind_of_eq fun value hcolon hvalue => ?_
          refine (hclean text value hvalue.cleanCut).bind_of_eq fun answer hread hmore => ?_
          obtain ⟨b, more⟩ := answer
          have hvalue' := (ends_readColon (.refl left)).length_lt hcolon
          have hmore' := (hclean value value (.refl value)).length_lt hread
          exact ih (by simp only [id] at hvalue' hmore' ⊢; omega) _ _ _ hmore

theorem clean_read {shape : Shape α} (hshape : shape.Clean) : Reader.Clean shape.read := by
  intro text s h
  have h := h.skipBlanks
  unfold read
  generalize skipBlanks s = t at h ⊢
  split
  · refine (shape.ends_readListed hshape 0 shape.blank (h.skip rfl)).bind fun filled hfilled => ?_
    cases filled with
    | complete a rest => exact (ends_closeList hfilled.cleanCut).bind fun _ hend => hend
    | refused cause rest => exact .before (hfilled.cleanCut.afterRefused .list)
  · refine (ends_readKeyed hshape (Nat.le_refl _) true [] shape.blank (h.skip rfl)).bind
      fun filled hfilled => ?_
    cases filled with
    | complete a rest => exact hfilled
    | refused cause rest => exact .before (hfilled.cleanCut.afterRefused .object)
  · exact h.within _
  · exact placed_wrongKind shape.title h

end Shape

/-! ## Whole texts -/

theorem placed_of_decode {read : Reader α} (hread : Reader.Clean read) {f : Fault}
    (h : decode read text = .error f) : Placed text f := by
  have hends := hread text text (.refl text)
  unfold decode at h
  cases hfirst : read text with
  | error g =>
    rw [hfirst] at h
    cases h
    exact hends.error hfirst
  | ok answer =>
    obtain ⟨a, rest⟩ := answer
    have hrest := (hends.ok hfirst).skipBlanks
    rw [hfirst] at h
    change (readEnd rest >>= fun _ => .ok a) = .error f at h
    unfold readEnd at h
    generalize skipBlanks rest = t at h hrest
    split at h
    · cases h
    · cases h
      exact hrest.within _

end Json

end Choreography
