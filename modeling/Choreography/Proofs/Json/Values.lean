import Choreography.Json.Record
import Choreography.Proofs.Json.Strings

/-!
# Printed values are read back

`Spells read text a`: the reader takes the text for `a`, with any blanks in front of it and anything
behind it.

- `spells_string`, `Spells.map`: single values.
- `spells_list`: a printed list, if every printed item is spelled.
- `Shape.spells_record`: a printed object, if its members fill in the record (`Shape.Fills`), one
  after the other.
-/

namespace Choreography

namespace Json

variable {α β : Type}

/-! ## Blanks -/

theorem skipBlanks_cons {c : Char} (h : isBlank c = false) (s : List Char) :
    skipBlanks (c :: s) = c :: s := by
  simp [skipBlanks, h]

@[simp] theorem skipBlanks_space (s : List Char) : skipBlanks (' ' :: s) = skipBlanks s := rfl

@[simp] theorem skipBlanks_newLine (depth : Nat) (s : List Char) :
    skipBlanks (newLine depth ++ s) = skipBlanks s := by
  have h : ∀ n, skipBlanks (List.replicate n ' ' ++ s) = skipBlanks s := by
    intro n
    induction n with
    | zero => rfl
    | succ n ih => exact ih
  exact h (2 * depth)

/-- The reader takes the text for the value. The text opens with a quote or a bracket, so that no
list or record could end there. -/
structure Spells (read : Reader α) (text : List Char) (a : α) : Prop where
  opens : ∃ c ∈ ['"', '[', '\x7b'], ∃ rest, text = c :: rest
  reads : ∀ s rest, skipBlanks s = text ++ rest → read s = .ok (a, rest)

namespace Spells

variable {read : Reader α} {text : List Char} {a : α}

/-- A spelled value begins with neither a blank nor the end of a list. -/
theorem exists_cons (h : Spells read text a) :
    ∃ c t, text = c :: t ∧ isBlank c = false ∧ c ≠ ']' := by
  obtain ⟨c, hc, t, rfl⟩ := h.opens
  have hends : ['"', '[', '\x7b'].all (fun c => !isBlank c && c != ']') = true := by decide
  have := List.all_eq_true.1 hends c hc
  exact ⟨c, t, rfl, by simpa using this⟩

theorem skipBlanks_append (h : Spells read text a) (rest : List Char) :
    skipBlanks (text ++ rest) = text ++ rest := by
  obtain ⟨c, t, rfl, hblank, -⟩ := h.exists_cons
  exact skipBlanks_cons hblank _

theorem reads_append (h : Spells read text a) (rest : List Char) :
    read (text ++ rest) = .ok (a, rest) :=
  h.reads _ rest (h.skipBlanks_append rest)

/-- What is read can be converted. -/
theorem map (h : Spells read text a) (f : α → β) :
    Spells (fun s => do
      let (x, rest) ← read s
      return (f x, rest)) text (f a) where
  opens := h.opens
  reads s rest hs := by simp [h.reads s rest hs, bind, Except.bind, pure, Except.pure]

end Spells

theorem spells_string (expected s : String) : Spells (readString expected) (quoted s.toList) s where
  opens := ⟨'"', by decide, _, rfl⟩
  reads t rest ht := by
    rw [quoted, List.append_assoc, List.cons_append] at ht
    unfold readString
    rw [ht]
    exact readStringBody_escaped s rest

/-! ## Brackets -/

/-- Members behind the first one: each follows a comma. -/
def printMore (depth : Nat) (members : List (List Char)) : List Char :=
  members.flatMap fun m => ',' :: (newLine depth ++ m)

theorem printMembers_cons (depth : Nat) (m : List Char) (ms : List (List Char)) :
    printMembers depth (m :: ms) = newLine depth ++ m ++ printMore depth ms := by
  induction ms generalizing m with
  | nil => simp [printMembers, printMore]
  | cons n ms ih => simp [printMembers, printMore, ih n]

theorem printMore_cons (depth : Nat) (m : List Char) (ms : List (List Char)) :
    printMore depth (m :: ms) = ',' :: (newLine depth ++ m) ++ printMore depth ms :=
  rfl

theorem length_le_printMore (depth : Nat) (ms : List (List Char)) :
    ms.length ≤ (printMore depth ms).length := by
  induction ms with
  | nil => exact Nat.le_refl 0
  | cons m ms ih =>
    simp only [printMore, List.flatMap_cons, List.length_append, List.length_cons] at ih ⊢
    omega

/-! ## Lists -/

section Lists

variable {item : Reader α} {text rest s : List Char} {a : α}

theorem nextItem_close (isFirst : Bool) (hs : skipBlanks s = ']' :: rest) :
    nextItem isFirst s = .ok (.none (']' :: rest)) := by
  simp [nextItem, hs]

theorem nextItem_first (h : Spells item text a) (hs : skipBlanks s = text ++ rest) :
    nextItem true s = .ok (.member (text ++ rest)) := by
  obtain ⟨c, t, rfl, -, hclose⟩ := h.exists_cons
  unfold nextItem
  rw [hs]
  simp

theorem nextItem_more (h : Spells item text a) (hs : skipBlanks s = text ++ rest) :
    nextItem false (',' :: s) = .ok (.member (text ++ rest)) := by
  obtain ⟨c, t, rfl, -, hclose⟩ := h.exists_cons
  have hcomma : skipBlanks (',' :: s) = ',' :: s := skipBlanks_cons (by decide) s
  unfold nextItem
  rw [hcomma]
  simp [hs, hclose]

theorem readItems_close {isFirst : Bool} {bound : List Char} (hb : 0 < bound.length)
    (h : nextItem isFirst s = .ok (.none rest)) :
    readItems item bound isFirst s = .ok ([], rest) := by
  cases bound with
  | nil => cases hb
  | cons b bound => simp [readItems, h, bind, Except.bind, pure, Except.pure]

/-- One item is read, then the others. -/
theorem readItems_member {isFirst : Bool} {b : Char} {bound t u : List Char} {more : List α}
    (h : nextItem isFirst s = .ok (.member rest)) (ha : item rest = .ok (a, t))
    (hmore : readItems item bound false t = .ok (more, u)) :
    readItems item (b :: bound) isFirst s = .ok (a :: more, u) := by
  simp [readItems, h, ha, hmore, bind, Except.bind, pure, Except.pure]

theorem readList_bracket {expected : String} {t : List Char} {items : List α}
    (hs : skipBlanks s = '[' :: t) (h : readItems item t true t = .ok (items, ']' :: rest)) :
    readList expected item s = .ok (items, rest) := by
  have hclose : closeList (']' :: rest) = .ok rest := rfl
  simp [readList, hs, h, hclose, bind, Except.bind, pure, Except.pure]

/-- Items behind the first one, up to the closing bracket. -/
theorem readItems_more {print : α → List Char} (depth : Nat) (items : List α)
    (h : ∀ a ∈ items, Spells item (print a) a) {bound : List Char}
    (hb : items.length < bound.length) (hs : skipBlanks s = ']' :: rest) :
    readItems item bound false (printMore depth (items.map print) ++ s) =
      .ok (items, ']' :: rest) := by
  induction items generalizing bound with
  | nil => exact readItems_close hb (nextItem_close false hs)
  | cons a items ih =>
    cases bound with
    | nil => cases hb
    | cons b bound =>
      have ha := h a List.mem_cons_self
      have hmore := ih (fun x hx => h x (List.mem_cons_of_mem a hx)) (Nat.lt_of_succ_lt_succ hb)
      rw [List.map_cons, printMore_cons, List.append_assoc, List.cons_append]
      refine readItems_member (nextItem_more ha ?_) (ha.reads_append _) hmore
      rw [List.append_assoc, skipBlanks_newLine, ha.skipBlanks_append]

/-- A printed list is read as the list. -/
theorem spells_list (expected : String) {print : α → List Char} (depth : Nat) (items : List α)
    (h : ∀ a ∈ items, Spells item (print a) a) :
    Spells (readList expected item) (printList depth (items.map print)) items := by
  cases items with
  | nil =>
    refine ⟨⟨'[', by decide, [']'], rfl⟩, ?_⟩
    intro s rest hs
    unfold readList
    rw [hs]
    rfl
  | cons a items =>
    have ha := h a List.mem_cons_self
    refine ⟨⟨'[', by decide, _, rfl⟩, ?_⟩
    intro s rest hs
    -- the text behind the bracket, one part after the other
    let closing := newLine depth ++ ']' :: rest
    let more := printMore (depth + 1) (items.map print) ++ closing
    have hs : skipBlanks s = '[' :: (newLine (depth + 1) ++ (print a ++ more)) := by
      rw [hs, printList, printBracket, List.map_cons, printMembers_cons]
      simp [more, closing]
    have hclosing : skipBlanks closing = ']' :: rest := by
      rw [skipBlanks_newLine, skipBlanks_cons (by decide)]
    have hbound : items.length < (List.replicate (2 * (depth + 1)) ' ' ++ (print a ++ more)).length
        := by
      have := length_le_printMore (depth + 1) (items.map print)
      rw [List.length_map] at this
      simp only [more, closing, newLine, List.length_append, List.length_cons]
      omega
    have hmore := readItems_more (depth + 1) items
      (fun x hx => h x (List.mem_cons_of_mem a hx)) hbound hclosing
    have hfirst : nextItem true (newLine (depth + 1) ++ (print a ++ more)) =
        .ok (.member (print a ++ more)) :=
      nextItem_first ha (by rw [skipBlanks_newLine, ha.skipBlanks_append])
    have hitems := readItems_member (b := '\n') hfirst (ha.reads_append more) hmore
    exact readList_bracket hs hitems

end Lists

/-! ## Records -/

namespace Shape

variable {shape : Shape α} {rest s : List Char}

/-- Members with different keys of the record fill it in, from `a` to the last value. All fields
that are required are among them or have been seen before. -/
inductive Fills (shape : Shape α) :
    (seen : List String) → α → List (String × List Char) → α → Prop where
  | done {seen a} (required : ∀ field ∈ shape.fields, field.required → field.key ∈ seen) :
    Fills shape seen a [] a
  | member {seen a key field value b members c}
    (known : shape.fields.find? (·.key = key) = some field) (new : key ∉ seen)
    (spelled : Spells (field.read a) value b) (more : Fills shape (key :: seen) b members c) :
    Fills shape seen a ((key, value) :: members) c

theorem nextKey_close (isFirst : Bool) (hs : skipBlanks s = '\x7d' :: rest) :
    nextKey isFirst s = .ok (.none ('\x7d' :: rest)) := by
  simp [nextKey, hs]

theorem nextKey_first (hs : skipBlanks s = '"' :: rest) : nextKey true s = .ok (.member rest) := by
  simp [nextKey, hs]

theorem nextKey_more (hs : skipBlanks s = '"' :: rest) :
    nextKey false (',' :: s) = .ok (.member rest) := by
  have hcomma : skipBlanks (',' :: s) = ',' :: s := skipBlanks_cons (by decide) s
  simp [nextKey, hcomma, hs]

theorem readKeyed_close {isFirst : Bool} {seen : List String} {a : α} {bound : List Char}
    (hb : 0 < bound.length) (h : nextKey isFirst s = .ok (.none rest))
    (required : ∀ field ∈ shape.fields, field.required → field.key ∈ seen) :
    shape.readKeyed bound isFirst seen a s = .ok (.complete a rest) := by
  have hnone : (shape.fields.find? fun field => field.required && !decide (field.key ∈ seen)) =
      none := by
    rw [List.find?_eq_none]
    intro field hfield
    simpa using required field hfield
  cases bound with
  | nil => cases hb
  | cons b bound => simp [readKeyed, h, hnone, bind, Except.bind, pure, Except.pure]

/-- The text of a member behind the opening quote of its key. -/
def memberBody (key : String) (value : List Char) : List Char :=
  key.toList.flatMap escape ++ '"' :: ':' :: ' ' :: value

/-- One member is read, then the others. -/
theorem readKeyed_member {isFirst : Bool} {seen : List String} {a b : α} {field : RecordField α}
    {key : String} {value bound t : List Char} {c : Char} {result : Filled α}
    (h : nextKey isFirst s = .ok (.member (memberBody key value ++ t)))
    (known : shape.fields.find? (·.key = key) = some field) (new : key ∉ seen)
    (spelled : Spells (field.read a) value b)
    (hmore : shape.readKeyed bound false (key :: seen) b t = .ok result) :
    shape.readKeyed (c :: bound) isFirst seen a s = .ok result := by
  have hkey : readStringBody (memberBody key value ++ t) =
      .ok (key, ':' :: ' ' :: (value ++ t)) := by
    rw [memberBody, List.append_assoc]
    exact readStringBody_escaped key _
  have hcolon : readColon (':' :: ' ' :: (value ++ t)) = .ok (' ' :: (value ++ t)) := rfl
  have hvalue : field.read a (' ' :: (value ++ t)) = .ok (b, t) :=
    spelled.reads _ t (by rw [skipBlanks_space, spelled.skipBlanks_append])
  simp [readKeyed, h, hkey, known, new, hcolon, hvalue, hmore, bind, Except.bind]

/-- Members behind the first one, up to the closing bracket. -/
theorem readKeyed_more (depth : Nat) {seen : List String} {a c : α}
    {members : List (String × List Char)} (h : shape.Fills seen a members c)
    {bound : List Char} (hb : members.length < bound.length)
    (hs : skipBlanks s = '\x7d' :: rest) :
    shape.readKeyed bound false seen a
        (printMore depth (members.map fun m => '"' :: memberBody m.1 m.2) ++ s) =
      .ok (.complete c ('\x7d' :: rest)) := by
  induction h generalizing bound with
  | done required => exact readKeyed_close hb (nextKey_close false hs) required
  | member known new spelled more ih =>
    cases bound with
    | nil => cases hb
    | cons b bound =>
      rw [List.map_cons, printMore_cons, List.append_assoc, List.cons_append]
      refine readKeyed_member (nextKey_more ?_) known new spelled (ih (Nat.lt_of_succ_lt_succ hb))
      rw [List.append_assoc, skipBlanks_newLine, List.cons_append, skipBlanks_cons (by decide)]

theorem read_bracket {t : List Char} {a : α} (hs : skipBlanks s = '\x7b' :: t)
    (h : shape.readKeyed t true [] shape.blank t = .ok (.complete a ('\x7d' :: rest))) :
    shape.read s = .ok (a, rest) := by
  simp [Shape.read, hs, h, bind, Except.bind, pure, Except.pure]

/-- A printed object is read as the record that its members fill in. -/
theorem spells_record {depth : Nat} {key : String} {value : List Char}
    {members : List (String × List Char)} {a : α}
    (h : shape.Fills [] shape.blank ((key, value) :: members) a) :
    Spells shape.read (printObject depth ((key, value) :: members)) a := by
  cases h with
  | member known new spelled fills =>
    refine ⟨⟨'\x7b', by decide, _, rfl⟩, ?_⟩
    intro s rest hs
    -- the text behind the bracket, one part after the other
    let closing := newLine depth ++ '\x7d' :: rest
    let more := printMore (depth + 1) (members.map fun m => '"' :: memberBody m.1 m.2)
      ++ closing
    have hs : skipBlanks s =
        '\x7b' :: (newLine (depth + 1) ++ '"' :: (memberBody key value ++ more)) := by
      rw [hs, printObject, printBracket, List.map_cons, printMembers_cons]
      simp [more, closing, quoted, memberBody]
    have hclosing : skipBlanks closing = '\x7d' :: rest := by
      rw [skipBlanks_newLine, skipBlanks_cons (by decide)]
    have hbound : members.length <
        (List.replicate (2 * (depth + 1)) ' ' ++ '"' :: (memberBody key value ++ more)).length := by
      have := length_le_printMore (depth + 1)
        (members.map fun m => '"' :: memberBody m.1 m.2)
      rw [List.length_map] at this
      simp only [more, closing, newLine, List.length_append, List.length_cons]
      omega
    have hfirst : nextKey true (newLine (depth + 1) ++ '"' :: (memberBody key value ++ more)) =
        .ok (.member (memberBody key value ++ more)) :=
      nextKey_first (by rw [skipBlanks_newLine, skipBlanks_cons (by decide)])
    have hmore := readKeyed_more (depth + 1) fills hbound hclosing
    exact read_bracket hs (readKeyed_member (c := '\n') hfirst known new spelled hmore)

end Shape

end Json

end Choreography
