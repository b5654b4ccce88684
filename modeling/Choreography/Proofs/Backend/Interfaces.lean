import Choreography.Proofs.Backend.TypeScript
import Choreography.Proofs.Json.Strings

/-!
# TypeScript modules are read back

`interfaces` finds the interfaces in the lines of a text, with the event that each of their members
declares: the property name is read as JSON. It knows how members look, but not which events a
service has.

- `members?_memberLines`: the members of any events are read as these events. A spelled event stands
  within one line, so it ends no member, and no interface.
- `interfaces_interfaceLines`: an interface is read as its name and its events.
- `lines_content`: a module consists of its lines, but for the comment at its head: an identifier
  stands there as it is, with all its line ends.
- `declares_files`: the last two interfaces of a module are its own, and they list the events of its
  service. It has no others if the identifier is of one line.
-/

namespace Choreography

namespace TypeScript

open Naming

/-! ## Reading interfaces -/

/-- The lines of a text. -/
def lines (text : String) : List String :=
  (text.toList.splitOn '\n').map String.ofList

/-- What a member says of its event. -/
def memberType : List Char := ": (payload: unknown) => Promise<void>;".toList

/-- The event that a member declares. -/
def member? (line : String) : Option String :=
  match line.toList with
  | ' ' :: ' ' :: '"' :: quoted =>
    match Json.readStringBody quoted with
    | .ok (event, rest) => if rest = memberType then some event else none
    | .error _ => none
  | _ => none

/-- The events of the members up to the closing brace. -/
def members? : List String → Option (List String)
  | [] => none
  | line :: rest =>
    if line = "\x7d" then some []
    else do return (← member? line) :: (← members? rest)

/-- The words in front of the name of an interface. -/
def keywords : List Char := "export interface ".toList

/-- The name of the interface that begins in a line, and what stands behind the name. -/
def header? (line : String) : Option (List Char × List Char) :=
  (line.toList.dropPrefix? keywords).map fun rest =>
    (rest.takeWhile (· ≠ ' '), rest.dropWhile (· ≠ ' '))

/-- The interface that begins in the first line: its name and its events. -/
def interface? : List String → Option (String × List String)
  | [] => none
  | line :: rest => do
    let (name, brace) ← header? line
    if brace = " \x7b\x7d".toList then return (String.ofList name, [])
    else if brace = " \x7b".toList then return (String.ofList name, ← members? rest)
    else none

/-- All interfaces in the lines, from the first to the last. -/
def interfaces : List String → List (String × List String)
  | [] => []
  | line :: rest => (interface? (line :: rest)).toList ++ interfaces rest

/-! ## Lines -/

/-- A line without a line end. -/
def OneLine (line : String) : Prop := '\n' ∉ line.toList

instance (line : String) : Decidable (OneLine line) :=
  inferInstanceAs (Decidable (¬ _ ∈ line.toList))

theorem lines_of_oneLine {line : String} (h : OneLine line) : lines line = [line] := by
  rw [lines, List.splitOn_eq_singleton h, List.map_singleton, String.ofList_toList]

/-- Joined lines fall apart again, each into the lines that it has itself. -/
theorem lines_unlines (ls : List String) : lines (unlines ls) = ls.flatMap lines ++ [""] := by
  induction ls with
  | nil => rfl
  | cons l ls ih =>
    have hsplit : (unlines (l :: ls)).toList = l.toList ++ '\n' :: (unlines ls).toList := by
      simp [unlines, String.toList_append]
    rw [lines, hsplit, List.splitOn_append_cons_self, List.map_append, List.flatMap_cons,
      List.append_assoc, ← ih]
    rfl

theorem flatMap_lines {ls : List String} (h : ∀ l ∈ ls, OneLine l) : ls.flatMap lines = ls := by
  induction ls with
  | nil => rfl
  | cons l ls ih =>
    obtain ⟨hl, hls⟩ := List.forall_mem_cons.1 h
    rw [List.flatMap_cons, lines_of_oneLine hl, ih hls, List.singleton_append]

theorem OneLine.append {a b : String} (ha : OneLine a) (hb : OneLine b) : OneLine (a ++ b) := by
  rw [OneLine, String.toList_append, List.mem_append]
  exact fun h => h.elim ha hb

/-- A spelled text stands within one line. -/
theorem oneLine_quote (text : String) : OneLine (Json.quote text) := by
  intro h
  simp only [Json.quote, String.toList_ofList, Json.quoted, List.cons_append, List.mem_cons,
    List.mem_append, List.mem_flatMap] at h
  rcases h with h | ⟨c, -, h⟩ | h | h
  · exact absurd h (by decide)
  · exact absurd (Json.mem_escape h).1 (by decide)
  · exact absurd h (by decide)
  · cases h

/-! ## Members -/

theorem toList_memberLine (event : String) :
    (memberLine event).toList =
      ' ' :: ' ' :: '"' :: (event.toList.flatMap Json.escape ++ '"' :: memberType) := by
  have hquote : (Json.quote event).toList = '"' :: (event.toList.flatMap Json.escape ++ ['"']) :=
    String.toList_ofList
  rw [memberLine, String.toList_append, String.toList_append, hquote, List.append_assoc,
    List.cons_append, List.append_assoc]
  rfl

/-- A member is read as its event, whatever characters that has. -/
theorem member?_memberLine (event : String) : member? (memberLine event) = some event := by
  rw [member?, toList_memberLine]
  simp [Json.readStringBody_escaped]

theorem memberLine_ne_brace (event : String) : memberLine event ≠ "\x7d" := fun h => by
  have := congrArg String.toList h
  rw [toList_memberLine] at this
  cases this

theorem members?_memberLines (events rest : List String) :
    members? (events.map memberLine ++ "\x7d" :: rest) = some events := by
  induction events with
  | nil => simp [members?]
  | cons event events ih =>
    rw [List.map_cons, List.cons_append, members?, if_neg (memberLine_ne_brace event),
      member?_memberLine, ih]
    rfl

theorem oneLine_memberLine (event : String) : OneLine (memberLine event) :=
  (OneLine.append (by decide) (oneLine_quote event)).append (by decide)

/-! ## Interfaces -/

/-- A line that differs from the keywords at some place begins no interface. -/
theorem header?_eq_none {line : String} (n : Nat) (hn : n < keywords.length)
    (h : line.toList[n]? ≠ keywords[n]?) : header? line = none := by
  rw [header?, Option.map_eq_none_iff, Option.eq_none_iff_forall_ne_some]
  intro rest hrest
  obtain ⟨p, hline, hp⟩ := List.dropPrefix?_eq_some_iff.1 hrest
  rw [hline, eq_of_beq hp, List.getElem?_append_left hn] at h
  exact h rfl

theorem header?_eq_some {name : String} {brace : List Char} {line : String}
    (hname : ' ' ∉ name.toList) (hbrace : brace.head? = some ' ')
    (hline : line.toList = keywords ++ name.toList ++ brace) :
    header? line = some (name.toList, brace) := by
  have hdrop : line.toList.dropPrefix? keywords = some (name.toList ++ brace) :=
    List.dropPrefix?_eq_some_iff.2 ⟨keywords, by rw [hline, List.append_assoc], beq_self_eq_true _⟩
  have hchars : ∀ c ∈ name.toList, decide (c ≠ ' ') = true :=
    fun c hc => decide_eq_true fun h => hname (h ▸ hc)
  obtain ⟨brace, rfl⟩ : ∃ rest, brace = ' ' :: rest := List.head?_eq_some_iff.1 hbrace
  rw [header?, hdrop, Option.map_some, List.takeWhile_append_of_pos hchars,
    List.dropWhile_append_of_pos hchars]
  simp

variable {before after : List String}

/-- Lines that begin no interface are passed over. -/
theorem interfaces_append_of_none (h : ∀ line ∈ before, header? line = none) :
    interfaces (before ++ after) = interfaces after := by
  induction before with
  | nil => rfl
  | cons line before ih =>
    obtain ⟨hline, hbefore⟩ := List.forall_mem_cons.1 h
    rw [List.cons_append, interfaces, ih hbefore, interface?, hline]
    rfl

/-- Whatever stands in front, later interfaces are found. -/
theorem exists_interfaces_append (before after : List String) :
    ∃ found, interfaces (before ++ after) = found ++ interfaces after := by
  induction before with
  | nil => exact ⟨[], rfl⟩
  | cons line before ih =>
    obtain ⟨found, hfound⟩ := ih
    refine ⟨(interface? (line :: (before ++ after))).toList ++ found, ?_⟩
    rw [List.cons_append, interfaces, hfound, List.append_assoc]

/-- The lines of an interface are read as this interface. -/
theorem interfaces_interfaceLines {name : String} (hname : ' ' ∉ name.toList)
    (events after : List String) :
    interfaces (interfaceLines name events ++ after) = (name, events) :: interfaces after := by
  have hblank : ∀ rest, interfaces ("" :: rest) = interfaces rest := fun _ => rfl
  by_cases hevents : events = []
  · subst hevents
    have hheader : header? ("export interface " ++ name ++ " \x7b\x7d") =
        some (name.toList, " \x7b\x7d".toList) :=
      header?_eq_some hname rfl (by rw [String.toList_append, String.toList_append]; rfl)
    rw [interfaceLines, if_pos List.isEmpty_nil, List.cons_append, hblank, List.singleton_append,
      interfaces, interface?, hheader]
    simp
  · have hheader : header? ("export interface " ++ name ++ " \x7b") =
        some (name.toList, " \x7b".toList) :=
      header?_eq_some hname rfl (by rw [String.toList_append, String.toList_append]; rfl)
    -- no member can be taken for a header: a member starts with a blank, and a header with a letter
    have hmembers : ∀ line ∈ events.map memberLine ++ ["\x7d"], header? line = none := by
      intro line hline
      apply header?_eq_none 0 (by decide)
      rcases List.mem_append.1 hline with hline | hline
      · obtain ⟨event, -, rfl⟩ := List.mem_map.1 hline
        rw [toList_memberLine, List.getElem?_cons_zero]
        decide
      · rw [List.mem_singleton.1 hline]
        decide
    have hlines : interfaceLines name events ++ after =
        "" :: ("export interface " ++ name ++ " \x7b") ::
          (events.map memberLine ++ ["\x7d"] ++ after) := by
      simp [interfaceLines, hevents]
    rw [hlines, hblank, interfaces, interfaces_append_of_none hmembers, interface?, hheader,
      List.append_assoc, List.singleton_append]
    simp [members?_memberLines]

/-! ## Modules -/

/-- An exported name that has got no suffix consists of letters and digits. -/
theorem mem_exportStem {name : String} {c : Char} (hc : c ∈ (exportStem name).toList) :
    c.isAlphanum = true := by
  have hpascal : c ∈ Casing.pascal.nameChars name.toList := by
    rw [exportStem, String.toList_ofList] at hc
    split at hc
    · exact List.mem_of_mem_take hc
    · exact hc
  rcases Casing.mem_nameChars Casing.pascal_sound hpascal with h | h
  · exact h
  · cases h

/-- The characters of an exported name are letters, digits and underscores. -/
theorem mem_exportStems {services : List Service} {stem : String} (h : stem ∈ exportStems services)
    {c : Char} (hc : c ∈ stem.toList) : c.isAlphanum = true ∨ c = '_' := by
  refine forall_mem_unique (P := fun stem => ∀ c ∈ stem.toList, c.isAlphanum = true ∨ c = '_')
    ?_ ?_ stem h c hc
  · intro stem hstem c hc
    obtain ⟨s, -, rfl⟩ := List.mem_map.1 hstem
    exact .inl (mem_exportStem hc)
  · intro name n hname c hc
    rw [suffixed_eq, String.toList_append, List.mem_append] at hc
    rcases hc with hc | hc
    · exact hname c hc
    · rcases mem_suffix hc with rfl | hdigit
      · exact .inr rfl
      · exact .inl (Bool.or_eq_true_iff.2 (.inr hdigit))

/-- A stem of exported names: it holds neither blanks nor line ends. -/
structure IsStem (stem : String) : Prop where
  blank : ' ' ∉ stem.toList
  oneLine : OneLine stem

theorem IsStem.blank_append {stem ending : String} (h : IsStem stem) (hending : ' ' ∉ ending.toList) :
    ' ' ∉ (stem ++ ending).toList := by
  rw [String.toList_append, List.mem_append]
  exact fun hc => hc.elim h.blank hending

theorem isStem_of_mem {services : List Service} {stem : String} (h : stem ∈ exportStems services) :
    IsStem stem where
  blank hc := absurd (mem_exportStems h hc) (by decide)
  oneLine hc := absurd (mem_exportStems h hc) (by decide)

variable {stem : String}

theorem oneLine_interfaceLines {name : String} (hname : OneLine name) (events : List String) :
    ∀ line ∈ interfaceLines name events, OneLine line := by
  have hheader : ∀ brace, OneLine brace → OneLine ("export interface " ++ name ++ brace) :=
    fun _ hbrace => (OneLine.append (by decide) hname).append hbrace
  intro line hline
  unfold interfaceLines at hline
  split at hline
  · simp only [List.mem_cons, List.not_mem_nil, or_false] at hline
    rcases hline with rfl | rfl
    · decide
    · exact hheader _ (by decide)
  · simp only [List.mem_cons, List.mem_append, List.mem_map, List.not_mem_nil, or_false] at hline
    rcases hline with ((rfl | rfl) | ⟨event, -, rfl⟩) | rfl
    · decide
    · exact hheader _ (by decide)
    · exact oneLine_memberLine event
    · decide

theorem oneLine_factoryLines (hstem : OneLine stem) (s : Service) :
    ∀ line ∈ factoryLines stem s, OneLine line := by
  have hwith : ∀ a b, OneLine a → OneLine b → OneLine (a ++ stem ++ b) :=
    fun _ _ ha hb => (OneLine.append ha hstem).append hb
  intro line hline
  simp only [factoryLines, List.mem_cons, List.not_mem_nil, or_false] at hline
  rcases hline with rfl | rfl | rfl | rfl | rfl
  · decide
  · exact hwith _ _ (by decide) (by decide)
  · exact hwith _ _ (by decide) (by decide)
  · exact hwith _ _ (by decide) (by decide)
  · exact (OneLine.append (by decide) (oneLine_quote s.name)).append (by decide)

theorem getElem?_zero_append {a : String} (ha : a ≠ "") (b : String) :
    (a ++ b).toList[0]? = a.toList[0]? := by
  rw [String.toList_append, List.getElem?_append_left]
  exact List.length_pos_iff.2 fun h => ha (String.toList_injective h)

/-- The lines of the function begin no interface. The first one differs only behind the keyword of
exports. -/
theorem header?_factoryLines (stem : String) (s : Service) :
    ∀ line ∈ factoryLines stem s, header? line = none := by
  have hfirst : ∀ a b : String, a.toList[0]? ≠ keywords[0]? → a ≠ "" → header? (a ++ b) = none :=
    fun a b ha hne => header?_eq_none 0 (by decide) (by rwa [getElem?_zero_append hne])
  intro line hline
  simp only [factoryLines, List.mem_cons, List.not_mem_nil, or_false, String.append_assoc] at hline
  rcases hline with rfl | rfl | rfl | rfl | rfl
  · decide
  · refine header?_eq_none 7 (by decide) ?_
    rw [String.toList_append, List.getElem?_append_left (by decide)]
    decide
  · exact hfirst _ _ (by decide) (by decide)
  · exact hfirst _ _ (by decide) (by decide)
  · exact hfirst _ _ (by decide) (by decide)

/-- A module is read line by line, but for its head. -/
theorem lines_content (hstem : IsStem stem) (s : Service) (moduleStem : String) :
    lines (moduleFile s moduleStem stem).content = (headLines s).flatMap lines ++
      (interfaceLines (stem ++ "Operations") s.operations ++
        (interfaceLines (stem ++ "Calls") s.calls ++ (factoryLines stem s ++ [""]))) := by
  have hname : ∀ ending, OneLine ending → OneLine (stem ++ ending) := fun _ => hstem.oneLine.append
  rw [moduleFile, lines_unlines, moduleLines]
  simp only [List.flatMap_append, List.append_assoc,
    flatMap_lines (oneLine_interfaceLines (hname "Operations" (by decide)) s.operations),
    flatMap_lines (oneLine_interfaceLines (hname "Calls" (by decide)) s.calls),
    flatMap_lines (oneLine_factoryLines hstem.oneLine s)]

/-- The interfaces of a service: one with its operations and one with its calls. -/
def serviceInterfaces (stem : String) (s : Service) : List (String × List String) :=
  [(stem ++ "Operations", s.operations), (stem ++ "Calls", s.calls)]

theorem interfaces_behind_head (hstem : IsStem stem) (s : Service) :
    interfaces (interfaceLines (stem ++ "Operations") s.operations ++
      (interfaceLines (stem ++ "Calls") s.calls ++ (factoryLines stem s ++ [""]))) =
        serviceInterfaces stem s := by
  rw [interfaces_interfaceLines (hstem.blank_append (by decide)),
    interfaces_interfaceLines (hstem.blank_append (by decide)),
    interfaces_append_of_none (header?_factoryLines stem s)]
  rfl

/-- An identifier of one line keeps the head to its two lines. -/
theorem flatMap_lines_headLines {s : Service} (h : OneLine s.id.text) :
    (headLines s).flatMap lines = headLines s := by
  have hsecond : OneLine ("// Service " ++ Json.quote s.name ++ " (" ++ s.id.text ++ ")") :=
    (((OneLine.append (by decide) (oneLine_quote s.name)).append (by decide)).append h).append
      (by decide)
  refine flatMap_lines fun line hline => ?_
  simp only [headLines, List.mem_cons, List.not_mem_nil, or_false] at hline
  rcases hline with rfl | rfl
  · decide
  · exact hsecond

/-- The lines of the head begin as comments do. -/
theorem getElem?_headLines (s : Service) : ∀ line ∈ headLines s, line.toList[0]? = some '/' := by
  intro line hline
  simp only [headLines, List.mem_cons, List.not_mem_nil, or_false, String.append_assoc] at hline
  rcases hline with rfl | rfl
  · decide
  · rw [getElem?_zero_append (by decide)]
    decide

/-- The head begins no interface if the identifier is of one line. -/
theorem header?_headLines {s : Service} (h : OneLine s.id.text) :
    ∀ line ∈ (headLines s).flatMap lines, header? line = none := by
  rw [flatMap_lines_headLines h]
  intro line hline
  refine header?_eq_none 0 (by decide) ?_
  rw [getElem?_headLines s line hline]
  decide

/-- What is read back from the module of a service. -/
structure Declares (stem : String) (s : Service) (text : String) : Prop where
  /-- The last interfaces are those of the service. -/
  last : serviceInterfaces stem s <:+ interfaces (lines text)
  /-- The only way to further interfaces is an identifier of several lines. -/
  only : OneLine s.id.text → interfaces (lines text) = serviceInterfaces stem s

theorem declares_moduleFile (hstem : IsStem stem) (s : Service) (moduleStem : String) :
    Declares stem s (moduleFile s moduleStem stem).content := by
  have hbehind := interfaces_behind_head hstem s
  constructor
  · obtain ⟨found, hfound⟩ := exists_interfaces_append ((headLines s).flatMap lines) _
    rw [lines_content hstem]
    exact ⟨found, by rw [hfound, hbehind]⟩
  · intro hid
    rw [lines_content hstem, interfaces_append_of_none (header?_headLines hid), hbehind]

/-- The module of each service declares its events, under the stem at the same place. -/
theorem declares_files {services : List Service} {i : Nat} {s : Service}
    (h : services[i]? = some s) :
    ∃ stem file, (exportStems services)[i]? = some stem ∧ (files services)[i]? = some file ∧
      file.service = some s.id ∧ Declares stem s file.content := by
  obtain ⟨moduleStem, stem, hstem, hfile⟩ := getElem?_files h
  exact ⟨stem, _, hstem, hfile, rfl,
    declares_moduleFile (isStem_of_mem (List.mem_of_getElem? hstem)) s moduleStem⟩

end TypeScript

end Choreography
