/-
**Constants and variables of one list of statements.**

A name may be declared only once in a list of statements, if it is declared as a constant, or as a variable
of the list alone.  The passes of the compiler keep these declarations one by one: as often as a name is
declared in a list before, as often it is declared there afterwards.  An import adds a constant for each
name that it binds, in its place.  Nothing else is added but the names of enumerations, which become
variables, and of several enumerations of one name at most the first does.

So names are counted here with their repetitions, and lists of names are compared as sublists.

Main definitions:

* `Script.lexicalNames` — the constants and variables of its list that a statement declares;
* `Script.bindingNames` — those that it may declare when its types are gone;
* `Script.itemNames`, `Script.itemBindings` — the same of an item of a module, imports included;
* `Script.SameLexicals` — what becomes of a list, as far as these names go.

Main results:

* `Script.lowerImport_names` — an import binds the same names as constants;
* `Script.ErasedList.sameLexicals` — **what becomes of the names of a list that loses its types**;
* `Script.map_rebuild_lexical`, `Script.captureInList_lexical` — the passes after types are gone.
-/

import NotebookEngine.Proofs.Script.Captures

set_option autoImplicit false

namespace NotebookEngine

namespace Script

/-! ### Names and their repetitions -/

/-- Whether a form is that of a declaration of constants, or of variables of the list it stands in. -/
def Form.isLexical : Form → Bool
  | .declare .lexical | .declare .constant => true
  | _ => false

/-- The identifiers that a statement declares as constants or as variables of its list. -/
def lexicalNames (n : Node) : List Node := if n.form.isLexical then declaredNames n else []

/-- The identifiers that a statement may declare so when its types are gone. -/
def bindingNames (n : Node) : List Node := if isEnum n then boundNames (n.part 0) else lexicalNames n

/-- The identifier that an imported binding binds, unless it is a type. -/
def importedNames (b : Node) : List Node :=
  match b.form with
  | .importDefault | .importNamespace | .importNamed false => boundNames (b.part 0)
  | _ => []

/-- The identifiers that an item of a module binds as constants or as variables of its list. -/
def itemNames (n : Node) : List Node :=
  match n.form with
  | .import _ _ _ typeOnly => if typeOnly then [] else n.parts.flatMap importedNames
  | _ => lexicalNames n

/-- The identifiers that an item of a module may bind so when its types are gone. -/
def itemBindings (n : Node) : List Node := if isEnum n then boundNames (n.part 0) else itemNames n

theorem lexicalNames_of_isLexical {n : Node} (h : n.form.isLexical = true) :
    lexicalNames n = declaredNames n := if_pos h

theorem lexicalNames_of_not {n : Node} (h : n.form.isLexical = false) : lexicalNames n = [] := by
  rw [lexicalNames, h]
  rfl

theorem lexicalNames_of_form {n : Node} (h : ∀ kind, n.form ≠ .declare kind) : lexicalNames n = [] := by
  refine lexicalNames_of_not ?_
  unfold Form.isLexical
  split
  next hkind => exact absurd hkind (h _)
  next hkind => exact absurd hkind (h _)
  next => rfl

/-- Declarations of one kind with the same variables. -/
theorem lexicalNames_congr {n m : Node} (hform : m.form = n.form)
    (hnames : declaredNames m = declaredNames n) : lexicalNames m = lexicalNames n := by
  rw [lexicalNames, lexicalNames, hform, hnames]

theorem bindingNames_of_isEnum {n : Node} (h : isEnum n = true) : bindingNames n = boundNames (n.part 0) :=
  if_pos h

theorem bindingNames_of_not {n : Node} (h : isEnum n = false) : bindingNames n = lexicalNames n := by
  rw [bindingNames, h]
  rfl

theorem lexicalNames_sublist (n : Node) : (lexicalNames n).Sublist (bindingNames n) := by
  cases henum : isEnum n with
  | false => rw [bindingNames_of_not henum]
  | true =>
      rw [lexicalNames_of_form (ne_declare_of_isEnum henum)]
      exact List.nil_sublist _

theorem lexicalNames_bareVariables (ws : List String) : lexicalNames (bareVariables ws) = [] := rfl

theorem isBound_bareVariables (ws : List String) : IsBound (bareVariables ws) := by
  intro kind _
  change (ws.map fun w => Node.made .declarator [.named w, .absent]).all isBinding = true
  rw [List.all_map, List.all_eq_true]
  exact fun w _ => rfl

/-! ### Imports -/

theorem lexicalNames_constantOf (span : Span) (name value : Node) :
    lexicalNames (constantOf span name value) = boundNames name := List.append_nil _

/-- A binding that is imported becomes a constant of its name, or nothing if it is a type. -/
theorem lowerBinding_names (span : Span) (source b : Node) :
    (∀ m ∈ lowerBinding span source b, isEnum m = false) ∧
      (lowerBinding span source b).toList.flatMap lexicalNames = importedNames b := by
  have hconstant : ∀ name value, (some (constantOf span name value)).toList.flatMap lexicalNames =
      boundNames name := fun name value => by
    rw [Option.toList_some, List.flatMap_singleton, lexicalNames_constantOf]
  by_cases hdefault : b.form = .importDefault
  · rw [lowerBinding, importedNames, hdefault]
    exact ⟨fun _ hm => by cases hm; rfl, hconstant _ _⟩
  by_cases hnamespace : b.form = .importNamespace
  · rw [lowerBinding, importedNames, hnamespace]
    exact ⟨fun _ hm => by cases hm; rfl, hconstant _ _⟩
  by_cases hnamed : b.form = .importNamed false
  · rw [lowerBinding, importedNames, hnamed]
    exact ⟨fun _ hm => by cases hm; rfl, hconstant _ _⟩
  have hlowered : lowerBinding span source b = none := by
    unfold lowerBinding
    split
    next hform => exact absurd hform hdefault
    next hform => exact absurd hform hnamespace
    next hform => exact absurd hform hnamed
    next => rfl
  have himported : importedNames b = [] := by
    unfold importedNames
    split
    next hform => exact absurd hform hdefault
    next hform => exact absurd hform hnamespace
    next hform => exact absurd hform hnamed
    next => rfl
  rw [hlowered, himported]
  exact ⟨by simp, rfl⟩

theorem filterMap_lowerBinding_names (span : Span) (source : Node) (bs : List Node) :
    (∀ m ∈ bs.filterMap (lowerBinding span source), isEnum m = false) ∧
      (bs.filterMap (lowerBinding span source)).flatMap lexicalNames = bs.flatMap importedNames := by
  refine ⟨?_, ?_⟩
  · intro m hm
    obtain ⟨b, -, hb⟩ := List.mem_filterMap.1 hm
    exact (lowerBinding_names span source b).1 m hb
  · rw [List.filterMap_eq_flatMap_toList, List.flatMap_assoc]
    exact List.flatMap_congr fun b _ => (lowerBinding_names span source b).2

theorem flatMap_bindingNames_of_not {ss : List Node} (h : ∀ n ∈ ss, isEnum n = false) :
    ss.flatMap bindingNames = ss.flatMap lexicalNames :=
  List.flatMap_congr fun n hn => bindingNames_of_not (h n hn)

/-- **An import binds its names as constants**, and every other item is left as it is. -/
theorem lowerImport_names (n : Node) :
    (lowerImport n).flatMap lexicalNames = itemNames n ∧
      (lowerImport n).flatMap bindingNames = itemBindings n := by
  obtain ⟨form, span, parts⟩ := n
  by_cases himport : ∃ v raw own typeOnly, form = .import v raw own typeOnly
  · obtain ⟨v, raw, own, typeOnly, rfl⟩ := himport
    have hbindings : itemBindings (.mk (.import v raw own typeOnly) span parts) =
        itemNames (.mk (.import v raw own typeOnly) span parts) := rfl
    rw [hbindings]
    cases typeOnly with
    | true => exact ⟨rfl, rfl⟩
    | false =>
        cases parts with
        | nil => exact ⟨rfl, rfl⟩
        | cons b bs =>
            obtain ⟨henum, hnames⟩ := filterMap_lowerBinding_names span (.mk (.string v raw) own []) (b :: bs)
            exact ⟨hnames, (flatMap_bindingNames_of_not henum).trans hnames⟩
  · have hself : lowerImport (.mk form span parts) = [.mk form span parts] := by
      rw [lowerImport]
      split
      next hform => exact absurd ⟨_, _, _, _, hform⟩ himport
      next hform => exact absurd ⟨_, _, _, _, hform⟩ himport
      next => rfl
    have hnames : itemNames (.mk form span parts) = lexicalNames (.mk form span parts) := by
      rw [itemNames]
      split
      next hform => exact absurd ⟨_, _, _, _, hform⟩ himport
      next => rfl
    rw [hself, List.flatMap_singleton, List.flatMap_singleton, itemBindings, hnames]
    exact ⟨rfl, rfl⟩

/-! ### Lists that lose their types -/

/-- What becomes of a list of statements, as far as its constants and variables go: none is lost, however
often it is declared, and none is added but that an enumeration becomes a variable. -/
structure SameLexicals (ss out : List Node) : Prop where
  bound : ∀ m ∈ out, IsBound m
  kept : (ss.flatMap lexicalNames).Sublist (out.flatMap lexicalNames)
  known : (out.flatMap lexicalNames).Sublist (ss.flatMap bindingNames)

variable {names : Names}

/-- What is left of a statement declares the same constants and variables; what is left of an enumeration
may declare its name. -/
theorem Kindred.lexical {n k m : Node} (h : Kindred n k) (hm : Folded k m) :
    lexicalNames m = lexicalNames n ∨ isEnum n = true ∧ lexicalNames m = boundNames (n.part 0) := by
  rcases h.folded hm with hsame | ⟨hn, hm⟩ | ⟨henum, hform, -, hnames⟩
  · exact .inl (lexicalNames_congr hsame.form hsame.names)
  · exact .inl ((lexicalNames_of_form hm).trans (lexicalNames_of_form hn).symm)
  · exact .inr ⟨henum, (lexicalNames_of_isLexical (by rw [hform]; rfl)).trans hnames⟩

theorem ErasedStatement.lexical {n : Node} {out : List Node} (h : ErasedStatement names n out)
    (hn : bindsPatterns n = true) :
    out.flatMap lexicalNames = lexicalNames n ∨
      isEnum n = true ∧ out.flatMap lexicalNames = boundNames (n.part 0) := by
  cases h with
  | dropped hkept =>
      refine .inl (lexicalNames_of_form fun kind hkind => ?_).symm
      rw [isKept, form_rebuild_stripStep, hkind] at hkept
      cases hkept
  | kept hk hm =>
      rw [List.flatMap_singleton]
      exact (hk.kindred hn).lexical hm
  | @folded _ m hk hm habsent =>
      have hnone : lexicalNames m = [] := lexicalNames_of_form fun kind hkind => by
        rw [Node.isAbsent, hkind] at habsent
        cases habsent
      rw [List.flatMap_nil, ← hnone]
      exact (hk.kindred hn).lexical hm

theorem ErasedStatement.sameLexicals {n : Node} {out : List Node} (h : ErasedStatement names n out)
    (hn : bindsPatterns n = true) : SameLexicals [n] out := by
  refine ⟨(h.declared hn).1, ?_, ?_⟩
  · rw [List.flatMap_singleton]
    rcases h.lexical hn with hsame | ⟨henum, -⟩
    · rw [hsame]
    · rw [lexicalNames_of_form (ne_declare_of_isEnum henum)]
      exact List.nil_sublist _
  · rw [List.flatMap_singleton]
    rcases h.lexical hn with hsame | ⟨henum, hnames⟩
    · rw [hsame]
      exact lexicalNames_sublist n
    · rw [hnames, bindingNames_of_isEnum henum]

theorem SameLexicals.append {ss out rest more : List Node} (h : SameLexicals ss out)
    (h' : SameLexicals rest more) : SameLexicals (ss ++ rest) (out ++ more) := by
  refine ⟨fun m hm => (List.mem_append.1 hm).elim (h.bound m) (h'.bound m), ?_, ?_⟩
  · rw [List.flatMap_append, List.flatMap_append]
    exact h.kept.append h'.kept
  · rw [List.flatMap_append, List.flatMap_append]
    exact h.known.append h'.known

/-- **The statements of a list that loses its types declare the same constants and variables.** -/
theorem ErasedList.sameLexicals {ss out : List Node} (h : ErasedList names ss out)
    (hss : ∀ n ∈ ss, bindsPatterns n = true) : SameLexicals ss out := by
  induction h with
  | nil => exact ⟨List.forall_mem_nil _, List.Sublist.refl _, List.Sublist.refl _⟩
  | cons hn _ ih =>
      rw [List.forall_mem_cons] at hss
      exact (hn.sameLexicals hss.1).append (ih hss.2)

theorem sameLexicals_bare {more : List Node} (h : ∀ m ∈ more, ∃ ws, m = bareVariables ws) :
    SameLexicals [] more := by
  have hnone : more.flatMap lexicalNames = [] := by
    rw [List.flatMap_eq_nil_iff]
    intro m hm
    obtain ⟨ws, rfl⟩ := h m hm
    exact lexicalNames_bareVariables ws
  refine ⟨fun m hm => ?_, List.nil_sublist _, by rw [hnone]; exact List.nil_sublist _⟩
  obtain ⟨ws, rfl⟩ := h m hm
  exact isBound_bareVariables ws

/-- Statements that are no declarations may be added. -/
theorem sameLexicals_of_form {more : List Node} (h : ∀ m ∈ more, ∀ kind, m.form ≠ .declare kind) :
    SameLexicals [] more := by
  have hnone : more.flatMap lexicalNames = [] :=
    List.flatMap_eq_nil_iff.2 fun m hm => lexicalNames_of_form (h m hm)
  exact ⟨fun m hm => isBound_of_ne (h m hm), List.nil_sublist _, by rw [hnone]; exact List.nil_sublist _⟩

/-- Nothing changes where the constants and variables stay the same. -/
theorem SameLexicals.of_eq {ss out last : List Node} (h : SameLexicals ss out)
    (hbound : ∀ m ∈ last, IsBound m)
    (hnames : last.flatMap lexicalNames = out.flatMap lexicalNames) : SameLexicals ss last :=
  ⟨hbound, by rw [hnames]; exact h.kept, by rw [hnames]; exact h.known⟩

/-! ### Passes after types are gone -/

/-- A pass that keeps forms and declarations keeps the constants and variables of a statement. -/
theorem IsBound.lexicalNames_rebuild {step : Node → Node} (hs : IsStill step)
    (hform : ∀ n, (step n).form = n.form) {n : Node} (hn : IsBound n) :
    lexicalNames (n.rebuild step) = lexicalNames n :=
  lexicalNames_congr (form_rebuild hform n) (hn.rebuild hs hform).2

theorem map_rebuild_lexical {step : Node → Node} (hs : IsStill step)
    (hform : ∀ n, (step n).form = n.form) {ss : List Node} (hss : ∀ n ∈ ss, IsBound n) :
    (ss.map (Node.rebuild step)).flatMap lexicalNames = ss.flatMap lexicalNames := by
  rw [List.flatMap_map]
  exact List.flatMap_congr fun n hn => (hss n hn).lexicalNames_rebuild hs hform

/-- A list of statements with capturing calls declares the constants and variables that it declared. -/
theorem captureInList_lexical {ss : List Node} (hss : ∀ n ∈ ss, IsBound n) (own : List Node) :
    (captureInList own ss).flatMap lexicalNames = ss.flatMap lexicalNames := by
  induction ss generalizing own with
  | nil => rfl
  | cons n ns ih =>
      rw [List.forall_mem_cons] at hss
      have hsame : lexicalNames (captureInStatement own n) = lexicalNames n :=
        lexicalNames_congr (form_captureInStatement own n) (hss.1.captureInStatement own).2
      rw [captureInList, List.flatMap_cons, List.flatMap_cons, hsame, ih hss.2]

end Script

end NotebookEngine
