/-
**Names that the passes of the compiler leave bound.**

A declaration binds a name or a pattern of names.  The passes that take types away go through patterns as
they go through all trees, from the leaves up or from the root down, and what they replace on their way is
never a name that is bound: a name becomes a member of a namespace only where a value or a target of an
assignment stands, and the values of enumerations take the place of expressions alone.  So every pass
leaves the names of a declaration as they are.

What a pass does to the trees it goes through is stated once: a tree of certain forms keeps its form, and
its parts are what becomes of its parts.

Main definitions:

* `Script.isPattern`, `Script.bindsPatterns` — what a declaration can bind, and statements that bind it;
* `Script.Keeps` — a pass that keeps trees of certain forms;
* `Script.SameVariables`, `Script.SameEnum` — declarations of the same variables or enumeration;
* `Script.Qualified`, `Script.Lowered` — what becomes of a tree where names become members, and where
  enumerations and namespaces are replaced.

Main results:

* `Script.Keeps.boundNames_eq`, `Script.Keeps.sameVariables` — such a pass keeps the names that are bound;
* `Script.keeps_rebuild`, `Script.keeps_qualified`, `Script.keeps_lowered` — the passes are such;
* `Script.Qualified.sameVariables` — **a declaration declares the same variables after names have become
  members**.
-/

import Mathlib.Data.List.Forall2
import NotebookEngine.Program.Locals
import NotebookEngine.Script.Erasure

set_option autoImplicit false

namespace NotebookEngine

theorem forall₂_comp {α β γ : Type} {R : α → β → Prop} {S : β → γ → Prop} {as : List α} {bs : List β}
    {cs : List γ} (h : List.Forall₂ R as bs) (h' : List.Forall₂ S bs cs) :
    List.Forall₂ (fun a c => ∃ b, R a b ∧ S b c) as cs := by
  induction h generalizing cs with
  | nil =>
      cases h'
      exact .nil
  | cons hab _ ih =>
      obtain _ | ⟨hbc, hrest⟩ := h'
      exact .cons ⟨_, hab, hbc⟩ (ih hrest)

namespace Script

/-! ### Patterns -/

mutual

/-- Whether a tree is what a declaration can bind: a name, or a pattern of such. -/
def isPattern : Node → Bool
  | .mk (.name _) _ _ => true
  | .mk .absent _ _ => true
  | .mk .arrayPattern _ parts => arePatterns parts
  | .mk .objectPattern _ parts => arePatterns parts
  | .mk (.patternProperty _) _ [_, p] => isPattern p
  | .mk .shorthandPattern _ (p :: _) => isPattern p
  | .mk .rest _ [p] => isPattern p
  | .mk .defaulted _ (p :: _) => isPattern p
  | _ => false

/-- Whether all trees are what a declaration can bind. -/
def arePatterns : List Node → Bool
  | [] => true
  | p :: ps => isPattern p && arePatterns ps

end

/-- Whether a form is one of those of patterns. -/
def Form.isPattern : Form → Bool
  | .name _ | .absent | .arrayPattern | .objectPattern | .patternProperty _ | .shorthandPattern | .rest
  | .defaulted => true
  | _ => false

/-- Whether what becomes of trees of certain forms has these forms again, and in them what becomes of
their parts. -/
def Keeps (forms : Form → Bool) (becomes : Node → Node → Prop) : Prop :=
  ∀ ⦃form : Form⦄ ⦃span : Span⦄ ⦃parts : List Node⦄ ⦃m : Node⦄, forms form = true →
    becomes (.mk form span parts) m →
      ∃ parts', m = .mk form span parts' ∧ List.Forall₂ becomes parts parts'

namespace Keeps

variable {becomes : Node → Node → Prop}

theorem boundNames_both (hk : Keeps Form.isPattern becomes) :
    (∀ p, isPattern p = true → ∀ q, becomes p q → isPattern q = true ∧ boundNames q = boundNames p) ∧
    ∀ ps, arePatterns ps = true → ∀ qs, List.Forall₂ becomes ps qs →
      arePatterns qs = true ∧ boundNamesIn qs = boundNamesIn ps := by
  -- By induction on what makes a tree a pattern.
  refine isPattern.mutual_induct _ _ ?name ?absent ?array ?object ?property ?shorthand ?rest ?defaulted
    ?other ?nil ?cons
  case name =>
    intro w span parts _ q hq
    obtain ⟨parts', rfl, -⟩ := hk rfl hq
    exact ⟨rfl, by simp [boundNames]⟩
  case absent =>
    intro span parts _ q hq
    obtain ⟨parts', rfl, -⟩ := hk rfl hq
    exact ⟨rfl, by simp [boundNames]⟩
  case array =>
    intro span parts ih hp q hq
    obtain ⟨parts', rfl, hparts⟩ := hk rfl hq
    simpa [isPattern, boundNames] using ih hp parts' hparts
  case object =>
    intro span parts ih hp q hq
    obtain ⟨parts', rfl, hparts⟩ := hk rfl hq
    simpa [isPattern, boundNames] using ih hp parts' hparts
  case property =>
    intro computed span key p ih hp q hq
    obtain ⟨_, rfl, hparts⟩ := hk rfl hq
    obtain _ | ⟨-, _ | ⟨hpart, _ | _⟩⟩ := hparts
    simpa [isPattern, boundNames] using ih hp _ hpart
  case shorthand =>
    intro span p rest ih hp q hq
    obtain ⟨_, rfl, hparts⟩ := hk rfl hq
    obtain _ | ⟨hpart, -⟩ := hparts
    simpa [isPattern, boundNames] using ih hp _ hpart
  case rest =>
    intro span p ih hp q hq
    obtain ⟨_, rfl, hparts⟩ := hk rfl hq
    obtain _ | ⟨hpart, _ | _⟩ := hparts
    simpa [isPattern, boundNames] using ih hp _ hpart
  case defaulted =>
    intro span p rest ih hp q hq
    obtain ⟨_, rfl, hparts⟩ := hk rfl hq
    obtain _ | ⟨hpart, -⟩ := hparts
    simpa [isPattern, boundNames] using ih hp _ hpart
  case other =>
    intro t hname habsent harray hobject hproperty hshorthand hrest hdefaulted hp
    rw [isPattern] at hp
    · cases hp
    all_goals assumption
  case nil =>
    intro _ qs hqs
    cases hqs
    exact ⟨rfl, rfl⟩
  case cons =>
    intro p ps ihp ihps hps qs hqs
    obtain _ | ⟨hq, hqs⟩ := hqs
    rw [arePatterns, Bool.and_eq_true] at hps
    obtain ⟨hpattern, hnames⟩ := ihp hps.1 _ hq
    obtain ⟨hpatterns, hnamesIn⟩ := ihps hps.2 _ hqs
    exact ⟨by rw [arePatterns, hpattern, hpatterns]; rfl,
      by rw [boundNamesIn, boundNamesIn, hnames, hnamesIn]⟩

/-- What becomes of a pattern is a pattern that binds the same names. -/
theorem boundNames_eq (hk : Keeps Form.isPattern becomes) {p q : Node} (hp : Script.isPattern p = true)
    (hq : becomes p q) : Script.isPattern q = true ∧ boundNames q = boundNames p :=
  (boundNames_both hk).1 p hp q hq

end Keeps

/-! ### Declarations -/

/-- Whether a tree binds a pattern to a value. -/
def isBinding (d : Node) : Bool := d.form = .declarator && isPattern (d.part 0)

/-- Whether a statement, if it declares variables or an enumeration, binds patterns.  Only an expression
can be said to have a value. -/
def bindsPatterns (n : Node) : Bool :=
  match n.form with
  | .declare _ => n.parts.all isBinding
  | .enumDecl _ _ => isPattern (n.part 0)
  | .asserted => false
  | _ => true

/-- Two declarations of the same variables. -/
structure SameVariables (n m : Node) : Prop where
  form : m.form = n.form
  patterns : bindsPatterns m = true
  names : declaredNames m = declaredNames n

theorem SameVariables.trans {n m k : Node} (h : SameVariables n m) (h' : SameVariables m k) :
    SameVariables n k :=
  ⟨h'.form.trans h.form, h'.patterns, h'.names.trans h.names⟩

/-- Bindings each of which is replaced by one of the same names. -/
theorem sameVariables_of_forall₂ {kind : Declaration} {span : Span} {ds ds' : List Node}
    (h : List.Forall₂ (fun d d' => isBinding d' = true ∧ boundNames (d'.part 0) = boundNames (d.part 0))
      ds ds') : SameVariables (.mk (.declare kind) span ds) (.mk (.declare kind) span ds') := by
  have hboth : ds'.all isBinding = true ∧
      ds'.flatMap (fun d => boundNames (d.part 0)) = ds.flatMap fun d => boundNames (d.part 0) := by
    induction h with
    | nil => exact ⟨rfl, rfl⟩
    | cons hd _ ih =>
        rw [List.all_cons, List.flatMap_cons, List.flatMap_cons, hd.1, hd.2, ih.1, ih.2]
        exact ⟨rfl, rfl⟩
  exact ⟨rfl, hboth.1, hboth.2⟩

/-- What becomes of the first part of a binding decides what it binds. -/
theorem isBinding_of_head {becomes : Node → Node → Prop} (hk : Keeps Form.isPattern becomes)
    {span : Span} {parts parts' : List Node} (hd : isBinding (.mk .declarator span parts) = true)
    (hlength : parts'.length = parts.length)
    (hhead : ∀ p ∈ parts.head?, ∀ q ∈ parts'.head?, becomes p q) :
    isBinding (.mk .declarator span parts') = true ∧
      boundNames ((Node.mk .declarator span parts').part 0) =
        boundNames ((Node.mk .declarator span parts).part 0) := by
  cases parts with
  | nil =>
      rw [List.length_nil, List.length_eq_zero_iff] at hlength
      rw [hlength]
      exact ⟨rfl, rfl⟩
  | cons p ps =>
      cases parts' with
      | nil => cases hlength
      | cons q qs =>
          obtain ⟨hpattern, hnames⟩ :=
            hk.boundNames_eq (Bool.and_eq_true_iff.1 hd).2 (hhead p rfl q rfl)
          exact ⟨Bool.and_eq_true_iff.2 ⟨rfl, hpattern⟩, hnames⟩

/-- A pass that treats all parts of declarations alike keeps their variables. -/
theorem Keeps.sameVariables {becomes : Node → Node → Prop} {forms : Form → Bool}
    (hk : Keeps forms becomes) (hpatterns : ∀ f : Form, f.isPattern = true → forms f = true)
    (hbinding : forms .declarator = true) {kind : Declaration} (hdeclare : forms (.declare kind) = true)
    {n m : Node} (hform : n.form = .declare kind) (hn : bindsPatterns n = true) (hm : becomes n m) :
    SameVariables n m := by
  obtain ⟨form, span, ds⟩ := n
  cases hform
  obtain ⟨ds', rfl, hds⟩ := hk hdeclare hm
  have hkeeps : Keeps Form.isPattern becomes := fun _ _ _ _ h => hk (hpatterns _ h)
  have hall : ∀ d ∈ ds, isBinding d = true := List.all_eq_true.1 hn
  refine sameVariables_of_forall₂ ?_
  clear hn hm
  induction hds with
  | nil => exact .nil
  | @cons d d' ds ds' hd _ ih =>
      rw [List.forall_mem_cons] at hall
      refine .cons ?_ (ih hall.2)
      obtain ⟨form, span, parts⟩ := d
      cases of_decide_eq_true (Bool.and_eq_true_iff.1 hall.1).1
      obtain ⟨parts', rfl, hparts⟩ := hk hbinding hd
      refine isBinding_of_head hkeeps hall.1 hparts.length_eq.symm ?_
      cases hparts with
      | nil => exact nofun
      | cons hp _ =>
          intro p hp' q hq'
          cases hp'
          cases hq'
          exact hp

/-- Two enumerations of the same name. -/
structure SameEnum (n m : Node) : Prop where
  form : m.form = n.form
  pattern : isPattern (m.part 0) = true
  names : boundNames (m.part 0) = boundNames (n.part 0)

theorem SameEnum.trans {n m k : Node} (h : SameEnum n m) (h' : SameEnum m k) : SameEnum n k :=
  ⟨h'.form.trans h.form, h'.pattern, h'.names.trans h.names⟩

/-- A pass that treats all parts of an enumeration alike keeps its name. -/
theorem Keeps.sameEnum {becomes : Node → Node → Prop} {forms : Form → Bool} (hk : Keeps forms becomes)
    (hpatterns : ∀ f : Form, f.isPattern = true → forms f = true) {isConst declared : Bool}
    (henum : forms (.enumDecl isConst declared) = true) {n m : Node}
    (hform : n.form = .enumDecl isConst declared) (hn : isPattern (n.part 0) = true) (hm : becomes n m) :
    SameEnum n m := by
  obtain ⟨form, span, parts⟩ := n
  cases hform
  obtain ⟨parts', rfl, hparts⟩ := hk henum hm
  have hkeeps : Keeps Form.isPattern becomes := fun _ _ _ _ h => hk (hpatterns _ h)
  cases hparts with
  | nil => exact ⟨rfl, rfl, rfl⟩
  | cons hp _ =>
      obtain ⟨hpattern, hnames⟩ := hkeeps.boundNames_eq hn hp
      exact ⟨rfl, hpattern, hnames⟩

/-! ### Passes from the leaves up -/

/-- Whether a form is left alone by the steps that treat lists of statements and what is awaited. -/
def Form.isPlain : Form → Bool
  | .name _ | .absent | .arrayPattern | .objectPattern | .patternProperty _ | .shorthandPattern | .rest
  | .defaulted | .expression | .paren | .declare _ | .declarator | .call _ | .arrow _ | .function _
  | .object | .property _ | .shorthand | .enumDecl _ _ => true
  | _ => false

/-- Whether a form is a plain one all parts of which are treated as trees of their own. -/
def Form.isCarrier : Form → Bool
  | .expression | .paren | .declare _ | .declarator | .call _ | .arrow _ | .function _ | .object => true
  | _ => false

theorem Form.isPlain_of_isCarrier {f : Form} (h : f.isCarrier = true) : f.isPlain = true := by
  cases f <;> first | rfl | cases h

theorem Form.isPlain_of_isPattern {f : Form} (h : f.isPattern = true) : f.isPlain = true := by
  cases f <;> first | rfl | cases h

/-- Whether a step leaves nodes of plain forms alone. -/
def IsStill (step : Node → Node) : Prop :=
  ∀ (form : Form) (span : Span) (parts : List Node), form.isPlain = true →
    step (.mk form span parts) = .mk form span parts

theorem isStill_stripStep : IsStill stripStep := by
  intro form span parts h
  cases form <;> first | rfl | cases h

theorem isStill_captureStep : IsStill captureStep := by
  intro form span parts h
  cases form <;> first | rfl | cases h

theorem isStill_trackStep : IsStill trackStep := by
  intro form span parts h
  cases form <;> first | rfl | cases h

/-- A pass whose steps keep forms keeps forms. -/
theorem form_rebuild {step : Node → Node} (hs : ∀ n, (step n).form = n.form) (n : Node) :
    (n.rebuild step).form = n.form := by
  obtain ⟨form, span, parts⟩ := n
  rw [Node.rebuild, hs]
  rfl

theorem rebuild_of_isPlain {step : Node → Node} (hs : IsStill step) {form : Form} (span : Span)
    (parts : List Node) (h : form.isPlain = true) :
    (Node.mk form span parts).rebuild step = .mk form span (parts.map (Node.rebuild step)) := by
  rw [Node.rebuild, Node.rebuildAll_eq_map, hs form span _ h]

theorem keeps_rebuild {step : Node → Node} (hs : IsStill step) :
    Keeps Form.isPlain fun n m => m = n.rebuild step := by
  intro form span parts m hform hm
  refine ⟨parts.map (Node.rebuild step), hm.trans (rebuild_of_isPlain hs span parts hform), ?_⟩
  exact List.forall₂_map_right_iff.2 (List.forall₂_same.2 fun _ _ => rfl)

/-! ### Names that become members -/

section Qualify

variable {names : Names} {s : Standing}

/-- Whether a form is treated part by part where names become members. -/
def Form.isUsual : Form → Bool
  | .shorthand | .shorthandPattern | .asserted | .member _ _ _ | .index _ => false
  | _ => true

theorem memberConstant?_of_isUsual (t : EnumTable) {form : Form} (span : Span) (parts : List Node)
    (h : form.isUsual = true) : memberConstant? t (.mk form span parts) = none := by
  rw [memberConstant?]
  split
  next hform _ => cases hform; cases h
  next hform _ => cases hform; cases h
  next => rfl

theorem qualify_of_isUsual (names : Names) (s : Standing) {form : Form} (span : Span)
    (parts : List Node) (h : form.isUsual = true) :
    qualify names s (.mk form span parts) =
      if s.role = .fixed then .mk form span parts
      else qualifyStep names s (.mk form span (qualifyParts names (s.part form) 0 parts)) := by
  unfold qualify
  split
  next hn => cases hn; cases h
  next hn =>
    cases hn
    split
    · rfl
    · rw [memberConstant?_of_isUsual _ _ _ h, ite_self]
      dsimp only
      split
      next => cases h
      next => cases h
      next => rfl

/-- What stands for itself is left as it is. -/
theorem qualify_of_fixed (hrole : s.role = .fixed) {n : Node} (hn : n.form ≠ .shorthand) :
    qualify names s n = n := by
  unfold qualify
  split
  next => exact absurd rfl hn
  next => exact if_pos hrole

/-- Within the target of a declaration no name stands for a member. -/
theorem owned?_of_declared (hs : s.declared = true) (name : Node) : owned? names s name = none := by
  rw [owned?, hs]
  rfl

theorem qualifyStep_of_declared (hs : s.declared = true) (n : Node) : qualifyStep names s n = n := by
  have hnone : ∀ (role : Role) (name : Node), owned? names { s with role } name = none :=
    fun role name => owned?_of_declared (s := { s with role }) hs name
  rw [qualifyStep]
  split
  next => rw [owned?_of_declared hs]; rfl
  next => rw [hnone]
  next => rw [hnone]
  next => rfl

theorem qualify_of_fixed_declared (hs : s.declared = true) (hrole : s.role = .fixed) (n : Node) :
    qualify names s n = n := by
  by_cases hn : n.form = .shorthand
  · obtain ⟨form, span, parts⟩ := n
    cases hn
    rw [qualify, qualifyStep_of_declared hs]
  · exact qualify_of_fixed hrole hn

theorem forall₂_qualifyParts {becomes : Node → Node → Prop} {standing : Nat → Standing}
    (h : ∀ (i : Nat) (n : Node), becomes n (qualify names (standing i) n)) (i : Nat)
    (parts : List Node) :
    List.Forall₂ becomes parts (qualifyParts names standing i parts) := by
  induction parts generalizing i with
  | nil => exact .nil
  | cons n ns ih => exact .cons (h i n) (ih (i + 1))

/-- **A declaration binds the names that it has bound.** -/
theorem keeps_qualify (names : Names) :
    Keeps Form.isPattern fun n m => ∃ s : Standing, s.declared = true ∧ m = qualify names s n := by
  rintro form span parts m hform ⟨s, hs, rfl⟩
  have hself : ∀ n : Node, ∃ s : Standing, s.declared = true ∧ n = qualify names s n := fun n =>
    ⟨{ s with role := .fixed }, hs,
      (qualify_of_fixed_declared (s := { s with role := .fixed }) hs rfl n).symm⟩
  by_cases hrole : s.role = .fixed
  · exact ⟨parts, qualify_of_fixed_declared hs hrole _, List.forall₂_same.2 fun n _ => hself n⟩
  have hparts : ∀ (i : Nat) (ns : List Node), List.Forall₂ (fun n m => ∃ s : Standing,
      s.declared = true ∧ m = qualify names s n) ns (qualifyParts names (s.part form) i ns) :=
    forall₂_qualifyParts fun i n => ⟨s.part form i, by simp [Standing.part, hs], rfl⟩
  by_cases hshorthand : form = .shorthandPattern
  · -- The name of a short property is left, and what it has by default is treated as a part.
    subst hshorthand
    have hnone : memberConstant? names.enums (.mk .shorthandPattern span parts) = none := rfl
    cases parts with
    | nil => exact ⟨[], by simp [qualify, hrole, hnone, qualifyStep_of_declared hs, qualifyParts], .nil⟩
    | cons name rest =>
        exact ⟨name :: qualifyParts names (s.part .shorthandPattern) 1 rest,
          by simp [qualify, hrole, hnone, qualifyStep_of_declared hs], .cons (hself name) (hparts 1 rest)⟩
  · have husual : form.isUsual = true := by
      cases form <;> first | rfl | exact absurd rfl hshorthand | cases hform
    refine ⟨_, ?_, hparts 0 parts⟩
    rw [qualify_of_isUsual names s span parts husual, if_neg hrole, qualifyStep_of_declared hs]

/-- Whether a form is a carrier or that of a list of statements. -/
def Form.isOpen : Form → Bool
  | .block | .program _ => true
  | f => f.isCarrier

/-- What stands where no name is replaced is left as it is, or is treated part by part. -/
theorem qualify_of_isOpen (names : Names) (s : Standing) {form : Form} (span : Span) (parts : List Node)
    (h : form.isOpen = true) :
    qualify names s (.mk form span parts) = .mk form span
      (if s.role = .fixed then parts else qualifyParts names (s.part form) 0 parts) := by
  have husual : form.isUsual = true := by cases form <;> first | rfl | cases h
  have hstep : ∀ parts, qualifyStep names s (.mk form span parts) = .mk form span parts := by
    intro parts
    cases form <;> first | rfl | cases h
  rw [qualify_of_isUsual names s span parts husual, hstep]
  split <;> rfl

/-- What becomes of a tree that is in no exported declaration of a namespace, or is left as it is. -/
def Qualified (names : Names) (n m : Node) : Prop :=
  m = n ∨ ∃ s : Standing, s.exported = false ∧ m = qualify names s n

theorem Form.isOpen_of_isCarrier {f : Form} (h : f.isCarrier = true) : f.isOpen = true := by
  cases f <;> first | rfl | cases h

theorem keeps_qualified (names : Names) : Keeps Form.isOpen (Qualified names) := by
  rintro form span parts m hform (rfl | ⟨s, hs, rfl⟩)
  · exact ⟨parts, rfl, List.forall₂_same.2 fun _ _ => .inl rfl⟩
  · refine ⟨_, qualify_of_isOpen names s span parts hform, ?_⟩
    have hexported : ∀ i, (s.part form i).exported = false := by
      intro i
      cases form <;> first | exact hs | rfl | cases hform
    split
    · exact List.forall₂_same.2 fun _ _ => .inl rfl
    · exact forall₂_qualifyParts (fun i n => .inr ⟨s.part form i, hexported i, rfl⟩) 0 parts

theorem length_qualifyParts (names : Names) (standing : Nat → Standing) (i : Nat) (parts : List Node) :
    (qualifyParts names standing i parts).length = parts.length := by
  induction parts generalizing i with
  | nil => rfl
  | cons n ns ih => rw [qualifyParts, List.length_cons, List.length_cons, ih]

/-- A binding that stands in a declaration that is not exported binds the names that it has bound. -/
theorem isBinding_qualify (names : Names) {s : Standing} (hs : s.exported = false) {d : Node}
    (hd : isBinding d = true) :
    isBinding (qualify names s d) = true ∧
      boundNames ((qualify names s d).part 0) = boundNames (d.part 0) := by
  obtain ⟨form, span, parts⟩ := d
  cases of_decide_eq_true (Bool.and_eq_true_iff.1 hd).1
  rw [qualify_of_isOpen names s span parts rfl]
  split
  · exact ⟨hd, rfl⟩
  · refine isBinding_of_head (keeps_qualify names) hd (length_qualifyParts _ _ _ _) ?_
    cases parts with
    | nil => exact nofun
    | cons p ps =>
        intro p' hp' q hq
        cases hp'
        cases hq
        exact ⟨s.part .declarator 0, by simp [Standing.part, hs], rfl⟩

/-- A declaration that is not exported keeps its variables. -/
theorem Qualified.sameVariables {n m : Node} (h : Qualified names n m) {kind : Declaration}
    (hform : n.form = .declare kind) (hn : bindsPatterns n = true) : SameVariables n m := by
  obtain ⟨form, span, ds⟩ := n
  cases hform
  obtain ⟨ds', rfl, hds⟩ := keeps_qualified names rfl h
  have hall : ∀ d ∈ ds, isBinding d = true := List.all_eq_true.1 hn
  refine sameVariables_of_forall₂ ?_
  clear hn h
  induction hds with
  | nil => exact .nil
  | cons hd _ ih =>
      rw [List.forall_mem_cons] at hall
      refine .cons ?_ (ih hall.2)
      rcases hd with rfl | ⟨s, hs, rfl⟩
      · exact ⟨hall.1, rfl⟩
      · exact isBinding_qualify names hs hall.1

end Qualify

/-! ### Declarations that are replaced -/

section Lower

/-- What becomes of a tree where enumerations and namespaces are replaced. -/
def Lowered (n m : Node) : Prop :=
  ∃ (table : EnumTable) (around : Option String) (p : Pending), m = ((lower table around n).run p).1

variable (table : EnumTable) (around : Option String) (p : Pending)

theorem run_lowerParts_cons (n : Node) (ns : List Node) :
    (lowerParts table around (n :: ns)).run p =
      let (m, p) := (lower table around n).run p
      let (ms, p) := (lowerParts table around ns).run p
      (m :: ms, p) := by
  rw [lowerParts]
  rfl

theorem forall₂_lowerParts (ns : List Node) :
    List.Forall₂ Lowered ns ((lowerParts table around ns).run p).1 := by
  induction ns generalizing p with
  | nil => rw [lowerParts]; exact .nil
  | cons n ns ih =>
      rw [run_lowerParts_cons]
      exact .cons ⟨table, around, p, rfl⟩ (ih _)

/-- A node of a plain form keeps its form. -/
theorem run_lower_of_isPlain {form : Form} (span : Span) (parts : List Node) (h : form.isPlain = true) :
    (lower table around (.mk form span parts)).run p =
      let (parts, p) := (lowerParts table around parts).run p
      (.mk form span parts, p) := by
  have hnone : form.statementsFrom? = none := by cases form <;> first | rfl | cases h
  have hfold : ∀ parts, foldClass (.mk form span parts) = pure (.mk form span parts) := by
    intro parts
    cases form <;> first | rfl | cases h
  rw [lower]
  split
  next =>
    simp only [hfold]
    rfl
  next he => rw [hnone] at he; cases he

theorem keeps_lowered : Keeps Form.isPlain Lowered := by
  rintro form span parts m hform ⟨table, around, p, rfl⟩
  rw [run_lower_of_isPlain table around p span parts hform]
  exact ⟨_, rfl, forall₂_lowerParts table around p parts⟩

end Lower

end Script

end NotebookEngine
