/-
**Calls that capture variables.**

The call that captures the variables of a cell is given an object with a property for each of them.  A
pass that keeps calls, arrow functions and objects keeps the names of these properties, even where the
variable of a name has become a member of a namespace.  When captures are completed, each such call in a
list of statements is given the names of the variables that the statements before it declare.

Main definitions:

* `Script.StandsFor` — a property that stands for a variable;
* `Script.Captures` — a statement that calls for the capture of some variables;
* `Script.IsBound` — a statement that binds patterns if it declares variables.

Main results:

* `Script.Captures.rebuild`, `Script.Captures.erased` — the passes keep what is captured;
* `Script.Captures.add` — **a capturing call is given the names that it lacks**;
* `Script.captureInList_append`, `Script.captureInList_declared` — lists of statements with such calls.
-/

import NotebookEngine.Proofs.Script.Erasure

set_option autoImplicit false

namespace NotebookEngine

namespace Script

/-! ### Capturing calls -/

/-- A property that stands for the variable of a name. -/
inductive StandsFor (w : String) : Node → Prop
  | shorthand {span own : Span} {parts : List Node} :
      StandsFor w (.mk .shorthand span [.mk (.name w) own parts])
  /-- The variable is a member of a namespace. -/
  | property {span own : Span} {parts : List Node} {value : Node} :
      StandsFor w (.mk (.property false) span [.mk (.name w) own parts, value])

theorem StandsFor.propertyName {w : String} {p : Node} (h : StandsFor w p) :
    propertyName? p = some w := by
  cases h <;> rfl

/-- A statement that calls for the capture of variables, given by their names. -/
inductive Captures (ws : List String) : Node → Prop
  | call {whole called arrowed closed object : Span} {f a b : Node} {isAsync : Bool}
      {ps params rest : List Node} : f.form = .name "__capture_locals" → List.Forall₂ StandsFor ws ps →
      Captures ws (.mk .expression whole [.mk (.call false) called (f :: a :: b ::
        .mk (.arrow isAsync) arrowed (.mk .paren closed [.mk .object object ps] :: params) :: rest)])

theorem Captures.form {ws : List String} {n : Node} (h : Captures ws n) : n.form = .expression := by
  cases h
  rfl

/-- A pass that keeps expressions, and what stands for a variable, keeps what is captured. -/
theorem Captures.keep {becomes : Node → Node → Prop} (hk : Keeps Form.isCarrier becomes)
    (hname : ∀ f g, f.form = .name "__capture_locals" → becomes f g → g.form = .name "__capture_locals")
    (hstands : ∀ w p q, StandsFor w p → becomes p q → StandsFor w q) {ws : List String} {n m : Node}
    (h : Captures ws n) (hm : becomes n m) : Captures ws m := by
  cases h with
  | @call _ _ _ _ _ f a b isAsync ps params rest hf hps =>
    obtain ⟨_, rfl, hwhole⟩ := hk rfl hm
    obtain _ | ⟨he, _ | _⟩ := hwhole
    obtain ⟨_, rfl, hcalled⟩ := hk rfl he
    obtain _ | ⟨hf', _ | ⟨-, _ | ⟨-, _ | ⟨hc, -⟩⟩⟩⟩ := hcalled
    obtain ⟨_, rfl, harrow⟩ := hk rfl hc
    obtain _ | ⟨hclosed, -⟩ := harrow
    obtain ⟨_, rfl, hparen⟩ := hk rfl hclosed
    obtain _ | ⟨hobject, _ | _⟩ := hparen
    obtain ⟨qs, rfl, hqs⟩ := hk rfl hobject
    refine .call (hname _ _ hf hf') ?_
    clear hm he hc hclosed hobject
    induction hps generalizing qs with
    | nil =>
        cases hqs
        exact .nil
    | cons hp _ ih =>
        obtain _ | ⟨hq, hrest⟩ := hqs
        exact .cons (hstands _ _ _ hp hq) (ih _ hrest)

/-! ### Passes -/

section Passes

variable {ws : List String} {n m : Node}

theorem form_rebuild_name {step : Node → Node} (hs : IsStill step) {w : String} {f : Node}
    (hf : f.form = .name w) : (f.rebuild step).form = .name w := by
  obtain ⟨form, span, parts⟩ := f
  cases hf
  rw [rebuild_of_isPlain hs span parts rfl]
  rfl

theorem StandsFor.rebuild {step : Node → Node} (hs : IsStill step) {w : String} {p : Node}
    (h : StandsFor w p) : StandsFor w (p.rebuild step) := by
  cases h <;>
    simp only [rebuild_of_isPlain hs _ _ (rfl : Form.isPlain .shorthand = true),
      rebuild_of_isPlain hs _ _ (rfl : Form.isPlain (.property false) = true), List.map_cons,
      List.map_nil, rebuild_of_isPlain hs _ _ (rfl : Form.isPlain (.name w) = true)]
  · exact .shorthand
  · exact .property

theorem Captures.rebuild {step : Node → Node} (hs : IsStill step) (h : Captures ws n) :
    Captures ws (n.rebuild step) := by
  have hk : Keeps Form.isCarrier fun n m => m = n.rebuild step := fun _ _ _ _ hform =>
    keeps_rebuild hs (Form.isPlain_of_isCarrier hform)
  refine h.keep hk ?_ ?_ rfl
  · rintro f _ hf rfl
    exact form_rebuild_name hs hf
  · rintro w p _ hp rfl
    exact hp.rebuild hs

/-- A name that no namespace exports stands for itself. -/
theorem Qualified.form_name {names : Names} {w : String} (hfree : names.owners.find? w = none)
    {f g : Node} (h : Qualified names f g) (hf : f.form = .name w) : g.form = .name w := by
  rcases h with rfl | ⟨s, -, rfl⟩
  · exact hf
  obtain ⟨form, span, parts⟩ := f
  cases hf
  have howned : ∀ parts, owned? names s (.mk (.name w) span parts) = none := by
    intro parts
    rw [owned?]
    split
    · rfl
    · exact congrArg (Option.map _) hfree
  rw [qualify_of_isUsual names s span parts rfl]
  split
  · rfl
  · rw [qualifyStep]
    dsimp only [Node.form]
    rw [howned]
    rfl

theorem Qualified.standsFor {names : Names} {w : String} {p q : Node} (h : Qualified names p q)
    (hp : StandsFor w p) : StandsFor w q := by
  rcases h with rfl | ⟨s, -, rfl⟩
  · exact hp
  cases hp with
  | @shorthand span own parts =>
      rw [qualify, qualifyStep]
      dsimp only [Node.form, Node.parts, Node.span]
      split
      · exact .property
      · exact .shorthand
  | @property span own parts value =>
      rw [qualify_of_isUsual names s span _ rfl]
      split
      · exact .property
      · -- The key of a property stands for itself.
        have hkey : qualify names (s.part (.property false) 0) (.mk (.name w) own parts) =
            .mk (.name w) own parts := qualify_of_fixed rfl (by simp [Node.form])
        rw [qualifyParts, hkey]
        exact .property

theorem Lowered.standsFor {w : String} {p q : Node} (h : Lowered p q) (hp : StandsFor w p) :
    StandsFor w q := by
  cases hp with
  | shorthand =>
      obtain ⟨_, rfl, hparts⟩ := keeps_lowered rfl h
      obtain _ | ⟨hname, _ | _⟩ := hparts
      obtain ⟨_, rfl, -⟩ := keeps_lowered rfl hname
      exact .shorthand
  | property =>
      obtain ⟨_, rfl, hparts⟩ := keeps_lowered rfl h
      obtain _ | ⟨hname, _ | ⟨-, _ | _⟩⟩ := hparts
      obtain ⟨_, rfl, -⟩ := keeps_lowered rfl hname
      exact .property

/-- What is captured stays captured where types are lost. -/
theorem Captures.erased {names : Names} (hfree : names.owners.find? "__capture_locals" = none)
    (h : Captures ws n) (hm : Erased names n m) : Captures ws m := by
  refine h.keep (keeps_erased names) ?_ ?_ hm
  · rintro f g hf ⟨k, hk, hg⟩
    rw [hg.form]
    exact hk.form_name hfree (form_rebuild_name isStill_stripStep hf)
  · rintro w p q hp ⟨k, hk, hq⟩
    exact hq.standsFor (hk.standsFor (hp.rebuild isStill_stripStep))

end Passes

/-! ### Names that are added -/

/-- The properties that are added stand for the names that are added. -/
theorem standsFor_addShorthands (own : List Node) (span : Span) {ws : List String} {ps : List Node}
    (h : List.Forall₂ StandsFor ws ps) :
    ∃ ws' ps', addShorthands (.mk .object span ps) own = .mk .object span ps' ∧
      List.Forall₂ StandsFor ws' ps' ∧ ∀ w, w ∈ ws' ↔ w ∈ ws ∨ w ∈ own.map Node.nameText := by
  induction own generalizing ws ps with
  | nil => exact ⟨ws, ps, rfl, h, fun w => by simp⟩
  | cons name own ih =>
      have hany : (ps.any fun p => propertyName? p = some name.nameText) =
          ws.contains name.nameText := by
        clear ih
        induction h with
        | nil => rfl
        | @cons w p ws ps hp _ ih =>
            rw [List.any_cons, ih, hp.propertyName, List.contains_cons]
            congr 1
            rw [Bool.eq_iff_iff, decide_eq_true_iff, Option.some.injEq, beq_iff_eq]
            exact eq_comm
      have hstep : addShorthands (.mk .object span ps) (name :: own) = addShorthands (.mk .object span
          (if ws.contains name.nameText then ps
            else ps ++ [.made .shorthand [.named name.nameText]])) own := by
        rw [← hany]
        rfl
      rw [hstep]
      split
      next hmem =>
        obtain ⟨ws', ps', heq, hstands, hws'⟩ := ih h
        refine ⟨ws', ps', heq, hstands, fun w => ?_⟩
        rw [hws' w, List.map_cons, List.mem_cons]
        have hhas : name.nameText ∈ ws := List.contains_iff_mem.1 hmem
        grind
      next =>
        obtain ⟨ws', ps', heq, hstands, hws'⟩ := ih
          (List.rel_append h (.cons (StandsFor.shorthand (w := name.nameText)) .nil))
        refine ⟨ws', ps', heq, hstands, fun w => ?_⟩
        rw [hws' w, List.map_cons, List.mem_cons, List.mem_append, List.mem_singleton]
        grind

/-- **A capturing call is given the names that it lacks.** -/
theorem Captures.add {ws : List String} {n : Node} (h : Captures ws n) (own : List Node) :
    ∃ ws', Captures ws' (captureInStatement own n) ∧
      ∀ w, w ∈ ws' ↔ w ∈ ws ∨ w ∈ own.map Node.nameText := by
  cases h with
  | @call whole called arrowed closed object f a b isAsync ps params rest hf hps =>
    obtain ⟨ws', ps', hadd, hstands, hws'⟩ := standsFor_addShorthands own object hps
    refine ⟨ws', ?_, hws'⟩
    have hcall : isCallOf "__capture_locals" (.mk (.call false) called (f :: a :: b ::
        .mk (.arrow isAsync) arrowed (.mk .paren closed [.mk .object object ps] :: params) :: rest)) =
        true := decide_eq_true hf
    have heq : captureInStatement own (.mk .expression whole [.mk (.call false) called (f :: a :: b ::
        .mk (.arrow isAsync) arrowed (.mk .paren closed [.mk .object object ps] :: params) :: rest)]) =
        .mk .expression whole [.mk (.call false) called (f :: a :: b :: .mk (.arrow isAsync) arrowed
          (.mk .paren closed [addShorthands (.mk .object object ps) own] :: params) :: rest)] :=
      if_pos hcall
    rw [heq, hadd]
    exact .call hf hstands

/-! ### Statements that are finished -/

theorem form_captureStep (n : Node) : (captureStep n).form = n.form := by
  obtain ⟨form, span, parts⟩ := n
  cases form <;> first | rfl | cases parts <;> rfl

theorem form_trackStep (n : Node) : (trackStep n).form = n.form := by
  rw [trackStep]
  split
  next hform _ => split <;> first | rfl | exact hform.symm
  next => rfl

/-- What is no declaration, and becomes none, declares nothing before and afterwards. -/
theorem isBound_of_form {n m : Node} (hform : m.form = n.form) (hn : ∀ kind, n.form ≠ .declare kind) :
    IsBound m ∧ declaredNames m = declaredNames n := by
  have hm : ∀ kind, m.form ≠ .declare kind := by
    rw [hform]
    exact hn
  exact ⟨isBound_of_ne hm, (declaredNames_of_form hm).trans (declaredNames_of_form hn).symm⟩

/-- A pass that keeps declarations keeps what a statement declares. -/
theorem IsBound.rebuild {step : Node → Node} (hs : IsStill step)
    (hform : ∀ n, (step n).form = n.form) {n : Node} (hn : IsBound n) :
    IsBound (n.rebuild step) ∧ declaredNames (n.rebuild step) = declaredNames n := by
  by_cases hkind : ∃ kind, n.form = .declare kind
  · obtain ⟨kind, hkind⟩ := hkind
    have hvariables : SameVariables n (n.rebuild step) := (keeps_rebuild hs).sameVariables
      (fun _ => Form.isPlain_of_isPattern) rfl rfl hkind (hn kind hkind) rfl
    exact ⟨fun _ _ => hvariables.patterns, hvariables.names⟩
  · exact isBound_of_form (form_rebuild hform n) fun kind h => hkind ⟨kind, h⟩

theorem captureInStatement_of_ne {own : List Node} {n : Node} (h : n.form ≠ .expression) :
    captureInStatement own n = n := by
  rw [captureInStatement]
  split
  next hform _ => exact absurd hform h
  next => rfl

theorem form_captureInStatement (own : List Node) (n : Node) :
    (captureInStatement own n).form = n.form := by
  rw [captureInStatement]
  split
  next hform _ =>
    split
    · split
      · exact hform.symm
      · rfl
    · rfl
  next => rfl

theorem IsBound.captureInStatement {n : Node} (hn : IsBound n) (own : List Node) :
    IsBound (captureInStatement own n) ∧
      declaredNames (Script.captureInStatement own n) = declaredNames n := by
  by_cases hform : n.form = .expression
  · exact isBound_of_form (form_captureInStatement own n) (by simp [hform])
  · rw [captureInStatement_of_ne hform]
    exact ⟨hn, rfl⟩

/-- A list of statements with capturing calls declares what it has declared. -/
theorem captureInList_declared {ss : List Node} (hss : ∀ n ∈ ss, IsBound n) (own : List Node) :
    (∀ m ∈ captureInList own ss, IsBound m) ∧
      (captureInList own ss).flatMap declaredNames = ss.flatMap declaredNames := by
  induction ss generalizing own with
  | nil => exact ⟨nofun, rfl⟩
  | cons n ns ih =>
      rw [List.forall_mem_cons] at hss
      obtain ⟨hbound, hnames⟩ := hss.1.captureInStatement own
      obtain ⟨hbounds, hrest⟩ := ih hss.2 (own ++ declaredNames n)
      rw [captureInList, List.forall_mem_cons, List.flatMap_cons, List.flatMap_cons, hnames, hrest]
      exact ⟨⟨hbound, hbounds⟩, rfl⟩

theorem captureInList_append (own ss rest : List Node) :
    captureInList own (ss ++ rest) =
      captureInList own ss ++ captureInList (own ++ ss.flatMap declaredNames) rest := by
  induction ss generalizing own with
  | nil => rw [List.nil_append, List.flatMap_nil, List.append_nil]; rfl
  | cons n ns ih =>
      rw [List.cons_append, captureInList, captureInList, ih, List.cons_append, List.flatMap_cons,
        List.append_assoc]

/-- Statements that are rebuilt declare what they have declared. -/
theorem map_rebuild_declared {step : Node → Node} (hs : IsStill step)
    (hform : ∀ n, (step n).form = n.form) {ss : List Node} (hss : ∀ n ∈ ss, IsBound n) :
    (∀ m ∈ ss.map (Node.rebuild step), IsBound m) ∧
      (ss.map (Node.rebuild step)).flatMap declaredNames = ss.flatMap declaredNames := by
  refine ⟨?_, ?_⟩
  · intro m hm
    obtain ⟨n, hn, rfl⟩ := List.mem_map.1 hm
    exact ((hss n hn).rebuild hs hform).1
  · rw [List.flatMap_map]
    exact List.flatMap_congr fun n hn => ((hss n hn).rebuild hs hform).2

end Script

end NotebookEngine
