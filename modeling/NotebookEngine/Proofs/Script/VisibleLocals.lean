/-
**What a capturing call is given.**

The pass that completes captures goes through all of a program and changes one thing: the object that an
arrow function answers, in a statement that calls for the capture of variables and stands in a list of
statements.  This object keeps its properties and is given one more for each variable that the statements
before it in the same list declare.  What is declared further in or further out does not count, and neither
does a name for which the object has a property already.

A property stands for a name if it is a short one, or if it has a value and the name as its key.  A method
has a key as well, but it does not stand for its name: the variable is added beside it.

Main definitions:

* `Script.Binds`, `Script.DeclaresVariable` — patterns and statements that bind a name;
* `Script.Answering`, `Script.Capturing` — what stands around the object of a capturing call;
* `Script.missingNames` — the names that an object is given;
* `Script.Filled`, `Script.Completed` — what becomes of a statement and of a program.

Main results:

* `Script.mem_boundNames_iff` — patterns bind names through any nesting;
* `Script.filled_iff`, `Script.completed_iff` — the pass, at a statement and at a program;
* `Script.captureLocals_captureLocals` — a second run changes nothing;
* `Script.captureLocals_visible` — **a capturing call is given the visible variables**.
-/

import NotebookEngine.Proofs.Script.Captures
import NotebookEngine.Proofs.Script.Trees

set_option autoImplicit false

namespace NotebookEngine

namespace Script

open Node (Everywhere)

/-! ### Names that patterns bind -/

/-- A pattern that binds a name, within any nesting of patterns. -/
inductive Binds (w : String) : Node → Prop
  | name {span : Span} {parts : List Node} : Binds w (.mk (.name w) span parts)
  | item {span : Span} {parts : List Node} {p : Node} :
      p ∈ parts → Binds w p → Binds w (.mk .arrayPattern span parts)
  | property {span : Span} {parts : List Node} {p : Node} :
      p ∈ parts → Binds w p → Binds w (.mk .objectPattern span parts)
  | value {computed : Bool} {span : Span} {key p : Node} :
      Binds w p → Binds w (.mk (.patternProperty computed) span [key, p])
  | shorthand {span : Span} {p : Node} {more : List Node} :
      Binds w p → Binds w (.mk .shorthandPattern span (p :: more))
  | rest {span : Span} {p : Node} : Binds w p → Binds w (.mk .rest span [p])
  | defaulted {span : Span} {p : Node} {more : List Node} :
      Binds w p → Binds w (.mk .defaulted span (p :: more))

theorem mem_boundNames_both (w : String) :
    (∀ p, w ∈ (boundNames p).map Node.nameText ↔ Binds w p) ∧
    ∀ ps, w ∈ (boundNamesIn ps).map Node.nameText ↔ ∃ p ∈ ps, Binds w p := by
  refine boundNames.mutual_induct _ _ ?name ?array ?object ?property ?shorthand ?rest ?defaulted ?other
    ?nil ?cons
  case name =>
    intro v span parts
    rw [boundNames, List.map_singleton, List.mem_singleton]
    constructor
    · rintro rfl
      exact .name
    · rintro ⟨⟩
      rfl
  case array =>
    intro span parts ih
    rw [boundNames, ih]
    constructor
    · rintro ⟨p, hp, hw⟩
      exact .item hp hw
    · rintro (_ | ⟨hp, hw⟩)
      exact ⟨_, hp, hw⟩
  case object =>
    intro span parts ih
    rw [boundNames, ih]
    constructor
    · rintro ⟨p, hp, hw⟩
      exact .property hp hw
    · rintro (_ | _ | ⟨hp, hw⟩)
      exact ⟨_, hp, hw⟩
  case property =>
    intro computed span key p ih
    rw [boundNames, ih]
    constructor
    · exact .value
    · rintro (_ | _ | _ | hw)
      exact hw
  case shorthand =>
    intro span p more ih
    rw [boundNames, ih]
    constructor
    · exact .shorthand
    · rintro (_ | _ | _ | _ | hw)
      exact hw
  case rest =>
    intro span p ih
    rw [boundNames, ih]
    constructor
    · exact .rest
    · rintro (_ | _ | _ | _ | _ | hw)
      exact hw
  case defaulted =>
    intro span p more ih
    rw [boundNames, ih]
    constructor
    · exact .defaulted
    · rintro (_ | _ | _ | _ | _ | _ | hw)
      exact hw
  case other =>
    intro t hname harray hobject hproperty hshorthand hrest hdefaulted
    have hnone : boundNames t = [] := by rw [boundNames] <;> assumption
    rw [hnone]
    constructor
    · rintro ⟨⟩
    · intro hw
      cases hw with
      | name => exact (hname _ _ _ rfl).elim
      | item => exact (harray _ _ rfl).elim
      | property => exact (hobject _ _ rfl).elim
      | value => exact (hproperty _ _ _ _ rfl).elim
      | shorthand => exact (hshorthand _ _ _ rfl).elim
      | rest => exact (hrest _ _ rfl).elim
      | defaulted => exact (hdefaulted _ _ _ rfl).elim
  case nil =>
    rw [boundNamesIn]
    simp
  case cons =>
    intro p ps ihp ihps
    rw [boundNamesIn, List.map_append, List.mem_append, ihp, ihps, List.exists_mem_cons_iff]

/-- The names that a pattern binds. -/
theorem mem_boundNames_iff {w : String} {p : Node} :
    w ∈ (boundNames p).map Node.nameText ↔ Binds w p :=
  (mem_boundNames_both w).1 p

/-- A statement that declares a variable. -/
def DeclaresVariable (w : String) (n : Node) : Prop :=
  ∃ kind span ds, n = .mk (.declare kind) span ds ∧ ∃ d ∈ ds, Binds w (d.part 0)

theorem mem_declaredNames_iff {w : String} {n : Node} :
    w ∈ (declaredNames n).map Node.nameText ↔ DeclaresVariable w n := by
  by_cases hkind : ∃ kind, n.form = .declare kind
  · obtain ⟨form, span, ds⟩ := n
    obtain ⟨kind, hform⟩ := hkind
    cases hform
    change w ∈ (ds.flatMap fun d => boundNames (d.part 0)).map Node.nameText ↔ _
    rw [List.map_flatMap, List.mem_flatMap]
    constructor
    · rintro ⟨d, hd, hw⟩
      exact ⟨kind, span, ds, rfl, d, hd, mem_boundNames_iff.1 hw⟩
    · rintro ⟨_, _, _, heq, d, hd, hw⟩
      cases heq
      exact ⟨d, hd, mem_boundNames_iff.2 hw⟩
  · rw [declaredNames_of_form fun kind hform => hkind ⟨kind, hform⟩]
    constructor
    · rintro ⟨⟩
    · rintro ⟨kind, span, ds, rfl, -⟩
      exact (hkind ⟨kind, rfl⟩).elim

/-! ### Names that are missing -/

/-- The property that is added for a name. -/
def shorthandOf (w : String) : Node := .made .shorthand [.named w]

/-- The names for which an object with some properties has none, each once, in the order in which they
come first. -/
def missingNames (names ps : List Node) : List String :=
  ((names.map Node.nameText).filter fun w => !ps.any fun p => propertyName? p = some w).eraseDups

theorem propertyName?_shorthandOf (w : String) : propertyName? (shorthandOf w) = some w := rfl

theorem mem_missingNames {names ps : List Node} {w : String} :
    w ∈ missingNames names ps ↔ w ∈ names.map Node.nameText ∧ ∀ p ∈ ps, propertyName? p ≠ some w := by
  rw [missingNames, List.mem_eraseDups, List.mem_filter]
  simp only [Bool.not_eq_true', List.any_eq_false, decide_eq_true_eq]

/-- An object keeps its properties and is given one for each missing name. -/
theorem addShorthands_eq (span : Span) (ps names : List Node) :
    addShorthands (.mk .object span ps) names =
      .mk .object span (ps ++ (missingNames names ps).map shorthandOf) := by
  induction names generalizing ps with
  | nil =>
      rw [missingNames, List.map_nil, List.filter_nil, List.eraseDups_nil, List.map_nil, List.append_nil]
      rfl
  | cons name names ih =>
      have hstep : addShorthands (.mk .object span ps) (name :: names) = addShorthands (.mk .object span
          (if ps.any fun p => propertyName? p = some name.nameText then ps
            else ps ++ [shorthandOf name.nameText])) names := rfl
      rw [hstep, ih]
      by_cases hany : (ps.any fun p => propertyName? p = some name.nameText) = true
      · have hskip : missingNames (name :: names) ps = missingNames names ps := by
          rw [missingNames, List.map_cons, List.filter_cons_of_neg (by simp [hany])]
          rfl
        rw [if_pos hany, hskip]
      · -- The name is added, and is not missing any more.
        have hfirst : missingNames (name :: names) ps =
            name.nameText :: missingNames names (ps ++ [shorthandOf name.nameText]) := by
          rw [missingNames, List.map_cons, List.filter_cons_of_pos (by simpa using hany),
            List.eraseDups_cons, List.filter_filter, missingNames]
          congr 3
          funext w
          rw [List.any_append, List.any_cons, propertyName?_shorthandOf, List.any_nil, Bool.or_false,
            Bool.not_or, Bool.and_comm]
          congr 2
          rw [Bool.eq_iff_iff, beq_iff_eq, decide_eq_true_iff, Option.some.injEq]
          exact eq_comm
        rw [if_neg hany, hfirst, List.map_cons, List.append_assoc, List.singleton_append]

/-- After the names were added none is missing. -/
theorem missingNames_added (names ps : List Node) :
    missingNames names (ps ++ (missingNames names ps).map shorthandOf) = [] := by
  rw [List.eq_nil_iff_forall_not_mem]
  intro w hw
  obtain ⟨hmem, hnone⟩ := mem_missingNames.1 hw
  have hps : ∀ p ∈ ps, propertyName? p ≠ some w := fun p hp => hnone p (List.mem_append_left _ hp)
  have hadded : shorthandOf w ∈ (missingNames names ps).map shorthandOf :=
    List.mem_map_of_mem (mem_missingNames.2 ⟨hmem, hps⟩)
  exact hnone _ (List.mem_append_right _ hadded) rfl

/-! ### Statements that call for a capture -/

/-- What stands around the object that an arrow function answers. -/
inductive Answering : (Node → Node) → Prop
  | bare {isAsync : Bool} {span : Span} {params : List Node} :
      Answering fun object => .mk (.arrow isAsync) span (object :: params)
  | enclosed {isAsync : Bool} {span closed : Span} {params : List Node} :
      Answering fun object => .mk (.arrow isAsync) span (.mk .paren closed [object] :: params)

/-- What stands around the object in a statement that calls for the capture of variables.  The arrow function
is the third argument of the call, where it may be spread. -/
inductive Capturing : (Node → Node) → Prop
  | plain {whole called : Span} {f a b : Node} {arrow : Node → Node} {rest : List Node} :
      f.form = .name "__capture_locals" → Answering arrow →
      Capturing fun object => .mk .expression whole
        [.mk (.call false) called (f :: a :: b :: arrow object :: rest)]
  | spread {whole called span : Span} {f a b : Node} {arrow : Node → Node} {rest : List Node} :
      f.form = .name "__capture_locals" → Answering arrow →
      Capturing fun object => .mk .expression whole
        [.mk (.call false) called (f :: a :: b :: .mk .spread span [arrow object] :: rest)]

/-- What becomes of a statement that stands behind declarations of some names: the object of a capturing
call is given what it lacks of them, and every other statement stays as it is. -/
inductive Filled (names : List Node) : Node → Node → Prop
  | added {around : Node → Node} {span : Span} {ps : List Node} : Capturing around →
      Filled names (around (.mk .object span ps))
        (around (.mk .object span (ps ++ (missingNames names ps).map shorthandOf)))
  | kept {n : Node} : (∀ around span ps, Capturing around → n ≠ around (.mk .object span ps)) →
      Filled names n n

section Statements

variable {around : Node → Node} {names : List Node}

theorem captureInArrow_answering (h : Answering around) (span : Span) (ps : List Node) :
    captureInArrow names (around (.mk .object span ps)) =
      around (.mk .object span (ps ++ (missingNames names ps).map shorthandOf)) := by
  rw [← addShorthands_eq]
  cases h <;> rfl

theorem captureInStatement_capturing (h : Capturing around) (span : Span) (ps : List Node) :
    captureInStatement names (around (.mk .object span ps)) =
      around (.mk .object span (ps ++ (missingNames names ps).map shorthandOf)) := by
  cases h with
  | @plain whole called f a b arrow rest hf harrow =>
      have hcall : isCallOf "__capture_locals" (.mk (.call false) called
          (f :: a :: b :: arrow (.mk .object span ps) :: rest)) = true := decide_eq_true hf
      have hargument : captureInArgument names (arrow (.mk .object span ps)) =
          captureInArrow names (arrow (.mk .object span ps)) := by
        cases harrow <;> rfl
      dsimp only
      rw [← captureInArrow_answering harrow, ← hargument]
      exact if_pos hcall
  | @spread whole called spanned f a b arrow rest hf harrow =>
      have hcall : isCallOf "__capture_locals" (.mk (.call false) called
          (f :: a :: b :: .mk .spread spanned [arrow (.mk .object span ps)] :: rest)) = true :=
        decide_eq_true hf
      dsimp only
      rw [← captureInArrow_answering harrow]
      exact if_pos hcall

/-- An arrow function that is changed answers an object. -/
theorem captureInArrow_cases (names : List Node) (n : Node) :
    (∃ around span ps, Answering around ∧ n = around (.mk .object span ps)) ∨
      captureInArrow names n = n := by
  obtain ⟨form, span, parts⟩ := n
  rw [captureInArrow]
  split
  next isAsync body params hform hparts =>
    cases hform
    cases hparts
    obtain ⟨form, closed, parts⟩ := body
    rw [captureInBody]
    split
    next hform =>
      cases hform
      exact .inl ⟨_, _, _, .bare, rfl⟩
    next inner hform hparts =>
      cases hform
      cases hparts
      obtain ⟨form, own, ps⟩ := inner
      split
      next hform =>
        cases hform
        exact .inl ⟨_, _, _, .enclosed, rfl⟩
      next => exact .inr rfl
    next => exact .inr rfl
  next => exact .inr rfl

/-- A statement that is changed is a capturing call. -/
theorem captureInStatement_cases (names : List Node) (n : Node) :
    (∃ around span ps, Capturing around ∧ n = around (.mk .object span ps)) ∨
      captureInStatement names n = n := by
  obtain ⟨form, whole, parts⟩ := n
  rw [captureInStatement]
  split
  next e hform hparts =>
    cases hform
    cases hparts
    split
    next hcall =>
      obtain ⟨form, called, args⟩ := e
      cases form_of_isCallOf hcall
      split
      next f a b c rest hargs =>
        cases hargs
        have hf : f.form = .name "__capture_locals" := of_decide_eq_true hcall
        obtain ⟨form, span, parts⟩ := c
        rw [captureInArgument]
        split
        next arrow hform hparts =>
          cases hform
          cases hparts
          rcases captureInArrow_cases names arrow with ⟨around, own, ps, haround, rfl⟩ | hsame
          · exact .inl ⟨_, own, ps, .spread hf haround, rfl⟩
          · rw [hsame]
            exact .inr rfl
        next =>
          rcases captureInArrow_cases names (.mk form span parts) with
            ⟨around, own, ps, haround, heq⟩ | hsame
          · rw [heq]
            exact .inl ⟨_, own, ps, .plain hf haround, rfl⟩
          · rw [hsame]
            exact .inr rfl
      next => exact .inr rfl
    next => exact .inr rfl
  next => exact .inr rfl

/-- What becomes of a statement is what the pass makes of it. -/
theorem filled_iff {n m : Node} : Filled names n m ↔ m = captureInStatement names n := by
  constructor
  · rintro (⟨haround⟩ | hnot)
    · rw [captureInStatement_capturing haround]
    · rcases captureInStatement_cases names n with ⟨around, span, ps, haround, rfl⟩ | hsame
      · exact absurd rfl (hnot around span ps haround)
      · exact hsame.symm
  · rintro rfl
    by_cases h : ∃ around span ps, Capturing around ∧ n = around (.mk .object span ps)
    · obtain ⟨around, span, ps, haround, rfl⟩ := h
      rw [captureInStatement_capturing haround]
      exact .added haround
    · have hsame := (captureInStatement_cases names n).resolve_left h
      rw [hsame]
      exact .kept fun around span ps haround heq => h ⟨around, span, ps, haround, heq⟩

/-- A statement that was given what it lacks lacks nothing. -/
theorem captureInStatement_captureInStatement (names : List Node) (n : Node) :
    captureInStatement names (captureInStatement names n) = captureInStatement names n := by
  rcases captureInStatement_cases names n with ⟨around, span, ps, haround, rfl⟩ | hsame
  · rw [captureInStatement_capturing haround, captureInStatement_capturing haround, missingNames_added,
      List.map_nil, List.append_nil]
  · rw [hsame, hsame]

/-- A capturing call declares nothing. -/
theorem declaredNames_captureInStatement (names : List Node) (n : Node) :
    declaredNames (captureInStatement names n) = declaredNames n := by
  by_cases hform : n.form = .expression
  · exact (isBound_of_form (form_captureInStatement names n) (by simp [hform])).2
  · rw [captureInStatement_of_ne hform]

/-- A capturing call binds nothing. -/
theorem boundNames_captureInStatement (names : List Node) (n : Node) :
    boundNames (captureInStatement names n) = boundNames n := by
  by_cases hform : n.form = .expression
  · have hnone : ∀ m : Node, m.form = .expression → boundNames m = [] := by
      rintro ⟨form, span, parts⟩ hm
      cases hm
      rw [boundNames] <;> simp
    rw [hnone n hform, hnone _ ((form_captureInStatement names n).trans hform)]
  · rw [captureInStatement_of_ne hform]

end Statements

/-! ### Lists of statements -/

/-- What stands before the statements of a node, and these statements. -/
def statements? : Form → List Node → Option (List Node × List Node)
  | .block, ss => some ([], ss)
  | .case, value :: ss => some ([value], ss)
  | _, _ => none

theorem statements?_map (f : Node → Node) (form : Form) (parts : List Node) :
    statements? form (parts.map f) =
      (statements? form parts).map fun (before, ss) => (before.map f, ss.map f) := by
  cases form <;> first | rfl | cases parts <;> rfl

theorem captureStep_of_none {form : Form} {parts : List Node} (h : statements? form parts = none)
    (span : Span) : captureStep (.mk form span parts) = .mk form span parts := by
  cases form <;> first | rfl | cases h | cases parts <;> first | rfl | cases h

/-- Other statements may stand in the place of those of a node. -/
theorem statements?_eq_some {form : Form} {parts before ss : List Node}
    (h : statements? form parts = some (before, ss)) :
    parts = before ++ ss ∧ ∀ ss', statements? form (before ++ ss') = some (before, ss') := by
  cases form <;> first | (cases h; done) | cases h; exact ⟨rfl, fun _ => rfl⟩ | skip
  cases parts with
  | nil => cases h
  | cons value parts =>
      cases h
      exact ⟨rfl, fun _ => rfl⟩

theorem captureStep_of_some {form : Form} {before ss : List Node}
    (h : statements? form (before ++ ss) = some (before, ss)) (span : Span) :
    captureStep (.mk form span (before ++ ss)) = .mk form span (before ++ captureInList [] ss) := by
  cases form <;> first | (cases h; done) | cases h; rfl | skip
  cases before with
  | nil => cases ss <;> cases h
  | cons value rest =>
      cases h
      rfl

theorem getElem?_captureInList (own ss : List Node) (i : Nat) :
    (captureInList own ss)[i]? =
      ss[i]?.map (captureInStatement (own ++ (ss.take i).flatMap declaredNames)) := by
  induction ss generalizing own i with
  | nil => rfl
  | cons n ns ih =>
      rw [captureInList]
      cases i with
      | zero => rw [List.take_zero, List.flatMap_nil, List.append_nil]; rfl
      | succ i =>
          rw [List.getElem?_cons_succ, List.getElem?_cons_succ, ih, List.take_succ_cons,
            List.flatMap_cons, List.append_assoc]

theorem length_captureInList (own ss : List Node) : (captureInList own ss).length = ss.length := by
  induction ss generalizing own with
  | nil => rfl
  | cons n ns ih => rw [captureInList, List.length_cons, List.length_cons, ih]

/-- A second run over a list changes nothing. -/
theorem captureInList_captureInList (own ss : List Node) :
    captureInList own (captureInList own ss) = captureInList own ss := by
  induction ss generalizing own with
  | nil => rfl
  | cons n ns ih =>
      rw [captureInList, captureInList, captureInStatement_captureInStatement,
        declaredNames_captureInStatement, ih]

/-! ### Names after the pass -/

/-- The pass changes nothing of what a part of a node binds. -/
theorem boundNames_part_captureStep (n : Node) (i : Nat) :
    boundNames ((captureStep n).part i) = boundNames (n.part i) := by
  have hlist : ∀ (before ss : List Node),
      ((before ++ captureInList [] ss)[i]?.getD .absent |> boundNames) =
        ((before ++ ss)[i]?.getD .absent |> boundNames) := by
    intro before ss
    by_cases hi : i < before.length
    · rw [List.getElem?_append_left hi, List.getElem?_append_left hi]
    · rw [List.getElem?_append_right (by omega), List.getElem?_append_right (by omega),
        getElem?_captureInList]
      cases ss[i - before.length]? with
      | none => rfl
      | some s => exact boundNames_captureInStatement _ s
  obtain ⟨form, span, parts⟩ := n
  cases hparts : statements? form parts with
  | none => rw [captureStep_of_none hparts]
  | some found =>
      obtain ⟨before, ss⟩ := found
      obtain ⟨rfl, hsplit⟩ := statements?_eq_some hparts
      rw [captureStep_of_some (hsplit ss)]
      exact hlist before ss

/-- What is no pattern binds nothing. -/
theorem boundNames_of_form {n : Node} (h : n.form.isPattern = false) : boundNames n = [] := by
  rw [boundNames]
  all_goals
    intros
    subst_vars
    cases h

theorem captureLocals_of_isPlain {form : Form} (h : form.isPlain = true) (span : Span)
    (parts : List Node) : captureLocals (.mk form span parts) = .mk form span (parts.map captureLocals) :=
  rebuild_of_isPlain isStill_captureStep span parts h

theorem boundNames_captureLocals_both :
    (∀ p, boundNames (captureLocals p) = boundNames p) ∧
    ∀ ps, boundNamesIn (ps.map captureLocals) = boundNamesIn ps := by
  refine boundNames.mutual_induct _ _ ?name ?array ?object ?property ?shorthand ?rest ?defaulted ?other
    ?nil ?cons
  case name =>
    intro w span parts
    rw [captureLocals_of_isPlain rfl, boundNames, boundNames]
  case array =>
    intro span parts ih
    rw [captureLocals_of_isPlain rfl, boundNames, boundNames, ih]
  case object =>
    intro span parts ih
    rw [captureLocals_of_isPlain rfl, boundNames, boundNames, ih]
  case property =>
    intro computed span key p ih
    rw [captureLocals_of_isPlain rfl, List.map_cons, List.map_singleton, boundNames, boundNames, ih]
  case shorthand =>
    intro span p more ih
    rw [captureLocals_of_isPlain rfl, List.map_cons, boundNames, boundNames, ih]
  case rest =>
    intro span p ih
    rw [captureLocals_of_isPlain rfl, List.map_singleton, boundNames, boundNames, ih]
  case defaulted =>
    intro span p more ih
    rw [captureLocals_of_isPlain rfl, List.map_cons, boundNames, boundNames, ih]
  case other =>
    intro t hname harray hobject hproperty hshorthand hrest hdefaulted
    have hnone : boundNames t = [] := by rw [boundNames] <;> assumption
    obtain ⟨form, span, parts⟩ := t
    rw [hnone]
    cases hpattern : form.isPattern with
    | false =>
        have hform : (captureLocals (.mk form span parts)).form = form :=
          form_rebuild form_captureStep (.mk form span parts)
        refine boundNames_of_form ?_
        rw [hform, hpattern]
    | true =>
        -- A pattern with too few or too many parts has as many after the pass.
        rw [captureLocals_of_isPlain (Form.isPlain_of_isPattern hpattern), boundNames]
        · rintro w span parts ⟨⟩
          exact hname _ _ _ rfl
        · rintro span parts ⟨⟩
          exact harray _ _ rfl
        · rintro span parts ⟨⟩
          exact hobject _ _ rfl
        · rintro computed span key p heq
          rcases parts with _ | ⟨a, _ | ⟨b, _ | _⟩⟩ <;> cases heq
          exact hproperty _ _ _ _ rfl
        · rintro span p more heq
          cases parts <;> cases heq
          exact hshorthand _ _ _ rfl
        · rintro span p heq
          rcases parts with _ | ⟨a, _ | _⟩ <;> cases heq
          exact hrest _ _ rfl
        · rintro span p more heq
          cases parts <;> cases heq
          exact hdefaulted _ _ _ rfl
  case nil => rfl
  case cons =>
    intro p ps ihp ihps
    rw [List.map_cons, boundNamesIn, boundNamesIn, ihp, ihps]

/-- Patterns bind after the pass what they have bound. -/
theorem boundNames_captureLocals (p : Node) : boundNames (captureLocals p) = boundNames p :=
  boundNames_captureLocals_both.1 p

theorem declaredNames_captureLocals (n : Node) :
    declaredNames (captureLocals n) = declaredNames n := by
  have hform : (captureLocals n).form = n.form := form_rebuild form_captureStep n
  by_cases hkind : ∃ kind, n.form = .declare kind
  · obtain ⟨form, span, ds⟩ := n
    obtain ⟨kind, hkind⟩ := hkind
    cases hkind
    have hrebuilt : captureLocals (.mk (.declare kind) span ds) =
        .mk (.declare kind) span (ds.map captureLocals) := Node.rebuild_mk captureStep _ span ds
    rw [hrebuilt]
    change (ds.map captureLocals).flatMap (fun d => boundNames (d.part 0)) =
      ds.flatMap fun d => boundNames (d.part 0)
    rw [List.flatMap_map]
    refine List.flatMap_congr fun d _ => ?_
    obtain ⟨form, own, parts⟩ := d
    have hd : captureLocals (.mk form own parts) = captureStep (.mk form own (parts.map captureLocals)) :=
      Node.rebuild_mk captureStep form own parts
    rw [hd, boundNames_part_captureStep]
    cases parts with
    | nil => rfl
    | cons p ps => exact boundNames_captureLocals p
  · rw [declaredNames_of_form fun kind h => hkind ⟨kind, h⟩,
      declaredNames_of_form fun kind h => hkind ⟨kind, hform.symm.trans h⟩]

theorem declaredNames_map_captureLocals (ss : List Node) :
    (ss.map captureLocals).flatMap declaredNames = ss.flatMap declaredNames := by
  rw [List.flatMap_map]
  exact List.flatMap_congr fun s _ => declaredNames_captureLocals s

/-! ### Programs -/

/-- What becomes of a program.  Every node keeps its form and its source text, and has the parts that its
parts become; in a list of statements, each statement is then filled with the names that the statements
before it in the list declare. -/
inductive Completed : Node → Node → Prop
  | node {form : Form} {span : Span} {parts parts' : List Node} :
      statements? form parts = none → List.Forall₂ Completed parts parts' →
      Completed (.mk form span parts) (.mk form span parts')
  | list {form : Form} {span : Span} {parts before ss before' ss' out : List Node} :
      statements? form parts = some (before, ss) →
      List.Forall₂ Completed before before' → List.Forall₂ Completed ss ss' → out.length = ss.length →
      (∀ (i : Nat) (s m : Node), ss'[i]? = some s → out[i]? = some m →
        Filled ((ss.take i).flatMap declaredNames) s m) →
      Completed (.mk form span parts) (.mk form span (before' ++ out))

theorem forall₂_iff_eq_map {R : Node → Node → Prop} {f : Node → Node} {ps qs : List Node}
    (h : ∀ p ∈ ps, ∀ q, R p q ↔ q = f p) : List.Forall₂ R ps qs ↔ qs = ps.map f := by
  induction ps generalizing qs with
  | nil => rw [List.forall₂_nil_left_iff, List.map_nil]
  | cons p ps ih =>
      rw [List.forall_mem_cons] at h
      rw [List.forall₂_cons_left_iff, List.map_cons]
      constructor
      · rintro ⟨q, rest, hq, hrest, rfl⟩
        rw [(h.1 q).1 hq, (ih h.2).1 hrest]
      · rintro rfl
        exact ⟨f p, ps.map f, (h.1 _).2 rfl, (ih h.2).2 rfl, rfl⟩

/-- The statements of a list are filled one by one. -/
theorem filled_list_iff {ss out : List Node} :
    (out.length = ss.length ∧ ∀ (i : Nat) (s m : Node), (ss.map captureLocals)[i]? = some s →
      out[i]? = some m → Filled ((ss.take i).flatMap declaredNames) s m) ↔
    out = captureInList [] (ss.map captureLocals) := by
  have hget : ∀ i : Nat, (captureInList [] (ss.map captureLocals))[i]? =
      (ss.map captureLocals)[i]?.map (captureInStatement ((ss.take i).flatMap declaredNames)) := by
    intro i
    rw [getElem?_captureInList, List.nil_append, ← List.map_take, declaredNames_map_captureLocals]
  constructor
  · rintro ⟨hlength, hfilled⟩
    refine List.ext_getElem? fun i => ?_
    rw [hget]
    by_cases hi : i < ss.length
    · have hs : i < (ss.map captureLocals).length := by rwa [List.length_map]
      have hm : i < out.length := by rwa [hlength]
      have hstatement := List.getElem?_eq_getElem hs
      have hanswer := List.getElem?_eq_getElem hm
      rw [hstatement, hanswer, Option.map_some, filled_iff.1 (hfilled i _ _ hstatement hanswer)]
    · rw [List.getElem?_eq_none (by omega),
        List.getElem?_eq_none (by rw [List.length_map]; omega), Option.map_none]
  · rintro rfl
    refine ⟨by rw [length_captureInList, List.length_map], fun i s m hs hm => ?_⟩
    rw [hget, hs, Option.map_some] at hm
    exact filled_iff.2 (Option.some.inj hm).symm

/-- What becomes of a program is what the pass makes of it, and nothing else. -/
theorem completed_iff {n m : Node} : Completed n m ↔ m = captureLocals n := by
  -- By induction on the program: its parts are what the pass makes of them.
  induction n using Node.induct generalizing m with
  | mk form span parts ih =>
      have hstep : captureLocals (.mk form span parts) =
          captureStep (.mk form span (parts.map captureLocals)) := Node.rebuild_mk captureStep form span parts
      rw [hstep]
      cases hparts : statements? form parts with
      | none =>
          have hdone : statements? form (parts.map captureLocals) = none := by
            rw [statements?_map, hparts, Option.map_none]
          rw [captureStep_of_none hdone]
          constructor
          · intro h
            cases h with
            | node _ hbecome => rw [(forall₂_iff_eq_map fun p hp q => ih p hp).1 hbecome]
            | list hfound =>
                rw [hparts] at hfound
                cases hfound
          · rintro rfl
            exact .node hparts ((forall₂_iff_eq_map fun p hp q => ih p hp).2 rfl)
      | some found =>
          obtain ⟨before, ss⟩ := found
          obtain ⟨rfl, -⟩ := statements?_eq_some hparts
          have hdone : statements? form (before.map captureLocals ++ ss.map captureLocals) =
              some (before.map captureLocals, ss.map captureLocals) := by
            rw [← List.map_append, statements?_map, hparts, Option.map_some]
          have hbefore : ∀ p ∈ before, ∀ q, Completed p q ↔ q = captureLocals p := fun p hp q =>
            ih p (List.mem_append_left _ hp)
          have hss : ∀ p ∈ ss, ∀ q, Completed p q ↔ q = captureLocals p := fun p hp q =>
            ih p (List.mem_append_right _ hp)
          rw [List.map_append, captureStep_of_some hdone]
          constructor
          · intro h
            cases h with
            | node hfound _ =>
                rw [hparts] at hfound
                cases hfound
            | list hfound hbecome hbecomes hlength hfilled =>
                rw [hparts] at hfound
                cases hfound
                rw [(forall₂_iff_eq_map hbefore).1 hbecome]
                rw [(forall₂_iff_eq_map hss).1 hbecomes] at hfilled
                rw [filled_list_iff.1 ⟨hlength, hfilled⟩]
          · rintro rfl
            obtain ⟨hlength, hfilled⟩ := filled_list_iff.2 (rfl : captureInList [] (ss.map captureLocals) = _)
            exact .list hparts ((forall₂_iff_eq_map hbefore).2 rfl) ((forall₂_iff_eq_map hss).2 rfl)
              hlength hfilled

/-! ### A second run -/

/-- A node that the step leaves alone. -/
def IsSettled (n : Node) : Prop := captureStep n = n

/-- A node without statements is settled if its parts are. -/
theorem everywhere_isSettled {form : Form} {span : Span} {parts : List Node}
    (h : statements? form parts = none) :
    Everywhere IsSettled (.mk form span parts) ↔ ∀ p ∈ parts, Everywhere IsSettled p := by
  rw [Node.everywhere_mk]
  exact and_iff_right (captureStep_of_none h span)

/-- Whether a statement is settled is told by its object and, apart from that, by what stands around it. -/
theorem Answering.isSettled {around : Node → Node} (h : Answering around) :
    ∃ aside : Prop, ∀ object,
      Everywhere IsSettled (around object) ↔ Everywhere IsSettled object ∧ aside := by
  cases h with
  | @bare _ _ params =>
      refine ⟨∀ p ∈ params, Everywhere IsSettled p, fun object => ?_⟩
      rw [everywhere_isSettled rfl, List.forall_mem_cons]
  | @enclosed _ _ _ params =>
      refine ⟨∀ p ∈ params, Everywhere IsSettled p, fun object => ?_⟩
      rw [everywhere_isSettled rfl, List.forall_mem_cons, everywhere_isSettled rfl,
        List.forall_mem_singleton]

theorem Capturing.isSettled {around : Node → Node} (h : Capturing around) :
    ∃ aside : Prop, ∀ object,
      Everywhere IsSettled (around object) ↔ Everywhere IsSettled object ∧ aside := by
  cases h with
  | @plain _ _ f a b arrow rest _ harrow =>
      obtain ⟨aside, haside⟩ := harrow.isSettled
      refine ⟨aside ∧ ∀ p ∈ f :: a :: b :: rest, Everywhere IsSettled p, fun object => ?_⟩
      rw [everywhere_isSettled rfl, List.forall_mem_singleton, everywhere_isSettled rfl]
      simp only [List.forall_mem_cons, haside]
      tauto
  | @spread _ _ _ f a b arrow rest _ harrow =>
      obtain ⟨aside, haside⟩ := harrow.isSettled
      refine ⟨aside ∧ ∀ p ∈ f :: a :: b :: rest, Everywhere IsSettled p, fun object => ?_⟩
      rw [everywhere_isSettled rfl, List.forall_mem_singleton, everywhere_isSettled rfl]
      simp only [List.forall_mem_cons, everywhere_isSettled (rfl : statements? .spread _ = none), haside]
      tauto

/-- A capturing call that was settled stays so. -/
theorem everywhere_captureInStatement {n : Node} (names : List Node) (h : Everywhere IsSettled n) :
    Everywhere IsSettled (captureInStatement names n) := by
  rcases captureInStatement_cases names n with ⟨around, span, ps, haround, rfl⟩ | hsame
  · obtain ⟨aside, haside⟩ := haround.isSettled
    obtain ⟨hobject, haround'⟩ := (haside _).1 h
    rw [captureInStatement_capturing haround, haside]
    refine ⟨(everywhere_isSettled rfl).2 fun p hp => ?_, haround'⟩
    rcases List.mem_append.1 hp with hp | hp
    · exact (everywhere_isSettled rfl).1 hobject p hp
    · obtain ⟨w, -, rfl⟩ := List.mem_map.1 hp
      exact (everywhere_isSettled rfl).2
        (List.forall_mem_singleton.2 ((everywhere_isSettled rfl).2 nofun))
  · rwa [hsame]

/-- One step settles a list of statements. -/
theorem everywhere_captureStep (form : Form) (span : Span) (parts : List Node)
    (hparts : ∀ p ∈ parts, Everywhere IsSettled p) :
    Everywhere IsSettled (captureStep (.mk form span parts)) := by
  cases hfound : statements? form parts with
  | none =>
      rw [captureStep_of_none hfound]
      exact (everywhere_isSettled hfound).2 hparts
  | some found =>
      obtain ⟨before, ss⟩ := found
      obtain ⟨rfl, hsplit⟩ := statements?_eq_some hfound
      rw [captureStep_of_some (hsplit ss)]
      refine .mk ?_ fun p hp => ?_
      · rw [IsSettled, captureStep_of_some (hsplit _), captureInList_captureInList]
      rcases List.mem_append.1 hp with hp | hp
      · exact hparts p (List.mem_append_left _ hp)
      · obtain ⟨i, hi⟩ := List.mem_iff_getElem?.1 hp
        rw [getElem?_captureInList, Option.map_eq_some_iff] at hi
        obtain ⟨s, hs, rfl⟩ := hi
        exact everywhere_captureInStatement _
          (hparts s (List.mem_append_right _ (List.mem_of_getElem? hs)))

/-- A second run changes nothing. -/
theorem captureLocals_captureLocals (n : Node) : captureLocals (captureLocals n) = captureLocals n :=
  Node.rebuild_eq_self (Node.everywhere_rebuild everywhere_captureStep n)

/-- **A capturing call is given the visible variables.**  The pass leaves a program as it is but for the
objects of capturing calls that stand in lists of statements.  Such an object keeps its properties, and behind
them is given one for each name that the statements before it in the list declare, through any nesting of
patterns, in the order in which the names are first bound, unless it has a property with a value or a short one
of the name.  A second run changes nothing. -/
theorem captureLocals_visible (n : Node) :
    (∀ m, Completed n m ↔ m = captureLocals n) ∧
    (∀ (ss : List Node) (w : String),
      w ∈ (ss.flatMap declaredNames).map Node.nameText ↔ ∃ s ∈ ss, DeclaresVariable w s) ∧
    captureLocals (captureLocals n) = captureLocals n := by
  refine ⟨fun m => completed_iff, fun ss w => ?_, captureLocals_captureLocals n⟩
  rw [List.map_flatMap, List.mem_flatMap]
  constructor
  · rintro ⟨s, hs, hw⟩
    exact ⟨s, hs, mem_declaredNames_iff.1 hw⟩
  · rintro ⟨s, hs, hw⟩
    exact ⟨s, hs, mem_declaredNames_iff.2 hw⟩

/-- The identifier that is the key of a property or of a method. -/
def identifierKey? (n : Node) : Option String :=
  match n.form with
  | .shorthand | .property false | .method _ _ _ false =>
    match (n.part 0).form with
    | .name w => some w
    | _ => none
  | _ => none

/-- Statements that declare `x` and then call for a capture. -/
def capturingX (argument : Node) : Node :=
  .made .block [.made (.declare .constant) [.made .declarator [.named "x", .made .null []]],
    .made .expression [callOf "__capture_locals" [.made .null [], .made .null [], argument]]]

/-- An arrow function that answers an object. -/
def answering (ps : List Node) : Node := .made (.arrow false) [.made .paren [.made .object ps]]

/-- A method of the name `x`. -/
def methodX : Node := .made (.method .method .plain false false) [.named "x", .made .block []]

/-- An object whose method has the key `x` is given a property for the variable all the same, and so is the
object of an arrow function that is spread. -/
theorem method_given_again :
    identifierKey? methodX = some "x" ∧
    captureLocals (capturingX (answering [methodX])) =
      capturingX (answering [methodX, shorthandOf "x"]) ∧
    captureLocals (capturingX (answering [methodX])) ≠ capturingX (answering [methodX]) ∧
    captureLocals (capturingX (.made .spread [answering []])) =
      capturingX (.made .spread [answering [shorthandOf "x"]]) ∧
    captureLocals (capturingX (.made .spread [answering []])) ≠
      capturingX (.made .spread [answering []]) := by
  have hmethod : captureLocals (capturingX (answering [methodX])) =
      capturingX (answering [methodX, shorthandOf "x"]) := rfl
  have hspread : captureLocals (capturingX (.made .spread [answering []])) =
      capturingX (.made .spread [answering [shorthandOf "x"]]) := rfl
  refine ⟨rfl, hmethod, ?_, hspread, ?_⟩
  · rw [hmethod]
    rintro ⟨⟩
  · rw [hspread]
    rintro ⟨⟩

end Script

end NotebookEngine
