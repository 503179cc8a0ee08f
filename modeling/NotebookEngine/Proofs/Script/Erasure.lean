/-
**Statements that lose their types.**

A statement of a list is stripped of types, names in it become members of namespaces, and an enumeration
or a namespace is folded to what makes its object.  A statement that stands for types alone is dropped, and
so is an enumeration of which nothing is left.  Each statement is treated by itself, up to what is known
of the names declared before it, so a list of statements becomes, piece by piece, what becomes of each.

Of the variables nothing is lost and little is added: what is left of a statement declares the variables
that it declared, and only an enumeration may become a variable that was not declared as one.

Main definitions:

* `Script.Folded` — what becomes of a declaration that is folded;
* `Script.Erased` — what becomes of a tree that loses its types;
* `Script.ErasedStatement`, `Script.ErasedList` — what becomes of statements and of lists of them.

Main results:

* `Script.erased_list` — the statements of a list lose their types, each by itself;
* `Script.ErasedStatement.declared`, `Script.ErasedList.declared` — **the variables they declare**.
-/

import NotebookEngine.Proofs.Script.Bindings

set_option autoImplicit false

namespace NotebookEngine

namespace Script

theorem declaredNames_of_form {n : Node} (h : ∀ kind, n.form ≠ .declare kind) :
    declaredNames n = [] := by
  rw [declaredNames]
  split
  next kind hk => exact absurd hk (h kind)
  next => rfl

/-- Whether a statement is an enumeration. -/
def isEnum (n : Node) : Bool :=
  match n.form with
  | .enumDecl _ _ => true
  | _ => false

/-! ### Declarations that are folded -/

/-- What becomes of a statement where enumerations and namespaces are folded. -/
inductive Folded (n : Node) : Node → Prop
  /-- It is left as it is. -/
  | same : Folded n n
  /-- It becomes something that declares no variables. -/
  | other {m : Node} : n.form.isCarrier = false → (∀ kind, m.form ≠ .declare kind) → Folded n m
  /-- An enumeration becomes a variable for its object. -/
  | object {value : Node} : isEnum n = true →
      Folded n (.mk (.declare .lexical) n.span [.made .declarator [n.part 0, value]])

variable (table : EnumTable) (around : Option String)

theorem folded_foldEnum {n : Node} (hn : isEnum n = true) (p : Pending) :
    Folded n ((foldEnum table around false n).run p).1 := by
  have hcarrier : n.form.isCarrier = false := by
    rw [isEnum] at hn
    split at hn
    next h => rw [h]; rfl
    next => cases hn
  rw [foldEnum, StateT.run_bind]
  generalize (declareName (n.part 0).nameText).run p = r
  obtain ⟨first, q⟩ := r
  dsimp only [bind, Id.run]
  repeat' split
  all_goals first
    | exact .object hn
    | exact .other hcarrier nofun

/-- What an exported enumeration becomes is no declaration without its export. -/
theorem form_foldEnum_exported (n : Node) (p : Pending) (kind : Declaration) :
    ((foldEnum table around true n).run p).1.form ≠ .declare kind := by
  rw [foldEnum, StateT.run_bind]
  generalize (declareName (n.part 0).nameText).run p = r
  obtain ⟨first, q⟩ := r
  dsimp only [bind, Id.run]
  repeat' split
  all_goals first
    | exact absurd rfl ‹¬true = true›
    | exact nofun

theorem form_foldNamespace (exported : Bool) (n : Node) (p : Pending) :
    ((foldNamespace around exported n).run p).1.form = .expression := by
  rw [foldNamespace, StateT.run_bind]
  generalize (declareName (n.part 0).nameText).run p = r
  obtain ⟨first, q⟩ := r
  cases first <;> cases exported <;> cases around <;> rfl

/-- What becomes of a declaration that stands in an export declares nothing by itself. -/
theorem form_foldDeclaration_exported (d : Node) (p : Pending) (kind : Declaration) :
    ((foldDeclaration table around true d).run p).1.form ≠ .declare kind := by
  rw [foldDeclaration]
  split
  · exact form_foldEnum_exported table around d p kind
  · rw [form_foldNamespace]
    exact nofun
  all_goals exact nofun

theorem folded_foldStatement (n : Node) (p : Pending) :
    Folded n ((foldStatement table around n).run p).1 := by
  rw [foldStatement]
  split
  next hform =>
    refine .other (by rw [hform]; rfl) fun kind => ?_
    have hfolded := form_foldDeclaration_exported table around (n.part 0) p kind
    rw [StateT.run_bind]
    generalize (foldDeclaration table around true (n.part 0)).run p = r at hfolded
    obtain ⟨folded, q⟩ := r
    dsimp only [bind]
    split
    · exact nofun
    · exact hfolded
  next => split <;> exact .same
  next =>
    rw [foldDeclaration]
    split
    next hform => exact folded_foldEnum table around (by rw [isEnum, hform]) p
    next hform =>
      refine .other (by rw [hform]; rfl) fun kind => ?_
      rw [form_foldNamespace]
      exact nofun
    all_goals exact .same

/-! ### Trees without types -/

/-- What becomes of a tree that loses its types, its own declaration not folded. -/
def Erased (names : Names) (n m : Node) : Prop :=
  ∃ k, Qualified names (n.rebuild stripStep) k ∧ Lowered k m

variable {names : Names}

theorem keeps_erased (names : Names) : Keeps Form.isCarrier (Erased names) := by
  rintro form span parts m hform ⟨k, hk, hm⟩
  rw [rebuild_of_isPlain isStill_stripStep span parts (Form.isPlain_of_isCarrier hform)] at hk
  obtain ⟨ks, rfl, hks⟩ := keeps_qualified names (Form.isOpen_of_isCarrier hform) hk
  obtain ⟨ms, rfl, hms⟩ := keeps_lowered (Form.isPlain_of_isCarrier hform) hm
  exact ⟨ms, rfl, forall₂_comp (List.forall₂_map_left_iff.1 hks) hms⟩

/-! ### Lists of statements -/

theorem form_stripStep (n : Node) : (stripStep n).form = n.form := by
  obtain ⟨form, span, parts⟩ := n
  cases form <;> first | rfl | cases parts <;> rfl

theorem form_rebuild_stripStep (n : Node) : (n.rebuild stripStep).form = n.form :=
  form_rebuild form_stripStep n

/-- What becomes of a statement in a list of statements: a statement, or nothing. -/
inductive ErasedStatement (names : Names) (n : Node) : List Node → Prop
  /-- It stands for types alone. -/
  | dropped : isKept (n.rebuild stripStep) = false → ErasedStatement names n []
  | kept {k m : Node} : Erased names n k → Folded k m → ErasedStatement names n [m]
  /-- It was a declaration of which nothing is left. -/
  | folded {k m : Node} : Erased names n k → Folded k m → m.isAbsent = true → ErasedStatement names n []

/-- What becomes of a list of statements. -/
inductive ErasedList (names : Names) : List Node → List Node → Prop
  | nil : ErasedList names [] []
  | cons {n : Node} {ns out outs : List Node} : ErasedStatement names n out → ErasedList names ns outs →
      ErasedList names (n :: ns) (out ++ outs)

theorem Erased.form {n k : Node} (h : Erased names n k) (hn : n.form.isCarrier = true) :
    k.form = n.form := by
  obtain ⟨form, span, parts⟩ := n
  obtain ⟨_, rfl, -⟩ := keeps_erased names hn h
  rfl

/-- Carriers are left as they are where declarations are folded. -/
theorem Folded.eq_of_isCarrier {k m : Node} (h : Folded k m) (hk : k.form.isCarrier = true) : m = k := by
  cases h with
  | same => rfl
  | other hcarrier _ => rw [hk] at hcarrier; cases hcarrier
  | object henum =>
      rw [isEnum] at henum
      split at henum
      next hform => rw [hform] at hk; cases hk
      next => cases henum

/-- A carrier in a list of statements stays in it. -/
theorem ErasedStatement.of_isCarrier {n : Node} {out : List Node} (h : ErasedStatement names n out)
    (hn : n.form.isCarrier = true) : ∃ m, out = [m] ∧ Erased names n m := by
  cases h with
  | dropped hkept =>
      rw [isKept, form_rebuild_stripStep] at hkept
      revert hkept hn
      cases n.form <;> exact nofun
  | kept hk hm =>
      have hcarrier := (congrArg Form.isCarrier (hk.form hn)).trans hn
      exact ⟨_, rfl, by rwa [hm.eq_of_isCarrier hcarrier]⟩
  | folded hk hm habsent =>
      have hform := hk.form hn
      rw [hm.eq_of_isCarrier ((congrArg Form.isCarrier hform).trans hn), Node.isAbsent, hform,
        decide_eq_true_iff] at habsent
      rw [habsent] at hn
      cases hn

theorem ErasedList.exists_mem {ss out : List Node} (h : ErasedList names ss out) {n : Node}
    (hn : n ∈ ss) (hcarrier : n.form.isCarrier = true) : ∃ m ∈ out, Erased names n m := by
  induction h with
  | nil => cases hn
  | cons hfirst _ ih =>
      rcases List.mem_cons.1 hn with rfl | hrest
      · obtain ⟨m, rfl, hm⟩ := hfirst.of_isCarrier hcarrier
        exact ⟨m, List.mem_cons_self, hm⟩
      · obtain ⟨m, hm, herased⟩ := ih hrest
        exact ⟨m, List.mem_append_right _ hm, herased⟩

theorem ErasedList.append_left {ss rest out : List Node} (h : ErasedList names (ss ++ rest) out) :
    ∃ first last, out = first ++ last ∧ ErasedList names ss first ∧ ErasedList names rest last := by
  induction ss generalizing out with
  | nil => exact ⟨[], out, rfl, .nil, h⟩
  | cons n ss ih =>
      cases h with
      | @cons _ _ own outs hn hrest =>
          obtain ⟨first, last, rfl, hfirst, hlast⟩ := ih hrest
          exact ⟨own ++ first, last, (List.append_assoc _ _ _).symm, .cons hn hfirst, hlast⟩

theorem run_lowerStatements_cons (n : Node) (ns : List Node) (p : Pending) :
    (lowerStatements table around 0 (n :: ns)).run p =
      let lowered := (lower table around n).run p
      let folded := (foldStatement table around lowered.1).run lowered.2
      let rest := (lowerStatements table around 0 ns).run folded.2
      (folded.1 :: rest.1, rest.2) := by
  rw [lowerStatements]
  rfl

/-- Statements are stripped of types first, and what is left of them is treated one after the other. -/
theorem erasedList_lowerStatements (ss ks : List Node) (p : Pending)
    (h : List.Forall₂ (Qualified names) ((ss.map (Node.rebuild stripStep)).filter isKept) ks) :
    ErasedList names ss
      (((lowerStatements table around 0 ks).run p).1.filter fun n => !n.isAbsent) := by
  induction ss generalizing ks p with
  | nil =>
      cases h
      rw [lowerStatements]
      exact .nil
  | cons n ss ih =>
      rw [List.map_cons] at h
      cases hkept : isKept (n.rebuild stripStep) with
      | false =>
          rw [List.filter_cons_of_neg (by rw [hkept]; exact Bool.false_ne_true)] at h
          exact .cons (.dropped hkept) (ih ks p h)
      | true =>
          rw [List.filter_cons_of_pos hkept] at h
          obtain _ | @⟨_, k, _, ks, hk, hrest⟩ := h
          rw [run_lowerStatements_cons]
          extract_lets lowered folded rest
          have hlowered : Erased names n lowered.1 := ⟨k, hk, table, around, p, rfl⟩
          have hfolded : Folded lowered.1 folded.1 := folded_foldStatement table around _ _
          have hlist := ih ks folded.2 hrest
          rw [List.filter_cons]
          split
          next => exact .cons (.kept hlowered hfolded) hlist
          next habsent =>
            rw [Bool.not_eq_true, Bool.not_eq_false'] at habsent
            exact .cons (.folded hlowered hfolded habsent) hlist

/-- Whether a form is that of a list of statements without anything before them. -/
def Form.isList : Form → Bool
  | .block | .program _ => true
  | _ => false

theorem run_closeList (outer : Pending) (ks : List Node) (p : Pending) :
    ∃ more, ((closeList outer ks).run p).1 = (ks.filter fun n => !n.isAbsent) ++ more ∧
      ∀ m ∈ more, ∃ ws, m = bareVariables ws := by
  have hrun : ((closeList outer ks).run p).1 = if p.bareNames.isEmpty = true then
      ks.filter fun n => !n.isAbsent
      else (ks.filter fun n => !n.isAbsent) ++ [bareVariables p.bareNames] := rfl
  rw [hrun]
  split
  · exact ⟨[], (List.append_nil _).symm, nofun⟩
  · exact ⟨_, rfl, List.forall_mem_singleton.2 ⟨_, rfl⟩⟩

theorem run_lower_of_isList {form : Form} (hform : form.isList = true) (span : Span) (ks : List Node)
    (p : Pending) :
    ∃ around' more, ((lower table around (.mk form span ks)).run p).1 = .mk form span
      ((((lowerStatements table around' 0 ks).run { p with bareNames := [] }).1.filter fun n =>
        !n.isAbsent) ++ more) ∧ ∀ m ∈ more, ∃ ws, m = bareVariables ws := by
  have hcount : form.statementsFrom? = some 0 := by cases form <;> first | rfl | cases hform
  obtain ⟨more, hmore, hbare⟩ := run_closeList p
    ((lowerStatements table (namespaceAround around form ks) 0 ks).run { p with bareNames := [] }).1
    ((lowerStatements table (namespaceAround around form ks) 0 ks).run { p with bareNames := [] }).2
  refine ⟨namespaceAround around form ks, more, ?_, hbare⟩
  rw [lower]
  split
  next hnone => rw [hcount] at hnone; cases hnone
  next count hsome =>
    rw [hcount] at hsome
    cases hsome
    exact congrArg (Node.mk form span) hmore

/-- The statements of a list lose their types, each by itself, and variables without values may be
declared behind them. -/
theorem erased_list_bare {form : Form} (hform : form.isList = true) {span : Span} {ss : List Node}
    {m : Node} (h : Erased names (.mk form span ss) m) :
    ∃ out more, m = .mk form span (out ++ more) ∧ ErasedList names ss out ∧
      ∀ m ∈ more, ∃ ws, m = bareVariables ws := by
  obtain ⟨k, hk, table, around, p, rfl⟩ := h
  have hstrip : (Node.mk form span ss).rebuild stripStep =
      .mk form span ((ss.map (Node.rebuild stripStep)).filter isKept) := by
    rw [Node.rebuild, Node.rebuildAll_eq_map]
    cases form <;> first | rfl | cases hform
  have hopen : form.isOpen = true := by cases form <;> first | rfl | cases hform
  rw [hstrip] at hk
  obtain ⟨ks, rfl, hks⟩ := keeps_qualified names hopen hk
  obtain ⟨around', more, hlower, hbare⟩ := run_lower_of_isList table around hform span ks p
  exact ⟨_, more, hlower, erasedList_lowerStatements table around' ss ks _ hks, hbare⟩

/-- **The statements of a list lose their types**, each by itself, and more statements may be added
behind them. -/
theorem erased_list {form : Form} (hform : form.isList = true) {span : Span} {ss : List Node} {m : Node}
    (h : Erased names (.mk form span ss) m) :
    ∃ out more, m = .mk form span (out ++ more) ∧ ErasedList names ss out := by
  obtain ⟨out, more, hm, hout, -⟩ := erased_list_bare hform h
  exact ⟨out, more, hm, hout⟩

/-! ### What statements declare -/

/-- Whether a form is that of a declaration of variables or of an enumeration. -/
def Form.declares : Form → Bool
  | .declare _ | .enumDecl _ _ => true
  | _ => false

theorem Form.eq_of_declares {f : Form} (h : f.declares = true) :
    (∃ kind, f = .declare kind) ∨ ∃ isConst declared, f = .enumDecl isConst declared := by
  cases f with
  | declare kind => exact .inl ⟨kind, rfl⟩
  | enumDecl isConst declared => exact .inr ⟨isConst, declared, rfl⟩
  | _ => cases h

theorem declares_node {v : EnumValue} (h : v.isKnown = true) : v.node.form.declares = false := by
  cases v with
  | number x =>
      rw [EnumValue.node, numberNode]
      split <;> rfl
  | string s => rfl
  | missing => cases h
  | «open» n => cases h

theorem memberConstant?_isKnown {t : EnumTable} {n : Node} {v : EnumValue}
    (h : memberConstant? t n = some v) : v.isKnown = true ∧ n.form.declares = false := by
  have hknown : ∀ enum member, t.known? enum member = some v → v.isKnown = true := fun _ _ hv =>
    (Option.filter_eq_some_iff.1 hv).2
  rw [memberConstant?] at h
  split at h
  next hform _ => exact ⟨hknown _ _ h, by rw [hform]; rfl⟩
  next hform _ =>
    obtain ⟨key, -, hv⟩ := Option.bind_eq_some_iff.1 h
    exact ⟨hknown _ _ hv, by rw [hform]; rfl⟩
  next => cases h

theorem declares_qualifyStep (names : Names) (s : Standing) (n : Node) :
    (qualifyStep names s n).form.declares = n.form.declares := by
  rw [qualifyStep]
  split
  next w _ hform =>
    have hmember : ∀ m, owned? names s n = some m → m.form.declares = false := by
      intro m hm
      rw [owned?, hform] at hm
      split at hm
      · cases hm
      · obtain ⟨o, -, rfl⟩ := Option.map_eq_some_iff.1 hm
        rfl
    cases howned : owned? names s n with
    | none => rfl
    | some m => exact (hmember m howned).trans (by rw [hform]; rfl)
  next hform _ =>
    split
    · rw [hform]; rfl
    · rfl
  next hform _ =>
    split
    · rw [hform]; rfl
    · rfl
  next => rfl

/-- Only a value that is asserted can turn into a declaration where names become members. -/
theorem Qualified.declares {n m : Node} (h : Qualified names n m) (hn : n.form ≠ .asserted) :
    m.form.declares = n.form.declares := by
  rcases h with rfl | ⟨s, -, rfl⟩
  · rfl
  unfold qualify
  split
  next => exact declares_qualifyStep _ _ _
  next form span parts _ =>
    split
    · rfl
    · split
      next v hv =>
        split at hv
        · cases hv
        · obtain ⟨hknown, hform⟩ := memberConstant?_isKnown hv
          exact (declares_node hknown).trans hform.symm
      next =>
        split
        next => exact absurd rfl hn
        next => exact declares_qualifyStep _ _ _
        next => exact declares_qualifyStep _ _ _

/-- The name of an enumeration stands for itself. -/
theorem Qualified.sameEnum {n m : Node} (h : Qualified names n m) {isConst declared : Bool}
    (hform : n.form = .enumDecl isConst declared) (hn : isPattern (n.part 0) = true) : SameEnum n m := by
  rcases h with rfl | ⟨s, -, rfl⟩
  · exact ⟨rfl, hn, rfl⟩
  obtain ⟨form, span, parts⟩ := n
  cases hform
  have hstep : ∀ parts, qualifyStep names s (.mk (.enumDecl isConst declared) span parts) =
      .mk (.enumDecl isConst declared) span parts := fun _ => rfl
  rw [qualify_of_isUsual names s span parts rfl, hstep]
  split
  · exact ⟨rfl, hn, rfl⟩
  cases parts with
  | nil => exact ⟨rfl, rfl, rfl⟩
  | cons p ps =>
      have hp : p.form ≠ .shorthand := by
        intro hp
        obtain ⟨form, span, parts⟩ := p
        cases hp
        cases hn
      have hfirst : (Node.mk (.enumDecl isConst declared) span (qualifyParts names
          (s.part (.enumDecl isConst declared)) 0 (p :: ps))).part 0 = p := qualify_of_fixed rfl hp
      exact ⟨rfl, (congrArg isPattern hfirst).trans hn, congrArg boundNames hfirst⟩

theorem form_lowerClass (n : Node) : (lowerClass n).1.form = n.form := by
  rw [lowerClass]
  dsimp only
  split <;> rfl

theorem form_foldClass (n : Node) (p : Pending) : ((foldClass n).run p).1.form = n.form := by
  rw [foldClass]
  split
  · exact form_lowerClass n
  · exact form_lowerClass n
  · rfl

/-- Replacing declarations within a node leaves its form as it is. -/
theorem form_lower (table : EnumTable) (around : Option String) (p : Pending) (n : Node) :
    ((lower table around n).run p).1.form = n.form := by
  obtain ⟨form, span, parts⟩ := n
  rw [lower]
  split
  next => exact form_foldClass _ _
  next => rfl

theorem Lowered.form {n m : Node} (h : Lowered n m) : m.form = n.form := by
  obtain ⟨table, around, p, rfl⟩ := h
  exact form_lower table around p n

/-- What a statement and what becomes of it without types have in common. -/
inductive Kindred (n k : Node) : Prop
  | declaration {kind : Declaration} : n.form = .declare kind → SameVariables n k → Kindred n k
  | enumeration : isEnum n = true → SameEnum n k → Kindred n k
  | neither : n.form.declares = false → k.form.declares = false → Kindred n k

theorem Erased.kindred {n k : Node} (h : Erased names n k) (hn : bindsPatterns n = true) :
    Kindred n k := by
  obtain ⟨l, hl, hk⟩ := h
  have hstripped := form_rebuild_stripStep n
  cases hdeclares : n.form.declares with
  | false =>
      have hasserted : n.form ≠ .asserted := by
        intro h
        rw [bindsPatterns, h] at hn
        cases hn
      refine .neither hdeclares ?_
      rw [hk.form, hl.declares (by rwa [hstripped]), hstripped, hdeclares]
  | true =>
      rcases Form.eq_of_declares hdeclares with ⟨kind, hkind⟩ | ⟨isConst, declared, henum⟩
      · have hstrip : SameVariables n (n.rebuild stripStep) :=
          (keeps_rebuild isStill_stripStep).sameVariables (fun _ => Form.isPlain_of_isPattern) rfl rfl
            hkind hn rfl
        have hqualify := hl.sameVariables (hstrip.form.trans hkind) hstrip.patterns
        have hlower := keeps_lowered.sameVariables (fun _ => Form.isPlain_of_isPattern) rfl rfl
          (hqualify.form.trans (hstrip.form.trans hkind)) hqualify.patterns hk
        exact .declaration hkind ((hstrip.trans hqualify).trans hlower)
      · have hpattern : isPattern (n.part 0) = true := by
          rw [bindsPatterns, henum] at hn
          exact hn
        have hstrip : SameEnum n (n.rebuild stripStep) :=
          (keeps_rebuild isStill_stripStep).sameEnum (fun _ => Form.isPlain_of_isPattern) rfl henum
            hpattern rfl
        have hqualify := hl.sameEnum (hstrip.form.trans henum) hstrip.pattern
        have hlower := keeps_lowered.sameEnum (fun _ => Form.isPlain_of_isPattern) rfl
          (hqualify.form.trans (hstrip.form.trans henum)) hqualify.pattern hk
        exact .enumeration (by rw [isEnum, henum]) ((hstrip.trans hqualify).trans hlower)

/-- A statement that binds patterns if it declares variables. -/
def IsBound (m : Node) : Prop := ∀ kind, m.form = .declare kind → bindsPatterns m = true

theorem ne_declare_of_declares {n : Node} (h : n.form.declares = false) (kind : Declaration) :
    n.form ≠ .declare kind := by
  intro hkind
  rw [hkind] at h
  cases h

theorem isEnum_iff {n : Node} :
    isEnum n = true ↔ ∃ isConst declared, n.form = .enumDecl isConst declared := by
  rw [isEnum]
  constructor
  · intro h
    split at h
    next isConst declared hform => exact ⟨isConst, declared, hform⟩
    next => cases h
  · rintro ⟨isConst, declared, hform⟩
    rw [hform]

theorem ne_declare_of_isEnum {n : Node} (h : isEnum n = true) (kind : Declaration) :
    n.form ≠ .declare kind := by
  obtain ⟨isConst, declared, hform⟩ := isEnum_iff.1 h
  rw [hform]
  exact nofun

theorem isBound_of_ne {m : Node} (h : ∀ kind, m.form ≠ .declare kind) : IsBound m :=
  fun kind hkind => absurd hkind (h kind)

/-- What is left of a statement declares the same variables, or neither of them declares any, or the
statement is an enumeration that has become a variable. -/
theorem Kindred.folded {n k m : Node} (h : Kindred n k) (hm : Folded k m) :
    SameVariables n m ∨
    (∀ kind, n.form ≠ .declare kind) ∧ (∀ kind, m.form ≠ .declare kind) ∨
    isEnum n = true ∧ m.form = .declare .lexical ∧ bindsPatterns m = true ∧
      declaredNames m = boundNames (n.part 0) := by
  cases h with
  | declaration hkind hsame =>
      have hk := hsame.form.trans hkind
      cases hm with
      | same => exact .inl hsame
      | other hcarrier _ => rw [hk] at hcarrier; cases hcarrier
      | object henum => exact absurd hk (ne_declare_of_isEnum henum _)
  | enumeration henum hsame =>
      have hn := ne_declare_of_isEnum henum
      cases hm with
      | same => exact .inr (.inl ⟨hn, by rwa [hsame.form]⟩)
      | other _ hm => exact .inr (.inl ⟨hn, hm⟩)
      | @object value _ =>
          have hbinding : isBinding (.made .declarator [k.part 0, value]) = true :=
            Bool.and_eq_true_iff.2 ⟨rfl, hsame.pattern⟩
          have hnames : declaredNames (.mk (.declare .lexical) k.span
              [.made .declarator [k.part 0, value]]) = boundNames (k.part 0) := List.append_nil _
          refine .inr (.inr ⟨henum, rfl, ?_, hnames.trans hsame.names⟩)
          exact Bool.and_eq_true_iff.2 ⟨hbinding, rfl⟩
  | neither hn hk =>
      have hnone := ne_declare_of_declares hn
      cases hm with
      | same => exact .inr (.inl ⟨hnone, ne_declare_of_declares hk⟩)
      | other _ hm => exact .inr (.inl ⟨hnone, hm⟩)
      | object henum =>
          obtain ⟨isConst, declared, hform⟩ := isEnum_iff.1 henum
          rw [hform] at hk
          cases hk

/-- What is left of a statement declares the variables that the statement declared; what is left of an
enumeration may declare its name. -/
theorem Kindred.declared {n k m : Node} (h : Kindred n k) (hm : Folded k m) :
    IsBound m ∧ (declaredNames m = declaredNames n ∨
      isEnum n = true ∧ declaredNames m = boundNames (n.part 0)) := by
  rcases h.folded hm with hsame | ⟨hn, hm⟩ | ⟨henum, -, hbinds, hnames⟩
  · exact ⟨fun _ _ => hsame.patterns, .inl hsame.names⟩
  · exact ⟨isBound_of_ne hm, .inl ((declaredNames_of_form hm).trans (declaredNames_of_form hn).symm)⟩
  · exact ⟨fun _ _ => hbinds, .inr ⟨henum, hnames⟩⟩

/-- **What becomes of a statement in a list** declares the variables that the statement declared; what
becomes of an enumeration may declare its name. -/
theorem ErasedStatement.declared {n : Node} {out : List Node} (h : ErasedStatement names n out)
    (hn : bindsPatterns n = true) :
    (∀ m ∈ out, IsBound m) ∧ (out.flatMap declaredNames = declaredNames n ∨
      isEnum n = true ∧ out.flatMap declaredNames = boundNames (n.part 0)) := by
  cases h with
  | dropped hkept =>
      refine ⟨nofun, .inl (declaredNames_of_form fun kind hkind => ?_).symm⟩
      rw [isKept, form_rebuild_stripStep, hkind] at hkept
      cases hkept
  | kept hk hm =>
      obtain ⟨hbound, hnames⟩ := (hk.kindred hn).declared hm
      rw [List.flatMap_singleton]
      exact ⟨by rwa [List.forall_mem_singleton], hnames⟩
  | @folded _ m hk hm habsent =>
      have hnone : declaredNames m = [] := declaredNames_of_form fun kind hkind => by
        rw [Node.isAbsent, hkind] at habsent
        cases habsent
      obtain ⟨-, hnames⟩ := (hk.kindred hn).declared hm
      rw [hnone] at hnames
      exact ⟨nofun, hnames⟩

/-- The names of the enumerations in a list of statements. -/
def enumNames (ss : List Node) : List Node := (ss.filter isEnum).flatMap fun n => boundNames (n.part 0)

/-- The statements of a list declare the variables that they declared, and may declare the names of the
enumerations. -/
theorem ErasedList.declared {ss out : List Node} (h : ErasedList names ss out)
    (hss : ∀ n ∈ ss, bindsPatterns n = true) :
    (∀ m ∈ out, IsBound m) ∧ ss.flatMap declaredNames ⊆ out.flatMap declaredNames ∧
      out.flatMap declaredNames ⊆ ss.flatMap declaredNames ++ enumNames ss := by
  induction h with
  | nil => exact ⟨nofun, List.Subset.refl _, List.nil_subset _⟩
  | @cons n ns out outs hn _ ih =>
      rw [List.forall_mem_cons] at hss
      obtain ⟨hbounds, hfirst, hlast⟩ := ih hss.2
      obtain ⟨hbound, hnames⟩ := hn.declared hss.1
      have henums : enumNames (n :: ns) =
          (if isEnum n = true then boundNames (n.part 0) else []) ++ enumNames ns := by
        rw [enumNames, List.filter_cons]
        split
        · exact List.flatMap_cons
        · rfl
      refine ⟨fun m hm => (List.mem_append.1 hm).elim (hbound m) (hbounds m), ?_, ?_⟩
      · rw [List.flatMap_cons, List.flatMap_append]
        rcases hnames with h | ⟨henum, -⟩
        · rw [h]
          exact List.append_subset.2 ⟨List.subset_append_left _ _,
            List.subset_append_of_subset_right _ hfirst⟩
        · rw [declaredNames_of_form (ne_declare_of_isEnum henum)]
          exact List.subset_append_of_subset_right _ hfirst
      · rw [List.flatMap_cons, List.flatMap_append, henums]
        intro w hw
        have hrest := @hlast w
        rcases hnames with h | ⟨henum, h⟩
        · rw [h] at hw
          grind
        · rw [h] at hw
          grind

end Script

end NotebookEngine
