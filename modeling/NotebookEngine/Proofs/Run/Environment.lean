/-
**What becomes of the variables of the cells.**

The variables of a cell are captured when its text has run to its end, and once more when it has drained.
The host puts what is captured over what it has, without asking which cell it is of: at the end of the run
a variable has the value that the last capture which holds it has given it.  A variable that several cells
declare therefore has the value of a later cell only as long as no earlier cell is captured after that,
and when cells drain is up to their timers and promises.

Main definitions:

* `Capture`, `Capture.value?` — a capture of variables, and the value of one of them in it;
* `Capture.last?` — the last capture that holds a variable;
* `Actor.captured` — what a program captures in the part of its script that was played.

Main results:

* `Host.lookup_captureLocals`, `Host.environment_perform` — a capture, and all other calls;
* `Capture.le_last_iff` — when the last capture that holds a variable is of a cell or of a later one;
* `Actor.Remembers.round`, `Actor.Remembers.rounds` — a round of the driver, and all of them;
* `Actor.last_capture_decides` — **a variable has the value of the last capture that holds it, which is of
  a cell that declares it or of a later one only if no earlier cell is captured afterwards**.
-/

import NotebookEngine.Proofs.Run.Completion

set_option autoImplicit false

namespace NotebookEngine

/-! ### Captures -/

/-- A capture of variables: the cell that it is of, and what was captured as JSON text. -/
structure Capture where
  cell : Nat
  text : String

namespace Capture

/-- The variables of a captured text; one that is no object holds none. -/
def fieldsOf (text : String) : List (String × Json) :=
  match Json.parse text with
  | .ok (.obj fields) => fields
  | _ => []

/-- The value of a variable in a captured text. -/
def valueIn (name text : String) : Option Json := (fieldsOf text).reverse.lookup name

/-- The value of a variable after some texts were captured. -/
def valueAfter (name : String) (texts : List String) : Option Json :=
  texts.reverse.findSome? (valueIn name)

/-- The value of a variable in a capture. -/
def value? (name : String) (c : Capture) : Option Json := valueIn name c.text

/-- Whether a capture holds a variable. -/
def holds (name : String) (c : Capture) : Bool := (c.value? name).isSome

/-- The last capture that holds a variable. -/
def last? (name : String) (captures : List Capture) : Option Capture :=
  captures.reverse.find? (holds name)

theorem valueAfter_append (name : String) (as bs : List String) :
    valueAfter name (as ++ bs) = (valueAfter name bs).or (valueAfter name as) := by
  rw [valueAfter, List.reverse_append, List.findSome?_append]
  rfl

theorem valueAfter_singleton (name text : String) : valueAfter name [text] = valueIn name text := by
  simp [valueAfter, List.findSome?_cons]
  cases valueIn name text <;> rfl

/-- The value of a variable is that in the last capture that holds it. -/
theorem valueAfter_eq_last (name : String) (captures : List Capture) :
    valueAfter name (captures.map text) = (last? name captures).bind (value? name) := by
  rw [valueAfter, last?, ← List.map_reverse, List.findSome?_map]
  induction captures.reverse with
  | nil => rfl
  | cons c captures ih =>
      rw [List.findSome?_cons, List.find?_cons]
      cases hvalue : c.value? name with
      | none =>
          have hnot : c.holds name = false := by rw [holds, hvalue]; rfl
          have hnone : (valueIn name ∘ text) c = none := hvalue
          rw [hnot, hnone]
          exact ih
      | some v =>
          have hholds : c.holds name = true := by rw [holds, hvalue]; rfl
          have hsome : (valueIn name ∘ text) c = some v := hvalue
          rw [hholds, hsome]
          exact hvalue.symm

/-- The last capture that holds a variable has only captures after it that do not. -/
theorem last?_eq_some_iff (name : String) (captures : List Capture) (c : Capture) :
    last? name captures = some c ↔ ∃ before after, captures = before ++ c :: after ∧
      c.holds name = true ∧ ∀ d ∈ after, d.holds name = false := by
  rw [last?, List.find?_eq_some_iff_append]
  constructor
  · rintro ⟨hholds, after, before, hreverse, hafter⟩
    refine ⟨before.reverse, after.reverse, ?_, hholds, ?_⟩
    · rw [← List.reverse_reverse captures, hreverse]
      simp
    · intro d hd
      simpa using hafter d (List.mem_reverse.1 hd)
  · rintro ⟨before, after, rfl, hholds, hafter⟩
    refine ⟨hholds, after.reverse, before.reverse, by simp, ?_⟩
    intro d hd
    simpa using hafter d (List.mem_reverse.1 hd)

/-- A variable that some capture holds is held by a last one. -/
theorem exists_last {name : String} {captures : List Capture} {c : Capture} (hc : c ∈ captures)
    (hholds : c.holds name = true) : ∃ d, last? name captures = some d := by
  refine Option.isSome_iff_exists.1 ?_
  rw [last?, List.find?_isSome]
  exact ⟨c, List.mem_reverse.2 hc, hholds⟩

/-- **When the last capture that holds a variable is of a cell or of a later one.**  This is so just if
every capture of an earlier cell that holds it is followed by one of that cell or of a later one. -/
theorem le_last_iff {name : String} {captures : List Capture} {c : Capture}
    (hlast : last? name captures = some c) (index : Nat) :
    index ≤ c.cell ↔ ∀ before d after, captures = before ++ d :: after → d.holds name = true →
      d.cell < index → ∃ d' ∈ after, d'.holds name = true ∧ index ≤ d'.cell := by
  obtain ⟨past, future, hcaptures, hholds, hfuture⟩ := (last?_eq_some_iff name captures c).1 hlast
  constructor
  · intro hle before d after hsplit hd hearly
    -- The capture of the earlier cell is not the last one, so it comes before it.
    have hbefore := hcaptures.symm.trans hsplit
    rcases List.append_eq_append_iff.1 hbefore with ⟨between, hfirst, hrest⟩ | ⟨between, hfirst, hrest⟩
    · cases between with
      | nil =>
          obtain ⟨rfl, -⟩ := List.cons.inj hrest
          omega
      | cons e between =>
          obtain ⟨-, hrest⟩ := List.cons.inj hrest
          have hmem : d ∈ future := by rw [hrest]; simp
          rw [hfuture d hmem] at hd
          cases hd
    · cases between with
      | nil =>
          obtain ⟨rfl, -⟩ := List.cons.inj hrest
          omega
      | cons e between =>
          obtain ⟨-, hrest⟩ := List.cons.inj hrest
          exact ⟨c, by rw [hrest]; simp, hholds, hle⟩
  · intro hfollowed
    by_contra hlt
    obtain ⟨d, hd, hdholds, -⟩ := hfollowed past c future hcaptures hholds (by omega)
    rw [hfuture d hd] at hdholds
    cases hdholds

end Capture

/-! ### What calls do to the variables -/

namespace Host

/-- The text that a call captures. -/
def Call.captured? : Call → Option String
  | .captureLocals json => some json
  | _ => none

theorem lookup_foldl_put (name : String) (fields env : List (String × Json)) :
    (fields.foldl (fun env (k, v) => Json.put k v env) env).lookup name =
      (fields.reverse.lookup name).or (env.lookup name) := by
  induction fields generalizing env with
  | nil => rfl
  | cons field fields ih =>
      obtain ⟨k, v⟩ := field
      rw [List.foldl_cons, ih, List.reverse_cons, List.lookup_append, Option.or_assoc]
      congr 1
      by_cases hk : name = k
      · rw [hk, Json.lookup_put]
        simp
      · rw [Json.lookup_put_ne v env hk]
        have hne : (name == k) = false := by simpa using hk
        simp [List.lookup_cons, hne]

/-- **A capture is put over what was captured before.** -/
theorem lookup_captureLocals (h : Host) (json name : String) :
    (h.captureLocals json).environment.lookup name =
      (Capture.valueIn name json).or (h.environment.lookup name) := by
  rw [captureLocals, Capture.valueIn, Capture.fieldsOf]
  generalize Json.parse json = parsed
  rcases parsed with _ | value
  · rfl
  · cases value with
    | obj fields => exact lookup_foldl_put name fields h.environment
    | _ => rfl

theorem OnlyTold.environment {h h' : Host} (t : OnlyTold h h') : h'.environment = h.environment := by
  obtain ⟨_, _, _, _, _, rfl⟩ := t
  rfl

theorem environment_finish (h : Host) : h.finish.environment = h.environment := by
  unfold finish
  split <;> rfl

/-- All other calls leave the variables alone, unless the run's owner takes them. -/
theorem environment_perform (h : Host) {c : Call} (hc : c.captured? = none)
    (htake : c ≠ .takeEnvironment) : (h.perform c).environment = h.environment := by
  cases c with
  | captureLocals json => cases hc
  | takeEnvironment => exact absurd rfl htake
  | enterCell index =>
      simp only [perform, enterCell]
      split
      · rfl
      · split <;> rfl
  | leaveCell scope =>
      simp only [perform, leaveCell]
      split <;> rfl
  | schedule now id delay repeats =>
      simp only [perform, schedule]
      split <;> rfl
  | cellEnded index =>
      simp only [perform, cellEnded]
      split <;> rfl
  | write channel text => exact (h.onlyTold_write channel text).environment
  | display json kind => exact (h.onlyTold_display json kind).environment
  | report cell? e => exact (h.onlyTold_report cell? e).environment
  | fail cell? message stack =>
      exact (environment_finish _).trans (h.onlyTold_report cell? _).environment
  | finish => exact h.environment_finish
  | _ => rfl

/-- After a list of calls, a variable has the value of the last text that holds it. -/
theorem lookup_after (h : Host) (calls : List Call) (htake : .takeEnvironment ∉ calls) (name : String) :
    (h.after calls).environment.lookup name =
      (Capture.valueAfter name (calls.filterMap Call.captured?)).or (h.environment.lookup name) := by
  induction calls generalizing h with
  | nil => rfl
  | cons c calls ih =>
      rw [List.mem_cons, not_or] at htake
      rw [after_cons, ih _ htake.2]
      cases hc : c.captured? with
      | none => rw [List.filterMap_cons_none hc, environment_perform h hc (Ne.symm htake.1)]
      | some text =>
          have hcall : c = .captureLocals text := by
            cases c with
            | captureLocals json =>
                cases hc
                rfl
            | _ => cases hc
          rw [List.filterMap_cons_some hc, hcall, perform, lookup_captureLocals, ← List.singleton_append,
            Capture.valueAfter_append, Capture.valueAfter_singleton, Option.or_assoc]

end Host

namespace Actor

/-! ### The variables of a run -/

/-- What a program captures while it plays a part of its script. -/
def captured (script : List (Option Turn)) : List String :=
  script.flatMap fun t? => (t?.map Turn.calls).getD [] |>.filterMap Host.Call.captured?

theorem captured_append (a b : List (Option Turn)) : captured (a ++ b) = captured a ++ captured b :=
  List.flatMap_append

/-- The variables of a run are those that were captured in the part of its script that was played. -/
def Remembers (script : List (Option Turn)) (x : Session Actor) : Prop :=
  ∃ played, script = played ++ x.state.script ∧
    ∀ name, x.state.host.environment.lookup name = Capture.valueAfter name (captured played)

namespace Remembers

variable {script : List (Option Turn)} {x y : Session Actor}

/-- What neither plays the script nor touches the variables. -/
theorem keeps (hx : Remembers script x) (hscript : y.state.script = x.state.script)
    (henvironment : y.state.host.environment = x.state.host.environment) : Remembers script y := by
  obtain ⟨played, hplayed, hvalues⟩ := hx
  exact ⟨played, by rw [hscript, hplayed], fun name => by rw [henvironment, hvalues]⟩

theorem tell (hx : Remembers script x) {f : Host → Host} {c : Host.Call} (hc : c.captured? = none)
    (htake : c ≠ .takeEnvironment) (hf : f x.state.host = x.state.host.perform c) :
    Remembers script (x.tell guest f) :=
  hx.keeps rfl ((congrArg Host.environment hf).trans (Host.environment_perform _ hc htake))

/-- One turn of the script, or one that has nothing to do. -/
theorem plays (hx : Remembers script x) {t : Option Turn} {rest : List (Option Turn)}
    (hscript : x.state.script = t :: rest) (hrest : y.state.script = rest)
    (henvironment : y.state.host.environment = (x.state.host.after
      (((t.map Turn.calls).getD []).filter Host.Call.isBinding)).environment) :
    Remembers script y := by
  obtain ⟨played, hplayed, hvalues⟩ := hx
  refine ⟨played ++ [t], by rw [hplayed, hscript, hrest]; simp, fun name => ?_⟩
  have htake : Host.Call.takeEnvironment ∉
      ((t.map Turn.calls).getD []).filter Host.Call.isBinding := fun hmem =>
    Bool.false_ne_true (List.mem_filter.1 hmem).2
  -- Captures are among the calls that a program can make.
  have hsame : (((t.map Turn.calls).getD []).filter Host.Call.isBinding).filterMap
      Host.Call.captured? = captured [t] := by
    rw [captured, List.flatMap_singleton, List.filterMap_filter]
    refine congrArg (fun f => List.filterMap f _) (funext fun c => ?_)
    cases c <;> rfl
  rw [henvironment, Host.lookup_after _ _ htake, hsame, hvalues, captured_append,
    Capture.valueAfter_append]

theorem warn (hx : Remembers script x) (text : String) :
    Remembers script (x.tellOwner guest [.warning text]) :=
  hx.keeps rfl rfl

theorem flush (hx : Remembers script x) : Remembers script (x.flush guest) := hx.keeps rfl rfl

theorem actOrFail (hx : Remembers script x) : Remembers script (x.change Actor.actOrFail) := by
  obtain ⟨⟨host, clock, files, rest, rejected, stuck?, ended⟩, notices⟩ := x
  cases rest with
  | nil => exact hx
  | cons t? rest =>
      cases t? with
      | none => exact hx.plays (t := none) rfl rfl rfl
      | some t =>
          obtain ⟨calls, nanoseconds, fault?, failure?, rejected'⟩ := t
          cases fault? with
          | some fault => exact hx.plays rfl rfl rfl
          | none =>
              cases failure? with
              | none => exact hx.plays rfl rfl rfl
              | some failure =>
                  refine hx.plays rfl rfl ?_
                  exact Host.environment_perform _ (c := .fail none failure.1 failure.2) rfl (by simp)

theorem job (hx : Remembers script x) : Remembers script ⟨(Actor.job x.state).2, x.notices⟩ := by
  obtain ⟨⟨host, clock, files, rest, rejected, stuck?, ended⟩, notices⟩ := x
  cases rest with
  | nil => exact hx
  | cons t? rest => cases t? <;> exact hx.plays rfl rfl rfl

theorem capture (hx : Remembers script x) : Remembers script (x.change Actor.capture) := by
  obtain ⟨⟨host, clock, files, rest, rejected, stuck?, ended⟩, notices⟩ := x
  cases rest with
  | nil => exact hx
  | cons t? rest =>
      cases t? with
      | none => exact hx.plays (t := none) rfl rfl rfl
      | some t =>
          obtain ⟨calls, nanoseconds, fault?, failure?, rejected'⟩ := t
          cases fault? <;> exact hx.plays rfl rfl rfl

theorem settle (hx : Remembers script x) : Remembers script (x.settle guest) :=
  Session.Settled.settle ⟨job, fun text hy => hy.warn text,
    fun message stack hy => hy.tell (c := .fail none message stack) rfl (by simp) rfl,
    fun hy => hy.keeps rfl rfl⟩ hx

/-- A cell that has drained: its variables are captured by a turn of the script. -/
theorem endCell (hx : Remembers script x) (index : Nat) : Remembers script (x.endCell guest index) := by
  rw [Session.endCell]
  split
  · exact hx
  · dsimp only
    split
    · exact hx.capture
    · exact hx.capture.tell (c := .cellEnded index) rfl (by simp) rfl

theorem endCells (hx : Remembers script x) : Remembers script (x.endCells guest) := by
  refine Session.endCells_keeps (P := Remembers script) (hx.keeps rfl rfl)
    (fun i _ y hy => hy.endCell i) (fun y hy => hy) fun y hy => hy.keeps rfl ?_
  change (if y.state.host.isDone then y.state.host.finish else y.state.host).environment = _
  split
  · exact y.state.host.environment_finish
  · rfl

/-! #### Rounds -/

theorem runTask (hx : Remembers script x) (task : ReadyTask) :
    Remembers script (x.runTask guest task) := by
  have hrun : Remembers script
      ((x.tell guest fun h => h.setCurrent task.id).change (guest.task task.id)) :=
    (hx.tell (c := .setCurrent task.id) rfl (by simp) rfl).actOrFail
  rw [Session.runTask]
  generalize (x.tell guest fun h => h.setCurrent task.id).change (guest.task task.id) = z at hrun ⊢
  split
  · exact hrun
  · have hsettled := hrun.settle
    dsimp only
    generalize z.settle guest = y at hsettled ⊢
    refine hsettled.keeps rfl ?_
    -- Whether or not the task is scheduled again, the variables are not concerned.
    cases task.repeats with
    | false => rfl
    | true =>
        cases hagain : (y.state.host.scheduler.reschedule (guest.clock y.state) task.id).2 <;>
          simp only [Session.tell, Session.ask, guest, if_true] at hagain ⊢ <;>
          simp only [hagain] <;> rfl

theorem stall (hx : Remembers script x) : Remembers script (x.stall guest) :=
  Remembers.tell (c := .finish) (hx.warn _) rfl (by simp) rfl

theorem next (hx : Remembers script x) : Remembers script (x.next guest) :=
  Session.next_keeps (P := Remembers script) (hx.keeps rfl rfl) (fun _ task hy => hy.runTask task)
    (fun _ hy => hy) (fun _ _ hy => hy.keeps rfl rfl) fun _ hy => hy.stall

/-- **A round of the driver.** -/
theorem round : Session.Round guest (Remembers script) (Remembers script) where
  settle := settle
  flush := flush
  look := id
  endCells hx _ := hx.endCells
  next := next
  last := id
  again hx _ := hx

/-- **All rounds.** -/
theorem rounds (hx : Remembers script x) (n : Nat) : Remembers script (x.rounds guest n) :=
  round.rounds n hx

end Remembers

/-! ### From the first call to the report -/

/-- Nothing was captured before the run begins. -/
theorem environment_prepare (e : Evaluation) (cells : List Cell) (files : FileTree) :
    (e.prepare cells files).2.1.environment = [] := by
  have hinstall : ∀ (cs : List Cell) (files : FileTree) (h : Host),
      (e.install cs files h).2.environment = h.environment := by
    intro cs
    induction cs with
    | nil => exact fun _ _ => rfl
    | cons c cs ih =>
        intro files h
        rw [Evaluation.install, List.foldl_cons]
        dsimp only
        cases e.installer files e.project c.source with
        | ok files' => exact ih files' h
        | error failure => exact (ih files _).trans (h.onlyTold_report _ _).environment
  have hdiagnostics : ∀ (ds : List Diagnostic) (h : Host),
      (Evaluation.reportDiagnostics ds h).environment = h.environment := by
    intro ds
    induction ds with
    | nil => exact fun _ => rfl
    | cons d ds ih => exact fun h => (ih _).trans (h.onlyTold_report _ _).environment
  exact (hdiagnostics _ _).trans (hinstall cells files _)

variable (e : Evaluation) (cells : List Cell) (files : FileTree) (unreadable? : Option RawError)
  (script : List (Option Turn))

/-- The whole run, until it has been finished and everything was handed out. -/
theorem remembers_session :
    Remembers script (e.session (runner unreadable? script) cells files) := by
  have hnone := environment_prepare e cells files
  generalize hprepared : e.prepare cells files = prepared at hnone
  obtain ⟨files', h, g⟩ := prepared
  have hstart : Remembers script
      (Session.flush guest ⟨(runner unreadable? script).start h files', #[]⟩) := by
    refine Remembers.flush ⟨[], rfl, fun name => ?_⟩
    change h.environment.lookup name = none
    rw [hnone]
    rfl
  have hlaunched : Remembers script
      (((Session.flush guest ⟨(runner unreadable? script).start h files', #[]⟩).tell guest
        Host.begin).change (launch unreadable?)) := by
    have hbegun := hstart.tell (f := Host.begin) (c := .begin) rfl (by simp) rfl
    cases unreadable? with
    | none => exact hbegun.actOrFail
    | some error =>
        refine hbegun.keeps rfl ?_
        exact (Host.environment_finish _).trans (Host.onlyTold_report _ _ _).environment
  rw [session_of_prepare e cells files unreadable? script hprepared rfl]
  refine (Remembers.tell (c := .finish) ?_ rfl (by simp) rfl).flush
  cases g.text? with
  | none => exact hstart
  | some text =>
      dsimp only
      split
      · exact hlaunched
      · exact hlaunched.rounds _

/-- **The last capture decides.**  Whatever a program does each time it is given control, and in whatever
order its cells drain: whichever cells its captures are of, a variable has at the end of the run the value
of the last capture that holds it, and no value if there is none.  If a capture of some cell holds the
variable, the value is that of this cell or of a later one just if every capture of an earlier cell that
holds it is followed by one of this cell or of a later one; a slow earlier cell that is captured last puts
its own value back. -/
theorem last_capture_decides (hproject : files.isDirectory e.project = true) :
    ∃ played, script = played ++
      (e.session (runner unreadable? script) (cells.filter Cell.isCode) files).state.script ∧
      ∀ captures : List Capture, captures.map Capture.text = captured played → ∀ name,
        let environment := (e.reportWith (runner unreadable? script) cells files).environment
        environment.lookup name = (Capture.last? name captures).bind (Capture.value? name) ∧
        ∀ c ∈ captures, c.holds name = true → ∃ d ∈ captures,
          Capture.last? name captures = some d ∧ environment.lookup name = d.value? name ∧
          (c.cell ≤ d.cell ↔ ∀ before early after, captures = before ++ early :: after →
            early.holds name = true → early.cell < c.cell →
              ∃ late ∈ after, late.holds name = true ∧ c.cell ≤ late.cell) := by
  obtain ⟨played, hplayed, hvalues⟩ :=
    remembers_session e (cells.filter Cell.isCode) files unreadable? script
  refine ⟨played, hplayed, fun captures hcaptures name => ?_⟩
  have hreport : (e.reportWith (runner unreadable? script) cells files).environment =
      (e.session (runner unreadable? script) (cells.filter Cell.isCode) files).state.host.environment := by
    rw [Evaluation.reportWith, hproject]
    rfl
  have hvalue := hvalues name
  rw [← hcaptures, Capture.valueAfter_eq_last, ← hreport] at hvalue
  refine ⟨hvalue, fun c hc hholds => ?_⟩
  obtain ⟨d, hd⟩ := Capture.exists_last hc hholds
  obtain ⟨before, after, hsplit, -, -⟩ := (Capture.last?_eq_some_iff name captures d).1 hd
  refine ⟨d, by rw [hsplit]; simp, hd, ?_, Capture.le_last_iff hd c.cell⟩
  rw [hvalue, hd]
  rfl

/-- A program of two cells that declare a variable of the same name.  Both are captured at the end of
their texts.  When they have drained, only the first one still holds the variable. -/
def shadowed : List (Option Turn) :=
  [some ⟨[.enterCell 0, .captureLocals "\x7b\"x\":1\x7d", .enterCell 1,
      .captureLocals "\x7b\"x\":2\x7d", .leaveCell 3, .leaveCell 2, .endText], 0, none, none, []⟩, none,
    some ⟨[.captureLocals "\x7b\"x\":1\x7d"], 0, none, none, []⟩,
    some ⟨[.captureLocals "\x7b\x7d"], 0, none, none, []⟩]

/-- The captures of that program, with their cells. -/
def shadowedCaptures : List Capture :=
  [⟨0, "\x7b\"x\":1\x7d"⟩, ⟨1, "\x7b\"x\":2\x7d"⟩, ⟨0, "\x7b\"x\":1\x7d"⟩, ⟨1, "\x7b\x7d"⟩]

/-- The cells of that program. -/
def shadowedCells : List Cell := [⟨some "a", .code, some ""⟩, ⟨some "b", .code, some ""⟩]

/-- The value at the end is that of the first cell, although the second one was captured with its own. -/
theorem shadowed_put_back : FileTree.empty.isDirectory plainEvaluation.project = true ∧
    shadowedCaptures.map (fun c => (c.cell, c.value? "x")) =
      [(0, some (.int 1)), (1, some (.int 2)), (0, some (.int 1)), (1, none)] ∧
    (plainEvaluation.reportWith (runner none shadowed) shadowedCells .empty).environment.lookup "x" =
      some (.int 1) := by
  have hproject : FileTree.empty.isDirectory plainEvaluation.project = true := by decide +kernel
  obtain ⟨played, hplayed, hdecides⟩ :=
    last_capture_decides plainEvaluation shadowedCells .empty none shadowed hproject
  have hrest : (plainEvaluation.session (runner none shadowed) (shadowedCells.filter Cell.isCode)
      .empty).state.script = [] := by rfl
  rw [hrest, List.append_nil] at hplayed
  have hcaptures : shadowedCaptures.map Capture.text = captured played := by
    rw [← hplayed]
    rfl
  exact ⟨hproject, by rfl, (hdecides shadowedCaptures hcaptures "x").1.trans (by rfl)⟩

end Actor

end NotebookEngine
