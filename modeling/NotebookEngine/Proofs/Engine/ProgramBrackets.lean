/-
**The brackets of a running program.**

Two functions of the library enter cells and switch operations on behalf of a program: one runs a
continuation under the operation that has waited for it, the other runs a cell.  Both close the bracket that
they open, whether what runs in between gives a value or throws one, and go on from there; so if nothing in
between has left a bracket open, nothing has.  There is one exception: a cell whose text throws is left only
after the error was told, and if that throws in its turn, the cell is not left.

The machine carries out what the driver asks of a program: jobs, tasks and captures.  A program can also
switch operations by itself, and it can run until a bound is met, in the middle of a bracket.  So which
machines are possible has to be said: those that come to an end whenever the driver asks for something, with
all brackets closed, and are possible again.  That the brackets within are closed follows from the above.

Main definitions:

* `Engine.Library.handled` — what runs under an operation;
* `Engine.Library.inCell`, `Engine.Library.watchCell` — what is done in a cell, and about its promise once
  it was left;
* `Engine.Machine.Closes` — the machine carries something out and closes the brackets that it opens;
* `Engine.Machine.Bracketed` — machines that do so whatever the driver asks for;
* `Engine.Machine.Relays` — machines that know only continuations with nothing to run.

Main results:

* `Engine.Library.runUnder_nests` — **a continuation switches back to the operation that it found**;
* `Engine.Library.runCell_nests` — **a cell is left once its text has run**;
* `Engine.Machine.takes_runCell`, `Engine.Machine.takes_continuation` — the machine runs a cell, and a
  continuation, and closes the bracket;
* `Engine.Machine.Bracketed.nests` — **such machines leave no bracket open**;
* `Engine.Machine.Bracketed.runTask` — a task of such a machine gives way to the root operation;
* `Engine.Machine.Relays.bracketed` — a program of continuations is such a machine.
-/

import NotebookEngine.Engine.Running
import NotebookEngine.Proofs.Engine.Actions
import NotebookEngine.Proofs.Run.Brackets

set_option autoImplicit false

namespace NotebookEngine

namespace Engine

open Act

/-- The state with another host. -/
def World.withHost (w : World) (host : Host) : World := { w with host }

namespace Library

variable (r : Answerer) (w : World)

/-- What runs under an operation: a function, or what stands for it where there is none. -/
def handled (handler : Value) (rejects : Bool) (v : Value) : Act Value := do
  if ← isCallable handler then call handler .undefined [v]
  else if rejects then throw v
  else pure v

/-- **A continuation switches back to the operation that it found**, whatever it comes to. -/
theorem runUnder_nests (op : Nat) (handler : Value) (rejects : Bool) (v : Value) :
    (∀ k, runUnder op handler rejects v r w k =
      handled handler rejects v r (w.withHost (w.host.setCurrent op)) fun o w' =>
        k o (w'.withHost ((w'.host.setCurrent w.host.current).endOperation op))) ∧
    ∀ h, (w.host.setCurrent op).Nested h →
      w.host.Nested ((h.setCurrent w.host.current).endOperation op) :=
  ⟨fun _ => rfl, fun _ hn => (Host.Nested.under hn).perform (c := .endOperation op) rfl⟩

/-- Telling the operation of a cell what becomes of the cell's promise. -/
def watchCell (promise cell : Value) (op : Nat) : Act Unit := do
  let fulfilled ← newNative (.cellSettled op cell false) 1
  let rejected ← newNative (.cellSettled op cell true) 1
  let _ ← nativeThen (← resolvedPromise promise) fulfilled rejected

/-- What is done in a cell that was entered, and after it was left. -/
def inCell (cell body : Value) (scope : Nat) : Act Unit := do
  match ← outcome (call body .undefined []) with
  | .error e =>
    failWith e cell
    tellHost fun h => h.leaveCell scope
  | .ok promise =>
    let op ← beginOperation promiseKind
    tellHost fun h => h.leaveCell scope
    watchCell promise cell op

/-- **A cell is left once its text has run**: after an error was told, or when the operation that waits for
its promise has begun.  What follows then runs outside of the cell. -/
theorem runCell_nests (index cell body : Value) :
    let entered := w.host.enterCell ((operationOf index).getD 0)
    (entered.1 = none → ∀ k, runCell index cell body r w k = k (.ok ()) w) ∧
    ∀ scope, entered.1 = some scope →
      (∀ k, runCell index cell body r w k =
        call body .undefined [] r (w.withHost entered.2) fun
          | .error e, w' => failWith e cell r w' fun
            | .ok _, w'' => k (.ok ()) (w''.withHost (w''.host.leaveCell scope))
            | .error e', w'' => k (.error e') w''
          | .ok promise, w' => watchCell promise cell w'.host.nextOperation r
              (w'.withHost ((w'.host.beginOperation promiseKind).2.leaveCell scope)) k) ∧
      ∀ h, entered.2.Nested h →
        w.host.Nested (h.leaveCell scope) ∧
          w.host.Nested ((h.beginOperation promiseKind).2.leaveCell scope) := by
  intro entered
  have hrun : ∀ k, runCell index cell body r w k =
      entered.1.elim (pure ()) (inCell cell body) r (w.withHost entered.2) k := by
    intro k
    simp only [runCell, askHost, Act.update, bind, Act.bind]
    cases (w.host.enterCell ((operationOf index).getD 0)).1 <;> rfl
  refine ⟨fun hnone k => ?_, fun scope hscope => ⟨fun k => ?_, fun h hn => ⟨?_, ?_⟩⟩⟩
  · rw [hrun, hnone, Host.enterCell_none hnone]
    rfl
  · rw [hrun, hscope]
    refine congrArg (call body .undefined [] r (w.withHost entered.2)) ?_
    funext o w'
    cases o with
    | ok promise => rfl
    | error e =>
        refine congrArg (failWith e cell r w') ?_
        funext o' w''
        cases o' <;> rfl
  · exact .cell hscope hn
  · exact .cell hscope (hn.perform (c := .beginOperation promiseKind) rfl)

end Library

/-! ### What the machine carries out -/

namespace Machine

open Library

variable {r : Answerer} {m m' m'' : Machine} {n n' : Nat}

/-- The machine with another host. -/
def withHost (m : Machine) (host : Host) : Machine := ⟨m.world.withHost host, m.suspended⟩

/-- The machine runs a continuation in as many steps as what runs in it. -/
theorem takes_runUnder {op : Nat} {handler v : Value} {rejects : Bool} {o : Except Value Value}
    (hrun : (handled handler rejects v).Takes r (m.withHost (m.world.host.setCurrent op)) n o m') :
    (runUnder op handler rejects v).Takes r m n o
      (m'.withHost ((m'.world.host.setCurrent m.world.host.current).endOperation op)) := by
  intro fuel k waiting
  rw [(runUnder_nests r m.world op handler rejects v).1]
  exact hrun fuel _ waiting

/-- **The machine runs a cell and leaves it**: if its text gives a promise and what is done in the cell and
after it closes its brackets, all are closed. -/
theorem takes_runCell {index cell body promise : Value} {scope : Nat} {o : Except Value Unit}
    (hscope : (m.world.host.enterCell ((operationOf index).getD 0)).1 = some scope)
    (hbody : (call body .undefined []).Takes r
      (m.withHost (m.world.host.enterCell ((operationOf index).getD 0)).2) n (.ok promise) m')
    (hwithin : (m.world.host.enterCell ((operationOf index).getD 0)).2.Nested m'.world.host)
    (hwatch : (watchCell promise cell m'.world.host.nextOperation).Takes r
      (m'.withHost ((m'.world.host.beginOperation promiseKind).2.leaveCell scope)) n' o m'')
    (hafter : ((m'.world.host.beginOperation promiseKind).2.leaveCell scope).Nested m''.world.host) :
    (runCell index cell body).Takes r m (n' + n) o m'' ∧ m.world.host.Nested m''.world.host := by
  obtain ⟨hrun, hnested⟩ := (runCell_nests r m.world index cell body).2 scope hscope
  refine ⟨fun fuel k waiting => ?_, (hnested _ hwithin).2.trans hafter⟩
  rw [hrun, ← Nat.add_assoc]
  exact (hbody (fuel + n') _ waiting).trans (hwatch fuel k waiting)

/-- The machine runs a cell whose text throws, and leaves it if the error can be told. -/
theorem takes_runCell_error {index cell body e : Value} {scope : Nat}
    (hscope : (m.world.host.enterCell ((operationOf index).getD 0)).1 = some scope)
    (hbody : (call body .undefined []).Takes r
      (m.withHost (m.world.host.enterCell ((operationOf index).getD 0)).2) n (.error e) m')
    (htold : (failWith e cell).Takes r m' n' (.ok ()) m'')
    (hwithin : (m.world.host.enterCell ((operationOf index).getD 0)).2.Nested m''.world.host) :
    let left := m''.withHost (m''.world.host.leaveCell scope)
    (runCell index cell body).Takes r m (n' + n) (.ok ()) left ∧ m.world.host.Nested left.world.host := by
  obtain ⟨hrun, hnested⟩ := (runCell_nests r m.world index cell body).2 scope hscope
  refine ⟨fun fuel k waiting => ?_, (hnested _ hwithin).1⟩
  rw [hrun, ← Nat.add_assoc]
  exact (hbody (fuel + n') _ waiting).trans (htold fuel _ waiting)

/-! ### Jobs, tasks and captures -/

/-- The machine before something is carried out that nothing else has called. -/
def idle (m : Machine) : Machine := ⟨{ m.world with frames := [], depth := 0 }, m.suspended⟩

/-- Carrying out a job. -/
def carryJob (j : Job) : Act Value := do
  runJob j
  pure .undefined

/-- Telling the parts of an error. -/
def tellError (e : Value) : Act Value := do
  let parts ← errorParts e
  newArray [.string parts.1, .string parts.2]

/-- The machine carries something out and is possible afterwards; all brackets are closed then, and again
once the parts of an error were told. -/
structure Closes (possible : Machine → Prop) (m : Machine) (x : Act Value) : Prop where
  stays : possible (m.perform Realm.initial.answers x).2
  nested : m.world.host.Nested (m.perform Realm.initial.answers x).2.world.host
  told : ∀ e, (m.perform Realm.initial.answers x).1 = some (.error e) →
    let m' := (m.perform Realm.initial.answers x).2
    possible (m'.perform Realm.initial.answers (tellError e)).2 ∧
      m'.world.host.Nested (m'.perform Realm.initial.answers (tellError e)).2.world.host

/-- Machines that close their brackets, whatever the driver asks for.  They stay possible whatever becomes of
their host, their clock and what was rejected. -/
structure Bracketed (possible : Machine → Prop) : Prop where
  outside : ∀ {m : Machine}, possible m → ∀ host clock rejections,
    possible ⟨{ m.world with host, clock, rejections }, m.suspended⟩
  job : ∀ {m : Machine} {j : Job} {w : World}, possible m → takeJob m.world = (some j, w) →
    Closes possible (idle ⟨w, m.suspended⟩) (carryJob j)
  task : ∀ {m : Machine} (id : Nat), possible m →
    Closes possible m.idle (callGlobal "__ember_run" [.ofNat id])
  capture : ∀ {m : Machine} (index : Nat), possible m →
    Closes possible m.idle (callGlobal "__ember_capture" [.ofNat index])

/-- What comes to a value in steps that can be counted. -/
theorem closes_of_takes {possible : Machine → Prop} {x : Act Value} {v : Value}
    (hx : x.Takes (answerer Realm.initial.answers nesting) m n (.ok v) m') (hn : n < endless)
    (hpossible : possible m') (hnested : m.world.host.Nested m'.world.host) : Closes possible m x := by
  have hperform := perform_of_takes hx hn
  refine ⟨by rwa [hperform], by rwa [hperform], fun e he => ?_⟩
  rw [hperform] at he
  cases he

/-- **The machine calls a continuation and closes its bracket**, if what runs in it closes its own. -/
theorem takes_continuation {f op : Nat} {handler v : Value} {rejects constructs : Bool} {o : Except Value Value}
    (hkind : (m.world.object f).kind = .function (.native (.underOperation op handler rejects)) constructs)
    (hdepth : m.world.depth < depthLimit)
    (hrun : (handled handler rejects v).Takes (answerer Realm.initial.answers (nesting - 1))
      ((m.calling ⟨functionName (m.world.object f), none, default, []⟩).withHost
        (m.world.host.setCurrent op)) n o m')
    (hnested : (m.world.host.setCurrent op).Nested m'.world.host) :
    let after := m.calledBack
      (m'.withHost ((m'.world.host.setCurrent m.world.host.current).endOperation op))
    (call (.object f) .undefined [v]).Takes (answerer Realm.initial.answers nesting) m (n + 1) o after ∧
      m.world.host.Nested after.world.host := by
  intro after
  obtain ⟨-, hcloses⟩ :=
    runUnder_nests (answerer Realm.initial.answers nesting) m.world op handler rejects v
  have hcall : (call (.object f) .undefined [v]).Takes (answerer Realm.initial.answers nesting) m (n + 1) o _ :=
    takes_call_native hkind hdepth (takes_runUnder hrun)
  exact ⟨hcall, hcloses _ hnested⟩

/-- A job calls a function with what a promise was settled with; nobody waits for what it gives. -/
theorem closes_reaction {possible : Machine → Prop} {f : Ref} {v rejected : Value} {o : Except Value Value}
    (hcall : (call (.object f) .undefined [v]).Takes (answerer Realm.initial.answers nesting) m n o m')
    (hn : n < endless) (hpossible : possible m') (hnested : m.world.host.Nested m'.world.host) :
    Closes possible m (carryJob (.react (.handlers none (.object f) rejected) (.ok v))) := by
  -- Whatever the function comes to, the job comes to nothing.
  have hjob : (carryJob (.react (.handlers none (.object f) rejected) (.ok v))).Takes
      (answerer Realm.initial.answers nesting) m n (.ok .undefined) m' :=
    fun fuel k waiting => (hcall fuel _ waiting).trans (by cases o <;> rfl)
  exact closes_of_takes hjob hn hpossible hnested

/-- The next job is taken from the state, and nothing else. -/
theorem takeJob_cases (w : World) :
    takeJob w = (none, w) ∨ ∃ j jobs laterJobs, takeJob w = (some j, { w with jobs, laterJobs }) ∧
      j :: (jobs ++ laterJobs) ⊆ w.jobs ++ w.laterJobs := by
  rw [takeJob]
  split
  next j jobs hjobs =>
    refine .inr ⟨j, jobs, w.laterJobs, rfl, ?_⟩
    rw [hjobs]
    exact List.Subset.refl _
  next hjobs =>
    split
    next j jobs hlater =>
      refine .inr ⟨j, jobs, [], rfl, fun x hx => ?_⟩
      rw [List.append_nil, ← hlater] at hx
      exact List.mem_append_right _ (List.mem_reverse.1 hx)
    next => exact .inl rfl

/-- Asking for the parts of an error leads where telling them does: what is read of the answer afterwards
changes nothing. -/
theorem partsOf_snd (e : Value) (m : Machine) :
    (m.partsOf e).2 = (m.perform Realm.initial.answers (tellError e)).2 := by
  simp only [partsOf]
  split
  · split <;> rfl
  · rfl

namespace Bracketed

variable {possible : Machine → Prop}

/-- What the driver asks for after something was carried out. -/
theorem failureOf {x : Act Value} (hx : Closes possible m x) :
    let performed := m.perform Realm.initial.answers x
    possible (performed.2.failureOf performed.1).2 ∧
      m.world.host.Nested (performed.2.failureOf performed.1).2.world.host := by
  intro performed
  cases ho : performed.1 with
  | none => exact ⟨hx.stays, hx.nested⟩
  | some o =>
    cases o with
    | ok v => exact ⟨hx.stays, hx.nested⟩
    | error e =>
        obtain ⟨hpossible, hnested⟩ := hx.told e ho
        simp only [Machine.failureOf, partsOf_snd]
        exact ⟨hpossible, hx.nested.trans hnested⟩

theorem orFail (h : Bracketed possible) {x : Act Value} (hx : Closes possible m x) :
    let performed := m.perform Realm.initial.answers x
    possible (performed.2.orFail performed.1) ∧
      m.world.host.Nested (performed.2.orFail performed.1).world.host := by
  intro performed
  obtain ⟨hpossible, hnested⟩ := failureOf hx
  simp only [Machine.orFail]
  split
  next message stack m' hfailed =>
    rw [hfailed] at hpossible hnested
    exact ⟨h.outside hpossible _ _ _, hnested.perform (c := .fail none message stack) rfl⟩
  next m' hfailed =>
    rw [hfailed] at hpossible hnested
    exact ⟨hpossible, hnested⟩

theorem runsJob (h : Bracketed possible) (hm : possible m) :
    possible m.job.2 ∧ m.world.host.Nested m.job.2.world.host := by
  rcases takeJob_cases m.world with hnone | ⟨j, jobs, laterJobs, hjob, -⟩
  · have hsame : m.job.2 = m := by simp only [Machine.job, hnone]
    rw [hsame]
    exact ⟨hm, .refl _⟩
  · obtain ⟨hpossible, hnested⟩ := failureOf (h.job hm hjob)
    have hrun : m.job.2 =
        (let taken := idle ⟨{ m.world with jobs, laterJobs }, m.suspended⟩
        let performed := taken.perform Realm.initial.answers (carryJob j)
        (performed.2.failureOf performed.1).2) := by
      simp only [Machine.job, hjob]
      rfl
    rw [hrun]
    exact ⟨hpossible, hnested⟩

/-- **Machines that close their brackets leave none open when they give control back.** -/
theorem nests (h : Bracketed possible) : guest.Nests (fun m => m.world.host) possible where
  onHost _ _ hm := ⟨h.outside hm _ _ _, rfl⟩
  waitUntil _ _ hm := ⟨h.outside hm _ _ _, rfl⟩
  takeRejections hm := ⟨h.outside hm _ _ _, rfl⟩
  job hm := h.runsJob hm
  task id _ hm := h.orFail (h.task id hm)
  capture i _ hm := ⟨(h.capture i hm).stays, (h.capture i hm).nested⟩

/-- **A task of such a machine gives way to the root operation**, and if nothing was to be returned to before
it, nothing is. -/
theorem runTask (h : Bracketed possible) {x : Session Machine} (hx : possible x.state)
    (hsaved : x.state.world.host.saved = []) (task : ReadyTask) :
    (x.runTask guest task).state.world.host.saved = [] ∧
      ((x.runTask guest task).isStuck guest = false →
        (x.runTask guest task).state.world.host.current = rootOperation) := by
  have hstands : x.Stands (fun m => m.world.host) possible x.state.world.host.current [] :=
    ⟨hx, rfl, hsaved⟩
  obtain ⟨last, hrun, hlast⟩ := hstands.runTask h.nests task
  exact ⟨hrun.saved, fun hgo => hrun.current.trans (hlast hgo)⟩

end Bracketed

/-! ### A program of continuations -/

/-- The driver calls the function that it finds. -/
theorem takes_callGlobal {name : String} {arguments : List Value} {f : Ref} {p : Property} {writable : Bool}
    {o : Except Value Value} (hfind : m.world.find (.text name) 10000 Wellknown.global.ref = .property p)
    (hp : p.content = .value (.object f) writable) (hf : (m.world.object f).isCallable = true)
    (hcall : (call (.object f) .undefined arguments).Takes r m n o m') :
    (callGlobal name arguments).Takes r m n o m' := by
  have hget := takes_getText (r := r) hfind hp
  have hcallable : (isCallable (.object f)).Takes r m 0 (.ok true) m := hf ▸ takes_read _
  rw [callGlobal]
  exact hget.outcome.bind (hcallable.bind hcall)

/-- A function that runs nothing under an operation: it passes on what it is given. -/
def IsRelay (w : World) (f : Ref) : Prop :=
  ∃ op constructs, (w.object f).kind = .function (.native (.underOperation op .undefined false)) constructs

/-- A machine that knows such functions only: its jobs call them, and the driver finds them. -/
structure Relays (m : Machine) : Prop where
  jobs : ∀ j ∈ m.world.jobs ++ m.world.laterJobs, ∃ f rejected v, IsRelay m.world f ∧
    j = .react (.handlers none (.object f) rejected) (.ok v)
  global : (m.world.object Wellknown.global.ref).kind = .plain
  tools : ∀ name ∈ ["__ember_run", "__ember_capture"], ∃ f, IsRelay m.world f ∧
    m.world.own? Wellknown.global.ref (.text name) = some (.plain (.object f))

namespace Relays

/-- What such a function leads to. -/
theorem takes_call {f : Ref} {w : World} (hf : IsRelay w f) (suspended : Std.HashMap Nat Suspended)
    (v : Value) :
    ∃ host, w.host.Nested host ∧ (call (.object f) .undefined [v]).Takes
      (answerer Realm.initial.answers nesting) (idle ⟨w, suspended⟩) 1 (.ok v)
      ((idle ⟨w, suspended⟩).withHost host) := by
  obtain ⟨op, constructs, hkind⟩ := hf
  let called := (idle ⟨w, suspended⟩).calling ⟨functionName (w.object f), none, default, []⟩
  -- There is no function to call, so the value is passed on at once.
  have hrun : (handled .undefined false v).Takes (answerer Realm.initial.answers (nesting - 1))
      (called.withHost (w.host.setCurrent op)) 0 (.ok v) (called.withHost (w.host.setCurrent op)) :=
    fun _ _ _ => rfl
  obtain ⟨hcall, hnested⟩ :=
    takes_continuation (m := idle ⟨w, suspended⟩) hkind (Nat.succ_pos _) hrun (.refl _)
  exact ⟨_, hnested, hcall⟩

theorem withHost {m : Machine} (hm : m.Relays) (host : Host) : (m.idle.withHost host).Relays :=
  ⟨hm.jobs, hm.global, hm.tools⟩

/-- The driver calls such a function. -/
theorem closes_tool {m : Machine} (hm : m.Relays) {name : String}
    (hname : name ∈ ["__ember_run", "__ember_capture"]) (v : Value) :
    Closes Relays m.idle (callGlobal name [v]) := by
  obtain ⟨f, hf, hown⟩ := hm.tools name hname
  obtain ⟨host, hnested, hcall⟩ := takes_call hf m.suspended v
  have hcallable : (m.world.object f).isCallable = true := by
    obtain ⟨op, constructs, hkind⟩ := hf
    rw [Object.isCallable, hkind]
  have hfind : m.idle.world.find (.text name) 10000 Wellknown.global.ref = .property (.plain (.object f)) := by
    refine World.find_own (fun _ _ _ hproxy => ?_) hown
    cases hm.global.symm.trans hproxy
  exact closes_of_takes (takes_callGlobal hfind rfl hcallable hcall) (by decide) (hm.withHost host) hnested

/-- **A program of continuations leaves no bracket open.** -/
theorem bracketed : Bracketed Relays where
  outside hm _ _ _ := ⟨hm.jobs, hm.global, hm.tools⟩
  job := by
    intro m j w hm hjob
    rcases takeJob_cases m.world with hnone | ⟨next, jobs, laterJobs, htaken, hkept⟩
    · cases hnone.symm.trans hjob
    · obtain ⟨hj, rfl⟩ := Prod.ext_iff.1 (htaken.symm.trans hjob)
      cases hj
      rw [List.cons_subset] at hkept
      obtain ⟨f, rejected, v, hf, rfl⟩ := hm.jobs _ hkept.1
      obtain ⟨host, hnested, hcall⟩ :=
        takes_call (w := { m.world with jobs, laterJobs }) hf m.suspended v
      have hrest : Relays ⟨{ m.world with jobs, laterJobs }, m.suspended⟩ :=
        ⟨fun x hx => hm.jobs x (hkept.2 hx), hm.global, hm.tools⟩
      exact closes_reaction hcall (by decide) (hrest.withHost host) hnested
  task _ hm := hm.closes_tool (List.mem_cons_self ..) _
  capture _ hm := hm.closes_tool (List.mem_cons_of_mem _ (List.mem_cons_self ..)) _

example : Relays ⟨{ (default : World) with
    heap := (Array.replicate Wellknown.global.ref
      (.make none (.function (.native (.underOperation 3 .undefined false)) false))).push
      { Object.make none .plain with properties :=
          #[(.text "__ember_run", .plain (.object 0)), (.text "__ember_capture", .plain (.object 0))] }
    jobs := [.react (.handlers none (.object 0) .undefined) (.ok .undefined)] }, ∅⟩ where
  jobs := List.forall_mem_singleton.2 ⟨0, .undefined, .undefined, ⟨3, false, rfl⟩, rfl⟩
  global := rfl
  tools := by
    rw [List.forall_mem_cons, List.forall_mem_singleton]
    exact ⟨⟨0, ⟨3, false, rfl⟩, by cbv⟩, ⟨0, ⟨3, false, rfl⟩, by cbv⟩⟩

end Relays

end Machine

end Engine

end NotebookEngine
