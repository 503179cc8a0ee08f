/-
**What actions come to.**

An action is told by the outcome that it comes to and the state that it leaves, whatever comes after it.
The machine may carry it on in between, where it pauses; nothing else happens there.  Actions that are put
together come to what their parts come to one after the other.  Where functions are suspended meanwhile, or
go on, the machine takes more than pauses; then its steps are counted.

The properties of an object that stands in for no other are found without asking anyone.  So a property
that holds a value is read without running any part of a program.

Main definitions:

* `Engine.Process.Leads` — the machine carries one process on to another;
* `Engine.Act.Ends` — what an action comes to;
* `Engine.Act.Takes` — what an action comes to in so many steps of the machine.

Main results:

* `Engine.Machine.exists_run_of_leads` — **the machine does so**;
* `Engine.Machine.perform_of_takes` — what the machine gives when it carries an action out;
* `Engine.takes_call_native` — calling a function that was made while the program runs;
* `Engine.ends_getFrom`, `Engine.ends_getFrom_absent` — reading a property that holds a value, or none.
-/

import NotebookEngine.Engine.Machine

set_option autoImplicit false

namespace NotebookEngine

namespace Engine

/-! ### Processes -/

/-- The machine carries the one process on to the other, past pauses. -/
inductive Process.Leads : Process → Process → Prop
  | here (p : Process) : Leads p p
  | pause {w : World} {next : World → Process} {q : Process} (h : Leads (next w) q) :
      Leads (.pause w next) q

theorem Process.Leads.trans {p q s : Process} (h : p.Leads q) (h' : q.Leads s) : p.Leads s := by
  induction h with
  | here p => exact h'
  | pause _ ih => exact .pause (ih h')

/-- **The machine carries the process on.** -/
theorem Machine.exists_run_of_leads {p q : Process} (h : p.Leads q) :
    ∃ steps, ∀ fuel waiting table, run (fuel + steps) p waiting table = run fuel q waiting table := by
  induction h with
  | here p => exact ⟨0, fun _ _ _ => rfl⟩
  | pause _ ih =>
      obtain ⟨steps, hsteps⟩ := ih
      exact ⟨steps + 1, fun fuel waiting table => hsteps fuel waiting table⟩

/-! ### Actions -/

namespace Act

variable {α β : Type} {r : Answerer} {w w' w'' : World}

/-- The action comes to the outcome and leaves the state `w'`, whatever comes after it. -/
def Ends (x : Act α) (r : Answerer) (w : World) (o : Except Value α) (w' : World) : Prop :=
  ∀ k, (x r w k).Leads (k o w')

theorem ends_pure (a : α) : (pure a : Act α).Ends r w (.ok a) w := fun _ => .here _

theorem ends_read (f : World → α) : (read f).Ends r w (.ok (f w)) w := fun _ => .here _

theorem ends_change (f : World → World) : (change f).Ends r w (.ok ()) (f w) := fun _ => .here _

theorem ends_pause : Act.pause.Ends r w (.ok ()) w := fun _ => .pause (.here _)

/-- One action after another. -/
theorem Ends.bind {x : Act α} {f : α → Act β} {a : α} {o : Except Value β} (hx : x.Ends r w (.ok a) w')
    (hf : (f a).Ends r w' o w'') : (x >>= f).Ends r w o w'' :=
  fun k => (hx _).trans (hf k)

/-- What comes after an action that throws is passed over. -/
theorem Ends.bind_error {x : Act α} {e : Value} (hx : x.Ends r w (.error e) w') (f : α → Act β) :
    (x >>= f).Ends r w (.error e) w' :=
  fun _ => hx _

theorem Ends.outcome {x : Act α} {o : Except Value α} (hx : x.Ends r w o w') :
    (Act.outcome x).Ends r w (.ok o) w' := fun k => hx fun o w => k (.ok o) w

end Act

open Act

variable {r : Answerer} {w w' w'' : World}

/-! ### Carrying actions out -/

/-- The machine with one call more in progress. -/
def Machine.calling (m : Machine) (a : Activation) : Machine :=
  ⟨{ m.world with frames := a :: m.world.frames, depth := m.world.depth + 1 }, m.suspended⟩

/-- The machine that a call leads to, with the calls that were in progress before. -/
def Machine.calledBack (m m' : Machine) : Machine :=
  ⟨{ m'.world with frames := m.world.frames, depth := m.world.depth }, m'.suspended⟩

namespace Act

variable {α β : Type} {r : Answerer} {m m' m'' : Machine} {n n' : Nat}

/-- The machine carries the action out in so many steps, whatever comes after it and whoever waits: it comes
to the outcome and leaves another state and other suspended functions. -/
def Takes (x : Act α) (r : Answerer) (m : Machine) (steps : Nat) (o : Except Value α) (m' : Machine) :
    Prop :=
  ∀ fuel k waiting, Machine.run (fuel + steps) (x r m.world k) waiting m.suspended =
    Machine.run fuel (k o m'.world) waiting m'.suspended

theorem takes_pure (a : α) : (pure a : Act α).Takes r m 0 (.ok a) m := fun _ _ _ => rfl

theorem takes_read (f : World → α) : (read f).Takes r m 0 (.ok (f m.world)) m := fun _ _ _ => rfl

/-- The steps of an action come after those of the action before it. -/
theorem Takes.bind {x : Act α} {f : α → Act β} {a : α} {o : Except Value β}
    (hx : x.Takes r m n (.ok a) m') (hf : (f a).Takes r m' n' o m'') : (x >>= f).Takes r m (n' + n) o m'' := by
  intro fuel k waiting
  rw [← Nat.add_assoc]
  exact (hx (fuel + n') _ waiting).trans (hf fuel k waiting)

theorem Takes.outcome {x : Act α} {o : Except Value α} (hx : x.Takes r m n o m') :
    (Act.outcome x).Takes r m n (.ok o) m' :=
  fun fuel k waiting => hx fuel (fun o w => k (.ok o) w) waiting

/-- A call in progress takes one step more, and gives way to those that were in progress before. -/
theorem Takes.inCall {x : Act α} {o : Except Value α} {a : Activation} (hdepth : m.world.depth < depthLimit)
    (hx : x.Takes r (m.calling a) n o m') : (Engine.inCall a x).Takes r m (n + 1) o (m.calledBack m') := by
  intro fuel k waiting
  have hwithin : ¬ m.world.depth ≥ depthLimit := Nat.not_le_of_lt hdepth
  simp only [Engine.inCall, Bind.bind, Act.bind, Act.read]
  rw [if_neg hwithin]
  exact hx fuel _ waiting

end Act

/-- **What the machine gives when it carries an action out.** -/
theorem Machine.perform_of_takes {answers : Array Answer} {m m' : Machine} {x : Act Value} {n : Nat}
    {o : Except Value Value} (hx : x.Takes (answerer answers nesting) m n o m') (hn : n < endless) :
    m.perform answers x = (some o, m') := by
  obtain ⟨fuel, hfuel⟩ : ∃ fuel, endless = fuel + 1 + n := ⟨endless - n - 1, by omega⟩
  rw [perform, hfuel]
  exact hx (fuel + 1) .finish []

/-- A function that was made while the program runs does what it was made for. -/
theorem takes_call_native {answers : Array Answer} {depth n : Nat} {m m' : Machine} {f : Ref} {native : Native}
    {constructs : Bool} {this : Value} {arguments : List Value} {o : Except Value Value}
    (hkind : (m.world.object f).kind = .function (.native native) constructs)
    (hdepth : m.world.depth < depthLimit)
    (hx : (Library.callNative native arguments).Takes (answerer answers depth)
      (m.calling ⟨functionName (m.world.object f), none, default, []⟩) n o m') :
    (call (.object f) this arguments).Takes (answerer answers (depth + 1)) m (n + 1) o (m.calledBack m') := by
  intro fuel k waiting
  have hany : ∀ k, callAny answers (.object f) this arguments (answerer answers depth) m.world k =
      callEntry (m.world.object f) (Library.callNative native arguments) (answerer answers depth) m.world k := by
    intro k
    simp only [callAny, object, bind, Act.bind, Act.read, hkind]
  simp only [call, request, bind, Act.bind, answerer, answer]
  rw [hany, callEntry, hx.inCall hdepth]
  cases o <;> rfl

/-! ### Repetition -/

section Loops

variable {α β : Type} {f : α → Act (Except α β)} {a a' : α} {b : β}

/-- The last round of a loop. -/
theorem ends_loopFor_last {n : Nat} (h : (f a).Ends r w (.ok (.ok b)) w') :
    (loopFor f (n + 1) a).Ends r w (.ok b) w' := h.bind (ends_pure b)

/-- A round of a loop that goes on. -/
theorem ends_loopFor_next {n : Nat} {o : Except Value β} (h : (f a).Ends r w (.ok (.error a')) w')
    (hrest : (loopFor f n a').Ends r w' o w'') : (loopFor f (n + 1) a).Ends r w o w'' :=
  h.bind (ends_pause.bind hrest)

/-- A loop that is over after one round. -/
theorem ends_loop_last (h : (f a).Ends r w (.ok (.ok b)) w') : (loop a f).Ends r w (.ok b) w' := by
  have hendless : endless = (Nat.pow 2 62 - 1) + 1 := rfl
  rw [loop, hendless]
  exact ends_loopFor_last h

end Loops

/-! ### The heap -/

theorem ends_object (ref : Ref) : (object ref).Ends r w (.ok (w.object ref)) w := ends_read _

theorem ends_modifyObject (ref : Ref) (f : Object → Object) :
    (modifyObject ref f).Ends r w (.ok ()) (w.modify ref f) := ends_change _

/-- The state with a new object. -/
def World.push (w : World) (o : Object) : World := { w with heap := w.heap.push o }

theorem ends_allocate (o : Object) : (allocate o).Ends r w (.ok w.heap.size) (w.push o) := fun _ => .here _

/-- An object as a literal without properties gives it. -/
def blank : Object := .make (some Wellknown.objectPrototype.ref) .plain

theorem ends_newPlain : newPlain.Ends r w (.ok w.heap.size) (w.push blank) := ends_allocate blank

theorem World.heap_size_push (w : World) (o : Object) : (w.push o).heap.size = w.heap.size + 1 :=
  Array.size_push o

theorem World.object_push_self (w : World) (o : Object) : (w.push o).object w.heap.size = o := by
  simp [object, push]

theorem World.object_push_of_lt {ref : Ref} (h : ref < w.heap.size) (o : Object) :
    (w.push o).object ref = w.object ref := by
  simp [object, push, Array.getElem?_push_lt, h]

theorem World.heap_size_modify (w : World) (ref : Ref) (f : Object → Object) :
    (w.modify ref f).heap.size = w.heap.size :=
  Array.size_modify

theorem World.object_modify_self {ref : Ref} (h : ref < w.heap.size) (f : Object → Object) :
    (w.modify ref f).object ref = f (w.object ref) := by
  simp [object, modify, h, Array.getElem_modify_self]

theorem World.object_modify_of_ne {ref ref' : Ref} (h : ref ≠ ref') (f : Object → Object) :
    (w.modify ref f).object ref' = w.object ref' := by
  simp [object, modify, Array.getElem?_modify, h]

/-- A change of the newest object. -/
theorem World.modify_push_self (w : World) (o : Object) (f : Object → Object) :
    (w.push o).modify w.heap.size f = w.push (f o) := by
  have hheap : (w.heap.push o).modify w.heap.size f = w.heap.push (f o) := by
    refine Array.ext (by simp) fun i hi _ => ?_
    simp only [Array.size_modify, Array.size_push] at hi
    rcases Nat.lt_succ_iff_lt_or_eq.1 hi with h | rfl
    · simp [Array.getElem_modify, Array.getElem_push_lt h, Nat.ne_of_gt h]
    · simp [Array.getElem_modify_self]
  rw [modify, push, hheap]
  rfl

/-! ### Reading properties -/

theorem ends_getFrom_absent {ref : Ref} {k : Key} (h : w.find k 10000 ref = .absent) (receiver : Value) :
    (getFrom ref k receiver).Ends r w (.ok .undefined) w := by
  have hlook : (lookUp ref k).Ends r w (.ok .absent) w := h ▸ ends_read _
  rw [getFrom, show questionDepth = 999 + 1 from rfl, getWithin]
  exact hlook.bind (ends_pure _)

/-- Reading a property that holds a value. -/
theorem ends_getFrom {ref : Ref} {k : Key} {p : Property} {v : Value} {writable : Bool}
    (h : w.find k 10000 ref = .property p) (hp : p.content = .value v writable) (receiver : Value) :
    (getFrom ref k receiver).Ends r w (.ok v) w := by
  have hlook : (lookUp ref k).Ends r w (.ok (.property p)) w := h ▸ ends_read _
  have hread : (readProperty p receiver).Ends r w (.ok v) w := by
    rw [readProperty, hp]
    exact ends_pure v
  rw [getFrom, show questionDepth = 999 + 1 from rfl, getWithin]
  exact hlook.bind hread

/-- The machine takes no step to read a property that holds a value. -/
theorem takes_getText {m : Machine} {ref : Ref} {name : String} {p : Property} {v : Value} {writable : Bool}
    (h : m.world.find (.text name) 10000 ref = .property p) (hp : p.content = .value v writable) :
    (getText ref name).Takes r m 0 (.ok v) m := by
  have hlook : (lookUp ref (.text name)).Takes r m 0 (.ok (.property p)) m := h ▸ takes_read _
  have hread : (readProperty p (.object ref)).Takes r m 0 (.ok v) m := by
    rw [readProperty, hp]
    exact takes_pure v
  rw [getText, getOf, getFrom, show questionDepth = 999 + 1 from rfl, getWithin]
  exact hlook.bind hread

/-- An own property is found at once. -/
theorem World.find_own {ref : Ref} {k : Key} {p : Property} {fuel : Nat}
    (hkind : ∀ ends? callable constructs, (w.object ref).kind ≠ .proxy ends? callable constructs)
    (h : w.own? ref k = some p) : w.find k (fuel + 1) ref = .property p := by
  rw [find]
  split
  next ends? callable constructs hproxy => exact absurd hproxy (hkind _ _ _)
  next => rw [h]

end Engine

end NotebookEngine
