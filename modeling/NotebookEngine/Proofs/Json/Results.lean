/-
**What readers can give.**

A reader that succeeds gives only some values, whatever it reads: a number below its bound, a record whose
fields are what the readers of the fields can give.

Main definitions:

* `Json.Reader.Ensures` — what every result of a reader satisfies.

Main results:

* `Json.Reader.ensures_natBelow` — a number that is read is below the bound;
* `Json.Reader.ensures_record` — **a record is made of what its fields can be**.
-/

import NotebookEngine.Json.Record

set_option autoImplicit false

namespace NotebookEngine

namespace Json

namespace Reader

variable {α β σ : Type} {P : α → Prop}

/-- Every result of the reader satisfies `P`. -/
def Ensures (r : Reader α) (P : α → Prop) : Prop := ∀ k a, (r k).1 = .ok a → P a

theorem ensures_pure {a : α} (h : P a) : Ensures (pure a) P := by
  intro k b hb
  cases hb
  exact h

/-- One reader after another. -/
theorem Ensures.bind {r : Reader α} {f : α → Reader β} {Q : β → Prop} (hr : Ensures r P)
    (hf : ∀ a, P a → Ensures (f a) Q) : Ensures (r >>= f) Q := by
  intro k b hb
  cases hread : r k with
  | mk result k' =>
      simp only [Bind.bind, ExceptT.bind, ExceptT.mk, StateT.bind, hread] at hb
      cases result with
      | error fault => cases hb
      | ok a => exact hf a (hr k a (by rw [hread])) k' b hb

/-- One reader after another, where the first gives anything. -/
theorem ensures_bind {r : Reader β} {f : β → Reader α} (hf : ∀ b, Ensures (f b) P) :
    Ensures (r >>= f) P :=
  Ensures.bind (P := fun _ => True) (fun _ _ _ => trivial) fun b _ => hf b

/-! ### Failures -/

theorem ensures_failLater (cause : Cause) : Ensures (failLater cause) P := nofun

theorem ensures_failHere (cause : Cause) : Ensures (failHere cause) P := nofun

theorem ensures_failNext (cause : Cause) : Ensures (failNext cause) P := nofun

/-! ### Enclosing readers -/

theorem Ensures.located {r : Reader α} (h : Ensures r P) : Ensures (located r) P := by
  intro k a ha
  refine h k a ?_
  rw [Reader.located] at ha
  split at ha
  · cases ha
  · exact ha

theorem Ensures.thenClose {r : Reader α} (h : Ensures r P) (close : Reader Unit) :
    Ensures (thenClose r close) P := by
  intro k a ha
  rw [Reader.thenClose] at ha
  split at ha
  next b k' hread =>
    exact ensures_bind (r := close) (fun _ => ensures_pure (h k b (by rw [hread]))) k' a ha
  next fault k' hread => cases ha

/-- A value of another kind is refused. -/
theorem ensures_refuse (expected : String) : Ensures (refuse expected) P := by
  have hwrong : ∀ met, Ensures (failLater (.invalidType met expected)) P := fun met =>
    ensures_failLater _
  refine Ensures.located (ensures_bind fun c => ?_)
  split
  · exact ensures_bind fun _ => ensures_bind fun _ => hwrong _
  · exact ensures_bind fun _ => ensures_bind fun _ => hwrong _
  · exact ensures_bind fun _ => ensures_bind fun _ => hwrong _
  · exact ensures_bind fun _ => ensures_bind fun _ => hwrong _
  · exact ensures_bind fun _ => ensures_bind fun _ => hwrong _
  · exact hwrong _
  · exact hwrong _
  · split
    · exact ensures_bind fun _ => hwrong _
    · exact ensures_failNext _
  · exact ensures_failNext _

/-! ### Fields -/

/-- A number that is read is below the bound. -/
theorem ensures_natBelow (bound : Nat) (kind : String) : Ensures (natBelow bound kind) (· < bound) := by
  have hint : ∀ i : Int, Ensures (if 0 ≤ i ∧ i < bound then pure i.toNat
      else failLater (.invalidValue (.int i) kind)) (· < bound) := by
    intro i
    split
    next h => exact ensures_pure (by omega)
    next => exact ensures_failLater _
  refine ensures_bind fun c => ?_
  split
  · refine Ensures.located (ensures_bind fun _ => ensures_bind fun n => ?_)
    cases n with
    | int i => exact hint i
    | float x => exact ensures_failLater _
  · split
    · refine Ensures.located (ensures_bind fun n => ?_)
      cases n with
      | int i => exact hint i
      | float x => exact ensures_failLater _
    · exact ensures_refuse kind

theorem Ensures.known {r : Reader α} (h : Ensures r P) (name : String) (seen : Option α) :
    Ensures (known name seen r) (∀ a ∈ ·, P a) := by
  rw [Reader.known]
  split
  · exact ensures_failLater _
  · refine ensures_bind fun _ => h.bind fun a ha => ensures_pure ?_
    intro b hb
    exact Option.mem_some.1 hb ▸ ha

theorem Ensures.nextItem {r : Reader α} (h : Ensures r P) (first : Bool) :
    Ensures (nextItem first r) (∀ a ∈ ·, P a) := by
  refine ensures_bind fun more => ?_
  split
  · refine h.bind fun a ha => ensures_pure ?_
    intro b hb
    exact Option.mem_some.1 hb ▸ ha
  · exact ensures_pure nofun

/-- What every field keeps is so of all fields together. -/
theorem ensures_fields {field : String → σ → Reader σ} {I : σ → Prop}
    (hfield : ∀ name s, I s → Ensures (field name s) I) (n : Nat) (first : Bool) {s : σ} (hs : I s) :
    Ensures (fields field n first s) I := by
  induction n generalizing first s with
  | zero => exact ensures_failHere _
  | succ n ih =>
      refine ensures_bind fun more => ?_
      split
      · exact ensures_bind fun name => (hfield name s hs).bind fun s' hs' => ih false hs'
      · exact ensures_pure hs

/-- **A record is made of what its fields can be**, in either of its forms. -/
theorem ensures_record {expected : String} {empty : σ} {field : String → σ → Reader σ}
    {finish : σ → Reader α} {positional : Reader α} {I : σ → Prop} (hempty : I empty)
    (hfield : ∀ name s, I s → Ensures (field name s) I) (hfinish : ∀ s, I s → Ensures (finish s) P)
    (hpositional : Ensures positional P) :
    Ensures (record expected empty field finish positional) P := by
  refine ensures_bind fun c => ?_
  split
  · exact Ensures.located (ensures_bind fun _ => hpositional.thenClose endOfList)
  · refine Ensures.located (ensures_bind fun _ => Ensures.thenClose ?_ endOfObject)
    refine ensures_bind fun n => ?_
    exact (ensures_fields hfield n true hempty).bind fun s hs => hfinish s hs
  · exact ensures_refuse expected

/-- What a whole document gives. -/
theorem Ensures.of_run_wholeDocument {r : Reader α} (h : Ensures r P) {s : String} {a : α}
    (hrun : run (wholeDocument r) s = .ok a) : P a := by
  have hdocument : Ensures (wholeDocument r) P := by
    refine h.bind fun a ha => ensures_bind fun c => ?_
    split
    · exact ensures_failNext _
    · exact ensures_pure ha
  exact hdocument _ a hrun

end Reader

end Json

end NotebookEngine
