/-
**The two output streams of the process.**

While a run holds the streams, what is written becomes events of the notebook; otherwise it passes
through to the process.

Main definitions:

* `Channel` — which stream a text is written to;
* `Streams` — whether the streams are held, how often they were released, what passed through.
-/

set_option autoImplicit false

namespace NotebookEngine

/-- The streams of a process. -/
inductive Channel where
  | output
  | error
  deriving DecidableEq, Inhabited

/-- The stream of a name: every name but one means the output stream. -/
def Channel.ofName (name : String) : Channel := if name = "stderr" then .error else .output

/-- The state of the streams. -/
structure Streams where
  /-- Whether a run holds the streams. -/
  captured : Bool
  /-- How often they were released. -/
  releases : Nat
  /-- What passed through to the output stream. -/
  output : String
  /-- What passed through to the error stream. -/
  errors : String
  deriving DecidableEq, Inhabited

namespace Streams

/-- Streams that nothing was done to. -/
def fresh : Streams := ⟨false, 0, "", ""⟩

/-- Hold the streams. -/
def acquire (s : Streams) : Streams := { s with captured := true }

/-- Release the streams. -/
def release (s : Streams) : Streams := { s with captured := false, releases := s.releases + 1 }

/-- Let a text pass through. -/
def passThrough (s : Streams) (channel : Channel) (text : String) : Streams :=
  match channel with
  | .output => { s with output := s.output ++ text }
  | .error => { s with errors := s.errors ++ text }

/-- Take what has passed through so far: to the output stream and to the error stream. -/
def take (s : Streams) : (String × String) × Streams :=
  ((s.output, s.errors), { s with output := "", errors := "" })

end Streams

end NotebookEngine
