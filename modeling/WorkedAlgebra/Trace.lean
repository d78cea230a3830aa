import WorkedAlgebra.Fault

/-!
Traces: the worked steps of a computation in order. A step is added at the end and none is ever
taken away. A computation that fails keeps what it noted before it failed.
-/

namespace WorkedAlgebra

structure Trace where
  lines : List String := []
deriving DecidableEq, Repr, Inhabited

namespace Trace

def push (trace : Trace) (step : String) : Trace := ⟨trace.lines ++ [step]⟩

def length (trace : Trace) : Nat := trace.lines.length

def isEmpty (trace : Trace) : Bool := trace.lines.isEmpty

end Trace

abbrev Traced := ExceptT SolveError (StateM Trace)

namespace Traced

variable {β : Type}

/-- The result, and the trace with what was noted on the way. -/
def run (x : Traced β) (trace : Trace) : Except SolveError β × Trace :=
  StateT.run (ExceptT.run x) trace

def push (step : String) : Traced Unit := modify (·.push step)

def pushAll (steps : List String) : Traced Unit := steps.forM push

end Traced
end WorkedAlgebra
