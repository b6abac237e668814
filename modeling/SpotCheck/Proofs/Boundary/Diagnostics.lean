import Mathlib.Data.List.Induction
import SpotCheck.Proofs.Boundary.Slots
import SpotCheck.Proofs.Text

/-!
# Diagnostics of threads

Every call that can fail returns the message of its failure, without zero bytes, and no diagnostic
when it succeeds. A thread finds the message that it was given last, whatever the other threads do
and however many calls have succeeded since. At the end of the thread its slot goes: from then on
it finds nothing, and a failure is reported to it by a fixed text.
-/

namespace SpotCheck

/-! ### Messages without zeros -/

namespace Boundary

/-- The diagnostic that a call has returned to a thread. -/
def Event.reported? (thread : Thread) (e : Event) : Option String :=
  if e.thread = thread then e.returned.reported? else none

/-- What happens to the library from outside: a call, or the end of a thread. -/
inductive Moment where
  | call (i : Invocation)
  | ends (thread : Thread)

def Moment.ended? : Moment → Option Thread
  | call _ => none
  | ends thread => some thread

/-- The threads that have ended. -/
def ended (moments : List Moment) : List Thread := moments.filterMap Moment.ended?

namespace Library

/-! ### Threads that end -/

def pass (lib : Library) : Moment → Library × Option Event
  | .call i => ((lib.invoke i).1, some (lib.invoke i).2)
  | .ends thread => (lib.tearDown thread, none)

/-- The calls that were made, with what each has returned. -/
def events (lib : Library) : List Moment → List Event
  | [] => []
  | m :: moments => (lib.pass m).2.toList ++ events (lib.pass m).1 moments

end Library

end Boundary

end SpotCheck
