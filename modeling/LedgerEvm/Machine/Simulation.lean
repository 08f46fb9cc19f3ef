import LedgerEvm.Ledger.World
import LedgerEvm.Machine.Trace

namespace LedgerEvm

/-!
# Simulations

The frames of one transaction share the world, the trace and the count of steps.
An action on them may fail; a frame of the world is opened around it and closed
again whatever happens.
-/

/-- What the frames of a transaction share. -/
structure Simulation where
  world : World
  trace : Trace := Trace.off
  steps : Nat := 0

/-- An action on what the frames of a transaction share. -/
abbrev SimAction := EStateM VmError Simulation

namespace SimAction

/-- The answer of the world to a question. -/
def ask {α : Type} (question : World → Except StateError α) : SimAction α := fun simulation =>
  match question simulation.world with
  | .ok answer => .ok answer simulation
  | .error error => .error (.state error) simulation

/-- Change the world in a way that may fail; a failure changes nothing. -/
def change {α : Type} (update : World → Except VmError (α × World)) : SimAction α :=
  fun simulation =>
    match update simulation.world with
    | .ok (answer, world) => .ok answer { simulation with world }
    | .error error => .error error simulation

/--
Run an action in a frame of the world.  The frame's writes are kept when the
action's answer says so, and dropped when it does not or when the action fails.
-/
def framed {α : Type} (keeps : α → Bool) (action : SimAction α) : SimAction α :=
  fun simulation =>
    match action { simulation with world := simulation.world.push } with
    | .ok answer inner =>
        .ok answer
          { inner with
            world := if keeps answer then inner.world.commit else inner.world.revert }
    | .error error inner => .error error { inner with world := inner.world.revert }

end SimAction

end LedgerEvm
