import Slipway.Command
import Slipway.Disk.Basic

/-!
# The world

Model of `Executor` (`keel_core::process`), `Confirm` and `CancelFlag` (`keel_core::interact`). A
release runs programs and asks an operator. A `World` says how they react; what it remembers is its
state. While it reacts, or while the release works on the files, the operator may ask the release to
stop.
-/

namespace Slipway

/-- The reaction to a command: its output or why it could not be launched, the disk afterwards,
whether the release was asked to stop meanwhile, and the state of the world. -/
structure Reaction (σ : Type) where
  result : Except String CommandOutput
  disk : Disk
  stop : Bool
  state : σ

/-- The reply to a question. -/
structure Reply (σ : Type) where
  yes : Bool
  stop : Bool
  state : σ

/-- `Executor`: programs that react to commands, and an operator who answers questions. -/
structure World (σ : Type) where
  launch : Command → Disk → σ → Reaction σ
  ask : String → σ → Reply σ
  /-- Whether the operator asks the release to stop while it copies and updates the files. -/
  stopsWork : σ → Bool := fun _ => false

end Slipway
