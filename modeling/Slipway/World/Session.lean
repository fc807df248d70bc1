import Slipway.World.Basic

/-!
# Sessions

Model of what `ReleaseOrchestrator::execute` (`keel_core::release`) does through `Executor`
(`keel_core::process`), `Confirm` and `CancelFlag` (`keel_core::interact`). A `Session` is a release
at work in a world: the disk, the state of the world, whether the release was asked to stop, and the
record of what was launched and asked.
-/

namespace Slipway

/-- Something that went to the world: a question with its answer, or a command with the disk on
which it was launched and what came of it. -/
inductive Event where
  | asked (question : String) (yes stop : Bool)
  | launched (command : Command) (disk : Disk) (result : Except String CommandOutput) (stop : Bool)

/-- A release at work. The events are in the order in which they happened. -/
structure Session (σ : Type) where
  disk : Disk
  world : σ
  stopped : Bool
  events : List Event

namespace Session

variable {σ : Type}

/-- A session in which nothing has happened. -/
def start (disk : Disk) (world : σ) : Session σ := ⟨disk, world, false, []⟩

/-- The commands that were launched, each with its disk. -/
def launches (s : Session σ) : List (Command × Disk) :=
  s.events.filterMap fun e =>
    match e with
    | .launched command disk _ _ => some (command, disk)
    | .asked _ _ _ => none

/-- The questions that were asked. -/
def questions (s : Session σ) : List String :=
  s.events.filterMap fun e =>
    match e with
    | .asked question _ _ => some question
    | .launched _ _ _ _ => none

/-- `Executor::execute`: launches a command. -/
def launch (w : World σ) (c : Command) (s : Session σ) :
    Except String CommandOutput × Session σ :=
  let r := w.launch c s.disk s.world
  (r.result,
    ⟨r.disk, r.state, s.stopped || r.stop, s.events ++ [.launched c s.disk r.result r.stop]⟩)

/-- `Confirm::confirm`: asks the operator. -/
def ask (w : World σ) (question : String) (s : Session σ) : Bool × Session σ :=
  let r := w.ask question s.world
  (r.yes, ⟨s.disk, r.state, s.stopped || r.stop, s.events ++ [.asked question r.yes r.stop]⟩)

/-- Works on the files, which leaves them as on the given disk. -/
def work (w : World σ) (disk : Disk) (s : Session σ) : Session σ :=
  { s with disk := disk, stopped := s.stopped || w.stopsWork s.world }

end Session

end Slipway
