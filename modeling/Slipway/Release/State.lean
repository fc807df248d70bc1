import Slipway.Pipeline.Kind

/-!
# Release states

Model of `ReleaseState` (`keel_core::release`). How far a release has come. A release passes its
states in their order and may leave some out.
-/

namespace Slipway

/-- `ReleaseState`: how far a release has come. -/
inductive ReleaseState where
  | init
  | versionComputed
  | changelogValidated
  | backedUp
  | filesMutated
  | tested
  | built
  | deployed
  | committed
  | tagged
  | pushed
  | published
  | done
  deriving DecidableEq, Repr

namespace ReleaseState

/-- The states in their order. -/
def all : List ReleaseState :=
  [.init, .versionComputed, .changelogValidated, .backedUp, .filesMutated, .tested, .built,
   .deployed, .committed, .tagged, .pushed, .published, .done]

/-- The number of a state in their order. -/
def rank : ReleaseState → Nat
  | .init => 0
  | .versionComputed => 1
  | .changelogValidated => 2
  | .backedUp => 3
  | .filesMutated => 4
  | .tested => 5
  | .built => 6
  | .deployed => 7
  | .committed => 8
  | .tagged => 9
  | .pushed => 10
  | .published => 11
  | .done => 12

instance : LT ReleaseState := ⟨fun a b => a.rank < b.rank⟩

instance : LE ReleaseState := ⟨fun a b => a.rank ≤ b.rank⟩

instance (a b : ReleaseState) : Decidable (a < b) := inferInstanceAs (Decidable (a.rank < b.rank))

instance (a b : ReleaseState) : Decidable (a ≤ b) := inferInstanceAs (Decidable (a.rank ≤ b.rank))

/-- `ReleaseState::fmt`: the name of a state. -/
def name : ReleaseState → String
  | .init => "init"
  | .versionComputed => "version computed"
  | .changelogValidated => "changelog validated"
  | .backedUp => "backed up"
  | .filesMutated => "files mutated"
  | .tested => "tested"
  | .built => "built"
  | .deployed => "deployed"
  | .committed => "committed"
  | .tagged => "tagged"
  | .pushed => "pushed"
  | .published => "published"
  | .done => "done"

/-- `ReleaseState::after`: the state that a step of a kind leads to, if it leads to one. -/
def after? : StepKind → Option ReleaseState
  | .test => some .tested
  | .build => some .built
  | .deploy => some .deployed
  | .commit => some .committed
  | .tag => some .tagged
  | .pushTags => some .pushed
  | .publish => some .published
  | .stage | .pushCommits => none

/-- `ReleaseContext::advance`: the state after a step of a kind has succeeded. -/
def advance (s : ReleaseState) (kind : StepKind) : ReleaseState := (after? kind).getD s

end ReleaseState

end Slipway
