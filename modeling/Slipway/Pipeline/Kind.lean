/-!
# Step kinds

Model of `StepKind` and `Reach` (`keel_core::pipeline`). The kinds of step that a release runs, in
the order of the pipeline, and how far the effect of each escapes the working tree.
-/

namespace Slipway

/-- `Reach`: how far the effect of a step escapes the working tree. -/
inductive Reach where
  /-- Build products only. -/
  | worktree
  /-- The repository on this machine: commits and tags. -/
  | repository
  /-- Visible to others; restoring files does not undo it. -/
  | world
  deriving DecidableEq, Repr

/-- `StepKind`: the kinds of step, in pipeline order. -/
inductive StepKind where
  | test
  | build
  | deploy
  | stage
  | commit
  | tag
  | pushCommits
  | pushTags
  | publish
  deriving DecidableEq, Repr

namespace StepKind

/-- The kinds in pipeline order. -/
def all : List StepKind :=
  [.test, .build, .deploy, .stage, .commit, .tag, .pushCommits, .pushTags, .publish]

/-- `StepKind::fmt`: the name of a kind. -/
def name : StepKind → String
  | .test => "test"
  | .build => "build"
  | .deploy => "deploy"
  | .stage => "stage"
  | .commit => "commit"
  | .tag => "tag"
  | .pushCommits => "push"
  | .pushTags => "push-tags"
  | .publish => "publish"

/-- The kind of a name. -/
def ofName? (name : String) : Option StepKind := all.find? fun k => k.name = name

/-- `StepKind::reach`: how far the effect of a kind escapes. -/
def reach : StepKind → Reach
  | .test | .build | .stage => .worktree
  | .commit | .tag => .repository
  | .deploy | .pushCommits | .pushTags | .publish => .world

end StepKind

end Slipway
