/-!
# Restore reports

Model of `RestoreReport` (`keel_core::backup`). What became of each captured file when a backup was
copied back.
-/

namespace Slipway

/-- `RestoreReport`: the outcome of copying a backup back. It lists the files that hold their
captured bytes again, those without a copy, and those that could not be written, with the reason. -/
structure RestoreReport where
  restored : List String
  skipped : List String
  failed : List (String × String)
  deriving DecidableEq, Repr, Inhabited

namespace RestoreReport

/-- A report about no file. -/
def empty : RestoreReport := ⟨[], [], []⟩

/-- `RestoreReport::is_complete`: no copy failed. -/
def complete (r : RestoreReport) : Bool := r.failed.isEmpty

end RestoreReport

end Slipway
