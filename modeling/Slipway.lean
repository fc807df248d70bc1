import Slipway.Cli.Run
import Slipway.Main
import Slipway.Proofs.Changelog.Releases
import Slipway.Proofs.Release.Preview
import Slipway.Proofs.Release.Rollback
import Slipway.Proofs.Release.Stop
import Slipway.World.Script
import Slipway.Proofs.Release.Course
import Slipway.Proofs.Release.Account
import Slipway.Proofs.Release.Effects
import Slipway.Proofs.Artifact.Fold
import Slipway.Proofs.Release.Files
import Slipway.Proofs.Artifact.Substitute
import Slipway.Proofs.Version.Source
import Slipway.Proofs.Disk.Tree
import Slipway.Proofs.Release.Classes
import Slipway.Proofs.Release.Leftover
import Slipway.Proofs.Vault.Confined
import Slipway.Proofs.Release.Confined
import Slipway.Proofs.Release.Notes
import Slipway.Proofs.Changelog.Reading
import Slipway.Proofs.Cli.Readiness
import Slipway.Proofs.Changelog.Chain
import Slipway.Proofs.Vault.RoundTrip
import Slipway.Proofs.Disk.Below
import Slipway.Proofs.Release.Staged
import Slipway.Proofs.Release.Runnable
import Slipway.Proofs.Vault.Traces
import Slipway.Proofs.Regex.Search
import Slipway.Proofs.Artifact.Pieces
import Slipway.Proofs.Artifact.Standalone
import Slipway.Proofs.Changelog.LineEnds
import Slipway.Proofs.Changelog.Elision
import Slipway.Proofs.Shell.CommandLine
import Slipway.Proofs.Version.Grammar
import Slipway.Proofs.Version.Precedence
import Slipway.Proofs.Version.Bump
import Slipway.Proofs.Repository.Tags
import Slipway.Proofs.Config.Nearest
import Slipway.Proofs.Diff.Compact
import Slipway.Proofs.Text.ComparedLines
import Slipway.Proofs.Diff.Lines
import Slipway.Proofs.Changelog.Entry
import Slipway.Proofs.Changelog.Range
