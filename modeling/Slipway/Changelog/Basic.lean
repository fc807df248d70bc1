import Slipway.Changelog.Section
import Slipway.Changelog.Elision
import Slipway.Changelog.Link
import Slipway.Date
import Slipway.Diff.Lines
import Slipway.Error

/-!
# Changelogs

Model of `ChangelogLedger` (`keel_core::changelog`). A `Changelog` is the text of a changelog
together with the prefix of release tags. The pending section holds what the next release brings;
`Changelog.promote` turns it into the section of a version and opens a new pending section above it.
-/

namespace Slipway

/-- `ChangelogLedger`: the text of a changelog, and the prefix of the tags that its links name. -/
structure Changelog where
  text : String
  tagPrefix : String
  deriving DecidableEq, Repr

namespace Changelog

/-- `TEMPLATE_SUBSECTIONS`: the subsections of a new pending section. -/
def template : List String := ["Added", "Changed", "Deprecated", "Removed", "Fixed", "Security"]

/-- `find_section`: the first section of a label. -/
def find? (c : Changelog) (label : String) : Option Section :=
  Section.find? label.toList (Text.keptLines c.text.toList)

/-- The pending section. -/
def pending? (c : Changelog) : Option Section := c.find? pendingLabel

/-- `pending_entry`: the body of the pending section, trimmed. -/
def pendingEntry? (c : Changelog) : Option String :=
  c.pending?.map fun s => String.ofList (Text.trim s.bodyText)

/-- `pending_content_len`: the number of characters in the entry of the pending section. -/
def pendingLength? (c : Changelog) : Option Nat :=
  c.pending?.map fun s => (elide s.bodyText).length

/-- `validate_pending`: the pending section exists and its entry has at least `min` characters. -/
def isReady (c : Changelog) (min : Nat) : Bool :=
  match c.pendingLength? with
  | some n => min ≤ n
  | none => false

/-- `check_pending`: refuses a changelog whose pending section is missing or too short. -/
def checkReady (c : Changelog) (min : Nat) : Except ReleaseError Unit :=
  if c.isReady min then .ok () else .error (.pendingTooShort (c.pendingLength?.getD 0) min)

/-- `extract_entry`: the entry of a released version, if there is one that is not empty. -/
def entry? (c : Changelog) (version : Version) : Option String := do
  let entry := elide (← c.find? version.text).bodyText
  if entry = [] then none else some (String.ofList entry)

/-- The line end of a heading. -/
def lineEndOf (heading : List Char) : List Char :=
  match heading.reverse with
  | '\n' :: '\r' :: _ => ['\r', '\n']
  | _ => ['\n']

/-- The lines that replace the heading of the pending section: a new pending section with empty
subsections, and the heading of the version. -/
def openedHeading (nl : List Char) (version date : String) : List Char :=
  s!"## [{pendingLabel}]".toList ++ nl ++ nl
    ++ (template.flatMap fun name => s!"### {name}".toList ++ nl) ++ nl
    ++ s!"## [{version}] - {date}".toList ++ nl

/-- `ChangelogLedger::load`: reads the changelog at a path. -/
def load (disk : Disk) (path tagPrefix : String) : Except ReleaseError Changelog :=
  if disk.pathExists path then (ofDisk (disk.readText path)).map fun text => ⟨text, tagPrefix⟩
  else .error (.changelogMissing path)

variable [Regex.SizeLimit]

/-- `promote_pending`: the text after the pending section has been released as a version. -/
def promote (c : Changelog) (version : Version) (date : Date) : Except ReleaseError String :=
  if (c.find? version.text).isSome then .error (.duplicateSection version.text)
  else
    match c.pending? with
    | none => .error (.sectionNotFound pendingLabel)
    | some s =>
      let opened :=
        s.before.flatten ++ openedHeading (lineEndOf s.heading) version.text date.text
          ++ s.body.flatten ++ s.rest.flatten
      (CompareLink.rewrite c.tagPrefix.toList version.text.toList opened).map String.ofList

/-- `preview_promotion`: the lines that a promotion changes. -/
def previewPromotion (c : Changelog) (version : Version) (date : Date) :
    Except ReleaseError (List Diff.Change) :=
  (c.promote version date).map fun text => Diff.lineDiff c.text text

end Changelog

end Slipway
