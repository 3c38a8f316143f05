import ArchDiagram.Decimal.Digits
import ArchDiagram.Web.Fault

/-!
# Snapshots of a repository

A run reads three facts about a repository: the name of its default branch, the list of its files
and its README.
-/

namespace ArchDiagram

structure Snapshot where
  branch : String
  /-- The paths of the files, one a line. -/
  fileTree : String
  readme : String
  deriving DecidableEq

inductive SnapshotError where
  | notFound (message : String)
  | emptyListing
  | missingReadme
  /-- The host answers with a status that is no success. -/
  | unsuccessful (status : Nat) (body : String)
  | decode (message : String)
  | transport (fault : Web.Fault)
  deriving DecidableEq

def SnapshotError.message : SnapshotError → String
  | notFound m => m
  | emptyListing =>
    "Could not fetch repository file tree. Repository might be empty or inaccessible."
  | missingReadme => "No README found for the specified repository."
  | unsuccessful status body =>
    "GitHub request failed (" ++ Decimal.text status ++ "): " ++ body
  | decode m => "GitHub returned an unreadable payload: " ++ m
  | transport fault => "http error: " ++ fault.message

end ArchDiagram
