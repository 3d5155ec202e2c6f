import Sitework.Bundle.Export

/-!
# Notices

What a person is told about the outcome of an export.
-/

namespace Sitework

/-- Whether something went well. -/
inductive NoticeLevel where
  | success | failure
deriving DecidableEq, Repr, Inhabited

/-- A message to a person. -/
structure Notice where
  /-- Whether it tells of a success. -/
  level : NoticeLevel
  /-- The text. -/
  message : String
deriving DecidableEq, Repr, Inhabited

/-- What is told about the export of a site. -/
def Notice.ofExport (site : Site) : Except ExportError ExportedSite → Notice
  | .ok _ => ⟨.success, "Exported " ++ site.name⟩
  | .error reason => ⟨.failure, "Export failed: " ++ reason.message⟩

end Sitework
