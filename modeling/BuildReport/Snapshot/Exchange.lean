import BuildReport.Marker.Exchange
import BuildReport.Snapshot

/-!
# Snapshots as JSON

A snapshot is written as an object with one member, the list of its files. Each file is a pair of
its path and the list of its markers.

- `Snapshot.toJson`: the written form.
-/

namespace BuildReport

namespace Snapshot

/-- A file and its markers. -/
def fileToJson (file : Trail × List Marker) : Json :=
  .array [.string file.1.path.text, .array (file.2.map Marker.toJson)]

/-- The written form of a snapshot. -/
def toJson (s : Snapshot) : Json :=
  .object [("files", .array (s.files.map fileToJson))]

end Snapshot

end BuildReport
