import LineLint.Path
import LineLint.Text.Search

/-! # What kind of file a name stands for

Two rules depend on the role of a file, which is read off its name: server code has a marker
anywhere in its path, a package manifest has one of the manifest names as its last component.
Backslashes count as slashes when the last component is sought. -/

namespace LineLint

/-- The markers and names that give a file its role. -/
structure Classifier where
  serverMarkers : List String := ["server"]
  manifestNames : List String := ["package.json"]
  deriving DecidableEq, Repr

namespace Classifier

/-- Whether a path holds a marker of server code. -/
def isServer (c : Classifier) (file : String) : Bool :=
  Text.containsAny c.serverMarkers file.toList

/-- The path with slashes for backslashes. -/
def withSlashes (file : String) : String :=
  String.ofList (file.toList.map fun c => if c = '\\' then '/' else c)

/-- Whether the last component of a path is the name of a manifest. -/
def isManifest (c : Classifier) (file : String) : Bool :=
  c.manifestNames.contains (Path.parse (withSlashes file)).name

end Classifier

end LineLint
