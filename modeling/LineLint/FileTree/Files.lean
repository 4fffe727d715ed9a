import LineLint.FileTree

/-! # The files below a directory

`filesBelow` lists the files of a directory and of the directories in it, in the order of their
paths. It goes down only through real directories whose name the caller lets it enter; the
directory it starts from may itself be a link and have any name. A directory whose path is too long
cannot be opened, and what stands in it is passed over. A link counts as a file unless it leads to
a directory, so links that lead nowhere are listed. -/

namespace LineLint.FileTree

/-- Whether an entry that stands at the end of a path is a directory or a link that leads to one. -/
def leadsToDirectory (t : FileTree) (cwd : Location) (path : Path) : Entry → Bool
  | .directory => true
  | .file _ => false
  | .link _ => match t.isDirectory cwd path with
    | .ok found => found
    | .error _ => false

/-- The names that lead from a directory down to a location, if it lies below. -/
def namesBelow? (top location : Location) : Option (List String) :=
  if top.isPrefixOf location && top.length < location.length then
    some (location.drop top.length)
  else none

/-- The path of a row of the tree, if that is a wanted file below the place where `top` leads. -/
def pathBelow? (t : FileTree) (cwd here : Location) (top : Path) (enters wanted : String → Bool)
    (row : Location × Entry) : Option Path := do
  let names ← namesBelow? here row.1
  let name ← names.getLast?
  let path : Path := { top with parts := top.parts ++ names }
  guard (names.dropLast.all enters && wanted name && !t.leadsToDirectory cwd path row.2 &&
    decide (path.parent.toString.utf8ByteSize < maxPathBytes))
  return path

/-- The wanted files below a path, sorted. -/
def filesBelow (t : FileTree) (cwd : Location) (top : Path) (enters wanted : String → Bool) :
    List Path :=
  match t.locate cwd top with
  | .ok ⟨here, some .directory⟩ =>
    (t.toList.filterMap (t.pathBelow? cwd here top enters wanted)).mergeSort Path.le
  | _ => []

end LineLint.FileTree
