/-! # Paths

A path is a list of names between slashes. Empty names and the name of the directory itself say
nothing, except at the end, where what they follow must be a directory; a leading slash is the name
of the root.
-/

namespace GuidedJson.Text

/-- The names of a path that say something. -/
def pathNames (s : String) : List String := (s.splitOn "/").filter fun n => n ≠ "" && n ≠ "."

/-- What a path starts with: one slash or two, which are kept apart, or none. -/
def pathRoot (s : String) : String :=
  match s.toList with
  | '/' :: '/' :: '/' :: _ => "/"
  | '/' :: '/' :: _ => "//"
  | '/' :: _ => "/"
  | _ => ""

/-- A path in its shortest spelling. -/
def shortPath (s : String) : String :=
  let p := pathRoot s ++ "/".intercalate (pathNames s)
  if p = "" then "." else p

/-! ## Places -/

/-- The name of the root in a place. -/
def rootName : String := "/"

/-- The place where a path starts: the root, or the current directory. -/
def pathStart (s : String) : List String := if pathRoot s = "" then [] else [rootName]

/-- The steps of a path; a path that ends with a slash steps into what it names. -/
def pathSteps (s : String) : List String :=
  let names := (s.splitOn "/").filter (· ≠ "")
  if names.isEmpty || s.toList.getLast? ≠ some '/' then names else names ++ ["."]

/-- One step from a place: into a directory, to itself or to its parent. The root is its own
parent. -/
def stepInto (place : List String) (name : String) : List String :=
  if name = "." then place
  else if name = ".." then
    if place = [rootName] then place else place.dropLast
  else place ++ [name]

/-- The place of a path where every name is that of a directory. -/
def pathPlace (s : String) : List String := (pathSteps s).foldl stepInto (pathStart s)

end GuidedJson.Text
