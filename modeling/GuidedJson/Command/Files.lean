import GuidedJson.Failure
import GuidedJson.Text.Path

/-! # Files

The files that commands see: texts at places, and the directories that they lie in. A path is walked
name by name, and every name but the last must lead to a directory.
-/

namespace GuidedJson.Command

/-- Why a path leads to no file. -/
inductive PathFault where
  | missing
  | notDirectory
  | directory
  | tooLong
  | nullByte
deriving DecidableEq, Repr

/-- What the system says of a path; one with a null byte it is not asked for. -/
def PathFault.failure (path : String) : PathFault → Failure
  | .missing => said "[Errno 2] No such file or directory"
  | .notDirectory => said "[Errno 20] Not a directory"
  | .directory => said "[Errno 21] Is a directory"
  | .tooLong => said "[Errno 36] File name too long"
  | .nullByte => .argument .nullByte
where
  said (reason : String) : Failure := .system (reason ++ ": " ++ Text.quoted path)

/-- Texts by place, and directories besides those that hold them. -/
structure Files where
  texts : List (List String × String) := []
  directories : List (List String) := []
deriving Repr

namespace Files

variable (f : Files)

/-! ## Places -/

/-- The text of a file. -/
def textAt? (place : List String) : Option String :=
  (f.texts.find? (·.1 = place)).map (·.2)

/-- Whether a place is a directory: one is known there, or something lies in it. The root and the
current directory are directories. -/
def isDirectoryAt (place : List String) : Bool :=
  place = [] || place = [Text.rootName] || f.directories.contains place ||
    f.texts.any fun (p, _) => place ≠ p && place.isPrefixOf p

/-! ## Paths -/

/-- How many bytes a name and a path may have. -/
def nameLimit : Nat := 255

def pathLimit : Nat := 4095

/-- Walks on from a place. -/
def walk (place : List String) : List String → Except PathFault (List String)
  | [] => .ok place
  | name :: names =>
    if !f.isDirectoryAt place then
      .error (if (f.textAt? place).isSome then .notDirectory else .missing)
    else if nameLimit < name.utf8ByteSize then .error .tooLong
    else walk (Text.stepInto place name) names

/-- The place that a path leads to, where there may be nothing yet. -/
def placeOf (path : String) : Except PathFault (List String) :=
  if path.toList.contains '\x00' then .error .nullByte
  else if pathLimit < path.utf8ByteSize then .error .tooLong
  else f.walk (Text.pathStart path) (Text.pathSteps path)

/-- The text of the file that a path names. -/
def text? (path : String) : Option String :=
  match f.placeOf path with
  | .ok place => f.textAt? place
  | .error _ => none

/-- Whether a path names a directory; of one that is too long this cannot be told. -/
def isDirectory (path : String) : Except Failure Bool :=
  match f.placeOf path with
  | .ok place => .ok (f.isDirectoryAt place)
  | .error .tooLong => .error (PathFault.tooLong.failure path)
  | .error _ => .ok false

/-- The file of a name in a directory. -/
def textIn? (directory name : String) : Option String :=
  match f.placeOf directory with
  | .ok place => f.textAt? (place ++ [name])
  | .error _ => none

/-! ## Writing -/

/-- The files with a text at a place. -/
def withText (place : List String) (text : String) : Files :=
  { f with texts := (place, text) :: f.texts.filter (·.1 ≠ place) }

/-- Writes a text to a file; its directory must be there. -/
def write (path text : String) : Except Failure Files :=
  match f.placeOf path with
  | .error fault => .error (fault.failure path)
  | .ok place =>
    if f.isDirectoryAt place then .error (PathFault.directory.failure path)
    else .ok (f.withText place text)

end Files

end GuidedJson.Command
