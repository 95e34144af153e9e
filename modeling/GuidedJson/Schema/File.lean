import GuidedJson.Json.Nesting
import GuidedJson.Text.Newline

/-! # Schema files

A schema file holds one document. A file that is not there and a text that is no document are
faults of the argument that named the file.
-/

namespace GuidedJson.Schema

/-- The document of a file that is named so; `text?` is what the file holds, if it is there. -/
def documentOfFile (path : String) (text? : Option String) : Except Failure Value :=
  match text? with
  | none => .error (.argument (.schemaFile path))
  | some text =>
    Json.readWithin Json.nestingLimit (fun fault => .argument (.schemaJson fault))
      (Text.fileText text)

end GuidedJson.Schema
