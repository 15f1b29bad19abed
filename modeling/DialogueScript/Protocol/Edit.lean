import DialogueScript.Protocol.Shape

/-!
# The shapes of edits

Edits replace ranges of a document by new texts. An edit of a workspace holds edits of several documents, and may also
create, rename and delete files.
-/

namespace DialogueScript.Params

open Shape

/-- A position: line and column. -/
def position : Shape := fields [need "line" uint32, need "character" uint32]

/-- A range between two positions. -/
def range : Shape := fields [need "start" position, need "end" position]

/-- A new text for a range. -/
def textEdit : Shape := fields [need "range" range, need "newText" .string]

/-- A new text for a range, with the name of an annotation. -/
def annotatedEdit : Shape := merged [[need "range" range, need "newText" .string], [need "annotationId" .string]]

/-- The edits of a document, of one version if that is given. -/
def documentEdit : Shape :=
  fields [need "textDocument" (fields [need "uri" .uri, may "version" int32]),
    need "edits" (.list (.either [textEdit, annotatedEdit]))]

/-- What to do when a file is there already. -/
def overwriting : Shape := fields [may "overwrite" .bool, may "ignoreIfExists" .bool]

/-- An operation on a file. -/
def fileOperation : Shape :=
  .either [
    fields [need "kind" (.tag 0 "create"), need "uri" .uri, may "options" overwriting, may "annotationId" .string],
    fields [need "kind" (.tag 1 "rename"), need "oldUri" .uri, need "newUri" .uri, may "options" overwriting,
      may "annotationId" .string],
    fields [need "kind" (.tag 2 "delete"), need "uri" .uri,
      may "options" (fields [may "recursive" .bool, may "ignoreIfNotExists" .bool, may "annotationId" .string])]]

/-- An edit of a workspace. -/
def workspaceEdit : Shape :=
  fields [("changes", .lenient, .dictionary .uri (.list textEdit)),
    may "documentChanges" (.either [.list documentEdit, .list (.either [fileOperation, documentEdit])]),
    may "changeAnnotations" (.dictionary .string
      (fields [need "label" .string, may "needsConfirmation" .bool, may "description" .string]))]

end DialogueScript.Params
