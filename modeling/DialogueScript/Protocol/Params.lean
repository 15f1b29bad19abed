import DialogueScript.Protocol.Edit

/-!
# The shapes of the editor protocol

The parameters of the methods that editors send: those that this server answers, and those of the requests that it knows
but does not offer.
-/

namespace DialogueScript.Params

open Shape

/-! ## Places in documents -/

/-- A document by its URI. -/
def document : Shape := fields [need "uri" .uri]

/-- A range in a document. -/
def location : Shape := fields [need "uri" .uri, need "range" range]

/-- A number or a text. -/
def token : Shape := .either [int32, .string]

/-- The field for progress of the work. -/
def workDone : List (String × Presence × Shape) := [may "workDoneToken" token]

/-- The field for partial results. -/
def partialResult : List (String × Presence × Shape) := [may "partialResultToken" token]

/-- The field for a document. -/
def inDocument : List (String × Presence × Shape) := [need "textDocument" document]

/-- The fields for a place in a document. -/
def place : List (String × Presence × Shape) := inDocument ++ [need "position" position]

/-- The fields for a range in a document. -/
def stretch : List (String × Presence × Shape) := inDocument ++ [need "range" range]

/-! ## Synchronisation and settings -/

/-- A document was opened. -/
def didOpen : Shape :=
  fields [need "textDocument" (fields [need "uri" .uri, need "languageId" .string, need "version" int32,
    need "text" .string])]

/-- A document was changed. -/
def didChange : Shape :=
  fields [need "textDocument" (fields [need "uri" .uri, need "version" int32]),
    need "contentChanges" (.list (fields [may "range" range, may "rangeLength" uint32, need "text" .string]))]

/-- A document was closed. -/
def didClose : Shape := fields inDocument

/-- The client sends its settings. -/
def didChangeConfiguration : Shape := fields [need "settings" .any]

/-- Files on disk have changed. -/
def didChangeWatchedFiles : Shape := fields [need "changes" (.list (fields [need "uri" .uri, need "type" int32]))]

/-- A record without fields. -/
def empty : Shape := fields []

/-! ## Completion -/

/-- The place where completions are wanted. -/
def completion : Shape :=
  .merged [place, workDone, partialResult,
    [may "context" (fields [need "triggerKind" int32, may "triggerCharacter" .string])]]

/-- Text with its markup. -/
def markup : Shape := fields [need "kind" (.word ["plaintext", "markdown"]), need "value" .string]

/-- A text or text with markup. -/
def documentation : Shape := .either [.string, markup]

/-- A new text for one range or another. -/
def insertReplaceEdit : Shape := fields [need "newText" .string, need "insert" range, need "replace" range]

/-- A command of the editor. -/
def command : Shape := fields [need "title" .string, need "command" .string, may "arguments" (.list .any)]

/-- A completion. -/
def completionItem : Shape :=
  fields [need "label" .string, may "labelDetails" (fields [may "detail" .string, may "description" .string]),
    may "kind" int32, may "detail" .string, may "documentation" documentation, may "deprecated" .bool,
    may "preselect" .bool, may "sortText" .string, may "filterText" .string, may "insertText" .string,
    may "insertTextFormat" int32, may "insertTextMode" int32, may "textEdit" (.either [textEdit, insertReplaceEdit]),
    may "additionalTextEdits" (.list textEdit), may "command" command, may "commitCharacters" (.list .string),
    may "data" .any, may "tags" (.list int32)]

/-! ## Requests that are not offered -/

/-- A node of a hierarchy. -/
def hierarchyItem (tags : Shape) : Shape :=
  fields [need "name" .string, need "kind" int32, may "tags" tags, may "detail" .string, need "uri" .uri,
    need "range" range, need "selectionRange" range, may "data" .any]

/-- A node of a hierarchy of calls. -/
def callItem : Shape := hierarchyItem (.list int32)

/-- A node of a hierarchy of types, which has one tag at most. -/
def typeItem : Shape := hierarchyItem int32

/-- A diagnostic sent back by the client. -/
def diagnostic : Shape :=
  fields [need "range" range, may "severity" int32, may "code" token, may "codeDescription" (fields [need "href" .uri]),
    may "source" .string, need "message" .string,
    may "relatedInformation" (.list (fields [need "location" location, need "message" .string])),
    may "tags" (.list int32), may "data" .any]

/-- How to format. Editors may add options of their own. -/
def formatting : Shape :=
  .extensible [need "tabSize" uint32, need "insertSpaces" .bool, may "trimTrailingWhitespace" .bool,
    may "insertFinalNewline" .bool, may "trimFinalNewlines" .bool] (.either [.bool, int32, .string])

/-- Part of the label of a hint. -/
def labelPart : Shape :=
  fields [need "value" .string, may "tooltip" documentation, may "location" location, may "command" command]

/-- A hint between the characters of a line. -/
def inlayHint : Shape :=
  fields [need "position" position, need "label" (.either [.string, .list labelPart]), may "kind" int32,
    may "textEdits" (.list textEdit), may "tooltip" documentation, may "paddingLeft" .bool, may "paddingRight" .bool,
    may "data" .any]

/-- A fix for a stretch of a document. -/
def codeAction : Shape :=
  fields [need "title" .string, may "kind" .string, may "diagnostics" (.list diagnostic), may "edit" workspaceEdit,
    may "command" command, may "isPreferred" .bool, may "disabled" (fields [need "reason" .string]), may "data" .any]

/-- A signature with its parameters; the label of a parameter may be a stretch of the label of the signature. -/
def signature : Shape :=
  fields [need "label" .string, may "documentation" documentation,
    may "parameters" (.list (fields [need "label" (.either [.string, .pair uint32]),
      may "documentation" documentation])),
    may "activeParameter" uint32]

/-- The signatures that the client shows. -/
def signatureHelp : Shape :=
  fields [need "signatures" (.list signature), may "activeSignature" uint32, may "activeParameter" uint32]

/-- The parameters of the requests that the server knows but does not offer. -/
def unoffered : List (String × Shape) :=
  let whole := merged [inDocument, workDone, partialResult]
  let here := merged [place, workDone]
  let found := merged [place, workDone, partialResult]
  let related (item : Shape) := merged [[need "item" item], workDone, partialResult]
  let files (all : List (String × Presence × Shape)) := fields [need "files" (.list (fields all))]
  [("textDocument/willSaveWaitUntil", fields (inDocument ++ [need "reason" int32])),
    ("textDocument/declaration", found),
    ("textDocument/definition", found),
    ("textDocument/typeDefinition", found),
    ("textDocument/implementation", found),
    ("textDocument/references",
      merged [place, workDone, partialResult, [need "context" (fields [need "includeDeclaration" .bool])]]),
    ("textDocument/prepareCallHierarchy", here),
    ("callHierarchy/incomingCalls", related callItem),
    ("callHierarchy/outgoingCalls", related callItem),
    ("textDocument/prepareTypeHierarchy", here),
    ("typeHierarchy/supertypes", related typeItem),
    ("typeHierarchy/subtypes", related typeItem),
    ("textDocument/documentHighlight", found),
    ("textDocument/documentLink", whole),
    ("documentLink/resolve",
      fields [need "range" range, may "target" .uri, may "tooltip" .string, may "data" .any]),
    ("textDocument/hover", here),
    ("textDocument/codeLens", whole),
    ("codeLens/resolve", fields [need "range" range, may "command" command, may "data" .any]),
    ("textDocument/foldingRange", whole),
    ("textDocument/selectionRange",
      merged [inDocument, [need "positions" (.list position)], workDone, partialResult]),
    ("textDocument/documentSymbol", whole),
    ("textDocument/semanticTokens/full", whole),
    ("textDocument/semanticTokens/full/delta",
      merged [inDocument, [need "previousResultId" .string], workDone, partialResult]),
    ("textDocument/semanticTokens/range", merged [stretch, workDone, partialResult]),
    ("textDocument/inlineValue",
      merged [stretch, [need "context" (fields [need "frameId" int32, need "stoppedLocation" range])], workDone]),
    ("textDocument/inlayHint", merged [stretch, workDone]),
    ("inlayHint/resolve", inlayHint),
    ("textDocument/moniker", found),
    ("textDocument/diagnostic",
      merged [inDocument, [may "identifier" .string, may "previousResultId" .string], workDone, partialResult]),
    ("workspace/diagnostic",
      merged [[may "identifier" .string,
        need "previousResultIds" (.list (fields [need "uri" .uri, need "value" .string]))], workDone, partialResult]),
    ("textDocument/signatureHelp",
      merged [[may "context" (fields [need "triggerKind" int32, may "triggerCharacter" .string,
        need "isRetrigger" .bool, may "activeSignatureHelp" signatureHelp])], place, workDone]),
    ("textDocument/codeAction",
      merged [stretch, [need "context" (fields [need "diagnostics" (.list diagnostic), may "only" (.list .string),
        may "triggerKind" int32])], workDone, partialResult]),
    ("codeAction/resolve", codeAction),
    ("textDocument/documentColor", whole),
    ("textDocument/colorPresentation",
      merged [stretch, [need "color" (fields (["red", "green", "blue", "alpha"].map fun c => need c .number))],
        workDone, partialResult]),
    ("textDocument/formatting", merged [inDocument, [need "options" formatting], workDone]),
    ("textDocument/rangeFormatting", merged [stretch, [need "options" formatting], workDone]),
    ("textDocument/onTypeFormatting", merged [place, [need "ch" .string, need "options" formatting]]),
    ("textDocument/rename", merged [place, [need "newName" .string], workDone]),
    ("textDocument/prepareRename", fields place),
    ("textDocument/linkedEditingRange", here),
    ("workspace/symbol", merged [partialResult, workDone, [need "query" .string]]),
    ("workspaceSymbol/resolve",
      fields [need "name" .string, need "kind" int32, may "tags" (.list int32), may "containerName" .string,
        need "location" (.either [location, document]), may "data" .any]),
    ("workspace/willCreateFiles", files [need "uri" .string]),
    ("workspace/willRenameFiles", files [need "oldUri" .string, need "newUri" .string]),
    ("workspace/willDeleteFiles", files [need "uri" .string]),
    ("workspace/executeCommand",
      merged [[need "command" .string, ("arguments", .defaulted, .list .any)], workDone])]

end DialogueScript.Params
