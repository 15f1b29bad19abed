import DialogueScript.Protocol.Shape

/-!
# The shapes of a handshake

A client introduces itself with what it can do, in the workspace, in documents, in its window and in general. Most of it
does not matter to this server, but all of it must be well-formed.
-/

namespace DialogueScript.Params

open Shape

/-! ## Building blocks -/

/-- A record of flags. -/
def flags (names : List String) : Shape := fields (names.map fun name => may name .bool)

/-- What can be registered while the server runs. -/
def dynamic : Shape := flags ["dynamicRegistration"]

/-- What can be asked to refresh. -/
def refresh : Shape := flags ["refreshSupport"]

/-- The field of most capabilities: they can be registered while the server runs. -/
def registrable : List (String × Presence × Shape) := [may "dynamicRegistration" .bool]

/-- A flag among the fields of a capability. -/
def flag (name : String) : String × Presence × Shape := may name .bool

/-- Numbers that the client knows. -/
def knownNumbers : Shape := fields [may "valueSet" (.list int32)]

/-- The field for tags: a flag, or the numbers of the tags that the client knows. -/
def tagSupport : String × Presence × Shape :=
  ("tagSupport", .lenient, .either [.bool, fields [need "valueSet" (.list int32)]])

/-- The field for properties that can be asked for later. -/
def resolveSupport : String × Presence × Shape := may "resolveSupport" (fields [need "properties" (.list .string)])

/-- The kinds of markup. -/
def markupKind : Shape := .word ["plaintext", "markdown"]

/-! ## Workspaces -/

/-- What the client can do with edits of a workspace. -/
def workspaceEdits : Shape :=
  fields [flag "documentChanges", may "resourceOperations" (.list (.word ["create", "rename", "delete"])),
    may "failureHandling" (.word ["abort", "transactional", "textOnlyTransactional", "undo"]),
    flag "normalizesLineEndings", may "changeAnnotationSupport" (flags ["groupsOnLabel"])]

/-- What the client can do with a workspace. -/
def workspaceCapabilities : Shape :=
  fields [flag "applyEdit", may "workspaceEdit" workspaceEdits, may "didChangeConfiguration" dynamic,
    may "didChangeWatchedFiles" (flags ["dynamicRegistration", "relativePatternSupport"]),
    may "symbol" (fields (registrable ++ [may "symbolKind" knownNumbers, tagSupport, resolveSupport])),
    may "executeCommand" dynamic, flag "workspaceFolders", flag "configuration", may "semanticTokens" refresh,
    may "codeLens" refresh,
    may "fileOperations" (flags ["dynamicRegistration", "didCreate", "willCreate", "didRename", "willRename",
      "didDelete", "willDelete"]),
    may "inlineValue" refresh, may "inlayHint" refresh, may "diagnostic" refresh]

/-! ## Documents -/

/-- What the client can do with completions. -/
def completionSupport : Shape :=
  fields (registrable ++ [
    may "completionItem" (fields [flag "snippetSupport", flag "commitCharactersSupport",
      may "documentationFormat" (.list markupKind), flag "deprecatedSupport", flag "preselectSupport", tagSupport,
      flag "insertReplaceSupport", resolveSupport,
      may "insertTextModeSupport" (fields [need "valueSet" (.list int32)]), flag "labelDetailsSupport"]),
    may "completionItemKind" knownNumbers, flag "contextSupport", may "insertTextMode" int32,
    may "completionList" (fields [may "itemDefaults" (.list .string)])])

/-- What the client can do with signatures. -/
def signatureSupport : Shape :=
  fields (registrable ++ [
    may "signatureInformation" (fields [may "documentationFormat" (.list markupKind),
      may "parameterInformation" (flags ["labelOffsetSupport"]), flag "activeParameterSupport"]),
    flag "contextSupport"])

/-- What the client can do with links to a definition. -/
def linkSupport : Shape := flags ["dynamicRegistration", "linkSupport"]

/-- What the client can do with fixes. -/
def codeActionSupport : Shape :=
  fields (registrable ++ [
    may "codeActionLiteralSupport" (fields [need "codeActionKind" (fields [need "valueSet" (.list .string)])]),
    flag "isPreferredSupport", flag "disabledSupport", flag "dataSupport", resolveSupport,
    flag "honorsChangeAnnotations"])

/-- What the client can do with folded ranges. -/
def foldingSupport : Shape :=
  fields (registrable ++ [may "rangeLimit" uint32, flag "lineFoldingOnly",
    may "foldingRangeKind" (fields [may "valueSet" (.list (.word ["comment", "imports", "region"]))]),
    may "foldingRange" (flags ["collapsedText"])])

/-- What the client can do with the tokens of a document. -/
def tokenSupport : Shape :=
  let full : Shape := .either [.bool, merged [[flag "delta"]]]
  fields (registrable ++ [need "requests" (fields [flag "range", may "full" full]),
    need "tokenTypes" (.list .string), need "tokenModifiers" (.list .string), need "formats" (.list .string),
    flag "overlappingTokenSupport", flag "multilineTokenSupport", flag "serverCancelSupport",
    flag "augmentsSyntaxTokens"])

/-- What the client can do with documents. -/
def documentCapabilities : Shape :=
  fields [may "synchronization" (flags ["dynamicRegistration", "willSave", "willSaveWaitUntil", "didSave"]),
    may "completion" completionSupport,
    may "hover" (fields (registrable ++ [may "contentFormat" (.list markupKind)])),
    may "signatureHelp" signatureSupport, may "references" dynamic, may "documentHighlight" dynamic,
    may "documentSymbol" (fields (registrable ++ [may "symbolKind" knownNumbers,
      flag "hierarchicalDocumentSymbolSupport", tagSupport])),
    may "formatting" dynamic, may "rangeFormatting" dynamic, may "onTypeFormatting" dynamic,
    may "declaration" linkSupport, may "definition" linkSupport, may "typeDefinition" linkSupport,
    may "implementation" linkSupport, may "codeAction" codeActionSupport, may "codeLens" dynamic,
    may "documentLink" (flags ["dynamicRegistration", "tooltipSupport"]), may "colorProvider" dynamic,
    may "rename" (fields (registrable ++ [flag "prepareSupport", may "prepareSupportDefaultBehavior" int32,
      flag "honorsChangeAnnotations"])),
    may "publishDiagnostics" (fields [flag "relatedInformation", tagSupport, flag "versionSupport",
      flag "codeDescriptionSupport", flag "dataSupport"]),
    may "foldingRange" foldingSupport, may "selectionRange" dynamic, may "linkedEditingRange" dynamic,
    may "callHierarchy" dynamic, may "semanticTokens" tokenSupport, may "moniker" dynamic,
    may "typeHierarchy" dynamic, may "inlineValue" dynamic,
    may "inlayHint" (fields (registrable ++ [resolveSupport])),
    may "diagnostic" (flags ["dynamicRegistration", "relatedDocumentSupport"])]

/-! ## Everything -/

/-- What the client can do with its window. -/
def windowCapabilities : Shape :=
  fields [flag "workDoneProgress",
    may "showMessage" (fields [may "messageActionItem" (flags ["additionalPropertiesSupport"])]),
    may "showDocument" (fields [need "support" .bool])]

/-- What the client can do in general. -/
def generalCapabilities : Shape :=
  fields [may "regularExpressions" (fields [need "engine" .string, may "version" .string]),
    may "markdown" (fields [need "parser" .string, may "version" .string, may "allowedTags" (.list .string)]),
    may "staleRequestSupport" (fields [need "cancel" .bool, need "retryOnContentModified" (.list .string)]),
    may "positionEncodings" (.list .string)]

/-- What the client can do. -/
def capabilities : Shape :=
  fields [may "workspace" workspaceCapabilities, may "textDocument" documentCapabilities,
    may "window" windowCapabilities, may "general" generalCapabilities, may "experimental" .any]

/-- The client introduces itself. -/
def handshake : Shape :=
  fields [may "processId" uint32, may "rootPath" .string, ("rootUri", .lenient, .uri),
    may "initializationOptions" .any, need "capabilities" capabilities,
    ("trace", .lenient, .word ["off", "messages", "verbose"]),
    may "workspaceFolders" (.list (fields [need "uri" .uri, need "name" .string])),
    may "clientInfo" (fields [need "name" .string, may "version" .string]), may "locale" .string]

end DialogueScript.Params
