import LobsterServer.Json.Shape

set_option autoImplicit false

/-!
# Capabilities of the editor

An editor introduces itself with all that it can do.  The server wants to know a single thing of
this: whether the editor answers questions about settings.  It takes nothing from a list of
capabilities that is not well formed, though.
-/

namespace LobsterServer.Capabilities

open Shape

/-! ## Recurring shapes -/

/-- Whether a capability can be announced later. -/
def dynamic : String × Shape := ("dynamicRegistration", flag)

/-- A capability that can only be announced later. -/
def registration : Shape := options [dynamic]

/-- A capability to fetch something anew. -/
def refreshing : Shape := options [("refreshSupport", flag)]

/-- A capability to go to a place. -/
def travelling : Shape := options [dynamic, ("linkSupport", flag)]

/-- The properties that can be fetched later. -/
def lateProperties : Shape := needs [("properties", list text)]

/-- A set of numbers that stand for kinds. -/
def kindSet : Shape := options [("valueSet", list signed)]

/-- The tags that are known; older editors only say whether there are any. -/
def tagSet : Shape := either flag (needs [("valueSet", list signed)])

/-- Formats of explanations. -/
def formats : Shape := list (word ["plaintext", "markdown"])

/-- A record of options among which the tags may be left out. -/
def optionsWithTags (before after : List (String × Shape)) : Shape :=
  record ((Layout.all .optional before).append
    (.field "tagSupport" .trailing tagSet (Layout.all .optional after)))

/-! ## The workspace -/

/-- What edits of the workspace may do. -/
def workspaceEdit : Shape :=
  options
    [("documentChanges", flag),
     ("resourceOperations", list (word ["create", "rename", "delete"])),
     ("failureHandling", word ["abort", "transactional", "textOnlyTransactional", "undo"]),
     ("normalizesLineEndings", flag),
     ("changeAnnotationSupport", options [("groupsOnLabel", flag)])]

/-- Which changes of files are announced. -/
def fileOperations : Shape :=
  options
    [dynamic, ("didCreate", flag), ("willCreate", flag), ("didRename", flag), ("willRename", flag),
     ("didDelete", flag), ("willDelete", flag)]

/-- The capability to answer questions about settings. -/
def configurationName : String := "configuration"

/-- What the editor can do with the workspace. -/
def workspaceFields : List (String × Shape) :=
  [("applyEdit", flag),
   ("workspaceEdit", workspaceEdit),
   ("didChangeConfiguration", registration),
   ("didChangeWatchedFiles", options [dynamic, ("relativePatternSupport", flag)]),
   ("symbol",
    optionsWithTags [dynamic, ("symbolKind", kindSet)] [("resolveSupport", lateProperties)]),
   ("executeCommand", registration),
   ("workspaceFolders", flag),
   (configurationName, flag),
   ("semanticTokens", refreshing),
   ("codeLens", refreshing),
   ("fileOperations", fileOperations),
   ("inlineValue", refreshing),
   ("inlayHint", refreshing),
   ("diagnostic", refreshing)]

/-! ## Documents -/

/-- What is shown of a completion. -/
def completionItem : Shape :=
  optionsWithTags
    [("snippetSupport", flag), ("commitCharactersSupport", flag), ("documentationFormat", formats),
     ("deprecatedSupport", flag), ("preselectSupport", flag)]
    [("insertReplaceSupport", flag), ("resolveSupport", lateProperties),
     ("insertTextModeSupport", needs [("valueSet", list signed)]), ("labelDetailsSupport", flag)]

/-- What the editor can do with completions. -/
def completion : Shape :=
  options
    [dynamic, ("completionItem", completionItem), ("completionItemKind", kindSet),
     ("contextSupport", flag), ("insertTextMode", signed),
     ("completionList", options [("itemDefaults", list text)])]

/-- What the editor can do with signatures. -/
def signatureHelp : Shape :=
  options
    [dynamic,
     ("signatureInformation",
      options
        [("documentationFormat", formats),
         ("parameterInformation", options [("labelOffsetSupport", flag)]),
         ("activeParameterSupport", flag)]),
     ("contextSupport", flag)]

/-- What the editor can do with code actions. -/
def codeAction : Shape :=
  options
    [dynamic,
     ("codeActionLiteralSupport",
      needs [("codeActionKind", needs [("valueSet", list text)])]),
     ("isPreferredSupport", flag), ("disabledSupport", flag), ("dataSupport", flag),
     ("resolveSupport", lateProperties), ("honorsChangeAnnotations", flag)]

/-- What the editor can do with ranges that fold. -/
def foldingRange : Shape :=
  options
    [dynamic, ("rangeLimit", unsigned), ("lineFoldingOnly", flag),
     ("foldingRangeKind", options [("valueSet", list (word ["comment", "imports", "region"]))]),
     ("foldingRange", options [("collapsedText", flag)])]

/-- What the editor can do with semantic tokens. -/
def semanticTokens : Shape :=
  record (((Layout.all .optional [dynamic]).append
    (Layout.all .required
      [("requests",
        options
          [("range", flag),
           ("full", either flag (object (Layout.all .optional [("delta", flag)])))]),
       ("tokenTypes", list text), ("tokenModifiers", list text), ("formats", list text)])).append
    (Layout.all .optional
      [("overlappingTokenSupport", flag), ("multilineTokenSupport", flag),
       ("serverCancelSupport", flag), ("augmentsSyntaxTokens", flag)]))

/-- What the editor can do with a document. -/
def documentFields : List (String × Shape) :=
  [("synchronization",
    options [dynamic, ("willSave", flag), ("willSaveWaitUntil", flag), ("didSave", flag)]),
   ("completion", completion),
   ("hover", options [dynamic, ("contentFormat", formats)]),
   ("signatureHelp", signatureHelp),
   ("references", registration),
   ("documentHighlight", registration),
   ("documentSymbol",
    optionsWithTags
      [dynamic, ("symbolKind", kindSet), ("hierarchicalDocumentSymbolSupport", flag)] []),
   ("formatting", registration),
   ("rangeFormatting", registration),
   ("onTypeFormatting", registration),
   ("declaration", travelling),
   ("definition", travelling),
   ("typeDefinition", travelling),
   ("implementation", travelling),
   ("codeAction", codeAction),
   ("codeLens", registration),
   ("documentLink", options [dynamic, ("tooltipSupport", flag)]),
   ("colorProvider", registration),
   ("rename",
    options
      [dynamic, ("prepareSupport", flag), ("prepareSupportDefaultBehavior", signed),
       ("honorsChangeAnnotations", flag)]),
   ("publishDiagnostics",
    optionsWithTags [("relatedInformation", flag)]
      [("versionSupport", flag), ("codeDescriptionSupport", flag), ("dataSupport", flag)]),
   ("foldingRange", foldingRange),
   ("selectionRange", registration),
   ("linkedEditingRange", registration),
   ("callHierarchy", registration),
   ("semanticTokens", semanticTokens),
   ("moniker", registration),
   ("typeHierarchy", registration),
   ("inlineValue", registration),
   ("inlayHint", options [dynamic, ("resolveSupport", lateProperties)]),
   ("diagnostic", options [dynamic, ("relatedDocumentSupport", flag)])]

/-! ## The editor itself -/

/-- What the editor can do with its windows. -/
def windowFields : List (String × Shape) :=
  [("workDoneProgress", flag),
   ("showMessage",
    options [("messageActionItem", options [("additionalPropertiesSupport", flag)])]),
   ("showDocument", needs [("support", flag)])]

/-- A tool of the editor with its version. -/
def tool (name : String) (more : List (String × Shape)) : Shape :=
  record ((Layout.all .required [(name, text)]).append
    (Layout.all .optional (("version", text) :: more)))

/-- What holds of the editor as a whole. -/
def generalFields : List (String × Shape) :=
  [("regularExpressions", tool "engine" []),
   ("markdown", tool "parser" [("allowedTags", list text)]),
   ("staleRequestSupport", needs [("cancel", flag), ("retryOnContentModified", list text)]),
   ("positionEncodings", list text)]

/-- The groups of capabilities. -/
def fields : List (String × Shape) :=
  [("workspace", options workspaceFields),
   ("textDocument", options documentFields),
   ("window", options windowFields),
   ("general", options generalFields),
   ("experimental", any)]

/-- A field of a record, wherever it stands. -/
def valueOf (layout : List (String × Shape)) (name : String) (j : Json) : Json :=
  (((j.record? (layout.map Prod.fst) false).bind fun values =>
    ((layout.map Prod.fst).zip values).lookup name).join).getD .null

/-- Whether the editor answers questions about settings, if its capabilities are well formed. -/
def answersConfiguration? (j : Json) : Option Bool :=
  if (options fields).fits j then
    some (((valueOf workspaceFields configurationName (valueOf fields "workspace" j)).toBool?).getD
      false)
  else none

end LobsterServer.Capabilities
