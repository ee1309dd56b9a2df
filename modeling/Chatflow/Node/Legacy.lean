import Chatflow.Node.Template

/-!
# Legacy nodes

Nodes that set up a page or export the event, without an executor of their own in the registry. They
are all served by one dispatch, which gives a result without items.
-/

namespace Chatflow

open Schema (Field)

inductive LegacyKind where
  | iceBreakers
  | logToSheets
  | persistentMenu
  | productTemplate
deriving Repr, DecidableEq

namespace LegacyKind

/-- All kinds, in the order of their subtypes. -/
def all : List LegacyKind := [iceBreakers, logToSheets, persistentMenu, productTemplate]

def subType : LegacyKind → String
  | iceBreakers => "ICE_BREAKERS"
  | logToSheets => "LOG_TO_SHEETS"
  | persistentMenu => "PERSISTENT_MENU"
  | productTemplate => "PRODUCT_TEMPLATE"

def description : LegacyKind → String
  | iceBreakers => "Set the conversation ice breakers"
  | logToSheets => "Append the triggering event to a spreadsheet"
  | persistentMenu => "Set the persistent menu"
  | productTemplate => "Send a product template message"

def ofSubType? (subType : String) : Option LegacyKind := all.find? (·.subType == subType)

end LegacyKind

/-! ### Settings -/

structure ProductTemplateConfig where
  productIds : List String
  more : Entries Value

namespace ProductTemplateConfig

def productsField : Field := .aliased "product_ids" "productIds"

def read (v : Value) : Schema.Checked ProductTemplateConfig :=
  (Schema.openRecord "ProductTemplateConfig" v).andThen fun es =>
    (ProductTemplateConfig.mk · (Schema.extras [productsField] es))
      <$> productsField.required (Schema.listWithin 1 none Schema.text) es

def read? (v : Value) : Except Schema.Invalid ProductTemplateConfig :=
  (read v).named "ProductTemplateConfig"

def value (c : ProductTemplateConfig) : Value :=
  Schema.dump [("product_ids", .texts c.productIds)] c.more

end ProductTemplateConfig

structure IceBreaker where
  question : String
  payload : String

namespace IceBreaker

def read (v : Value) : Schema.Checked IceBreaker :=
  (Schema.plainRecord "IceBreaker" v).andThen fun es =>
    IceBreaker.mk
      <$> (Field.named "question").required (Schema.textWithin 1 none) es
      <*> (Field.named "payload").required (Schema.textWithin 1 none) es

def value (b : IceBreaker) : Value :=
  .obj [("question", .str b.question), ("payload", .str b.payload)]

end IceBreaker

structure IceBreakersConfig where
  breakers : List IceBreaker
  more : Entries Value

namespace IceBreakersConfig

def breakersField : Field := .aliased "ice_breakers" "iceBreakers"

def read (v : Value) : Schema.Checked IceBreakersConfig :=
  (Schema.openRecord "IceBreakersConfig" v).andThen fun es =>
    (IceBreakersConfig.mk · (Schema.extras [breakersField] es))
      <$> breakersField.required (Schema.listWithin 1 (some 4) IceBreaker.read) es

def read? (v : Value) : Except Schema.Invalid IceBreakersConfig :=
  (read v).named "IceBreakersConfig"

def value (c : IceBreakersConfig) : Value :=
  Schema.dump [("ice_breakers", .list (c.breakers.map IceBreaker.value))] c.more

end IceBreakersConfig

structure MenuItem where
  kind : String
  title : String
  url : Option String
  payload : Option String
  more : Entries Value

namespace MenuItem

def fields : List Field := [.named "type", .named "title", .named "url", .named "payload"]

def read (v : Value) : Schema.Checked MenuItem :=
  (Schema.openRecord "MenuItem" v).andThen fun es =>
    (MenuItem.mk · · · · (Schema.extras fields es))
      <$> (Field.named "type").required (Schema.literal ["web_url", "postback"]) es
      <*> (Field.named "title").required (Schema.textWithin 1 none) es
      <*> (Field.named "url").orDefault none (Schema.optional Schema.text) es
      <*> (Field.named "payload").orDefault none (Schema.optional Schema.text) es

def value (i : MenuItem) : Value :=
  Schema.dump [("type", .str i.kind), ("title", .str i.title), ("url", .ofText? i.url),
    ("payload", .ofText? i.payload)] i.more

end MenuItem

structure PersistentMenuConfig where
  items : List MenuItem
  more : Entries Value

namespace PersistentMenuConfig

def itemsField : Field := .aliased "menu_items" "menuItems"

def read (v : Value) : Schema.Checked PersistentMenuConfig :=
  (Schema.openRecord "PersistentMenuConfig" v).andThen fun es =>
    (PersistentMenuConfig.mk · (Schema.extras [itemsField] es))
      <$> itemsField.required (Schema.listWithin 1 none MenuItem.read) es

def read? (v : Value) : Except Schema.Invalid PersistentMenuConfig :=
  (read v).named "PersistentMenuConfig"

def value (c : PersistentMenuConfig) : Value :=
  Schema.dump [("menu_items", .list (c.items.map MenuItem.value))] c.more

end PersistentMenuConfig

structure SheetsTarget where
  spreadsheet : String
  sheet : String

namespace SheetsTarget

def read (v : Value) : Schema.Checked SheetsTarget :=
  (Schema.plainRecord "SheetsTarget" v).andThen fun es =>
    SheetsTarget.mk
      <$> (Field.aliased "spreadsheet_id" "spreadsheetId").required (Schema.textWithin 1 none) es
      <*> (Field.aliased "sheet_name" "sheetName").required (Schema.textWithin 1 none) es

def value (t : SheetsTarget) : Value :=
  .obj [("spreadsheet_id", .str t.spreadsheet), ("sheet_name", .str t.sheet)]

end SheetsTarget

structure LogToSheetsConfig where
  target : SheetsTarget
  more : Entries Value

namespace LogToSheetsConfig

def targetField : Field := .aliased "sheets_config" "sheetsConfig"

def read (v : Value) : Schema.Checked LogToSheetsConfig :=
  (Schema.openRecord "LogToSheetsConfig" v).andThen fun es =>
    (LogToSheetsConfig.mk · (Schema.extras [targetField] es))
      <$> targetField.required SheetsTarget.read es

def read? (v : Value) : Except Schema.Invalid LogToSheetsConfig :=
  (read v).named "LogToSheetsConfig"

def value (c : LogToSheetsConfig) : Value :=
  Schema.dump [("sheets_config", c.target.value)] c.more

end LogToSheetsConfig

/-! ### Execution -/

def sheetHeaders : List String := ["Timestamp", "Sender ID", "Message/Comment", "Trigger Type"]

/-- The first text that says something. -/
def firstText (texts : List (Option String)) (fallback : String) : String :=
  (texts.find? saysSomething).join.getD fallback

/-- The row of an event at a time. -/
def eventRow (c : Context) (stamp : String) : List Value :=
  [.str stamp, .str (firstText [some c.senderId] "Unknown"),
    .str (firstText [c.messageText, c.commentId] "N/A"), .str c.triggerType]

namespace Exec

/-- Goes on with the settings of a legacy node, or fails with the first thing wrong with them. -/
def withLegacyConfig {γ : Type} (subType : String) (read? : Value → Except Schema.Invalid γ)
    (config : Value) (body : γ → Exec Reply) : Exec Reply := do
  match read? (Executor.settingsOf config) with
  | .ok parsed => body parsed
  | .error invalid =>
    note subType .error "Invalid configuration" [("errors", .int invalid.issues.length)]
    failWith ("Invalid " ++ subType ++ " configuration: " ++ invalid.firstText)

/-- What a legacy call says when it is made, refused, or refused without a reason. -/
structure LegacyReport where
  done : String
  detail : Entries Value
  text : String
  refused : String
  failure : String

/-- Makes a call with retries and reports it. Any fault fails the node. -/
def legacyCall (subType : String) (report : LegacyReport) (call : Exec Service.SendResult) :
    Exec Reply := do
  let note := note subType
  match ← attempt call with
  | .ok result =>
    if result.success then
      note .info report.done report.detail
      succeed [] report.text
    else
      note .error report.refused [("error", .ofText? result.error)]
      failWith ((result.error.filter (!·.isEmpty)).getD report.failure)
  | .error (.unavailable capability) =>
    let text := (Fault.unavailable capability).message
    note .error text []
    failWith text
  | .error fault =>
    note .error "Execution error" [("error", .str fault.message), ("errorType", .str fault.name)]
    failWith ("Execution error: " ++ fault.message)

/-- Sends a call of a legacy node, if there is a messenger. -/
def legacySend (call : Service.OutboundCall) : Exec Service.SendResult := do
  let _ ← required .messaging (← services).messaging
  retrying (send call)

/-- Appends the event to a sheet, if there is an exporter. The time is that of the first attempt. -/
def exportEvent (target : SheetsTarget) : Exec Service.SendResult := do
  let _ ← required .sheets (← services).sheets
  let row := eventRow (← context) (← get).clock.zonedStamp
  retrying (appendRow target.spreadsheet target.sheet sheetHeaders row)

/-- Executes a legacy node of a kind. -/
def executeKind (kind : LegacyKind) (config : Value) : Exec Reply := do
  let subType := kind.subType
  match kind with
  | .productTemplate =>
    withLegacyConfig subType ProductTemplateConfig.read? config fun parsed => do
      let c ← context
      legacyCall subType
        ⟨"Product template sent", [("productCount", .int parsed.productIds.length)],
          "Product template sent", "Product template rejected", "Failed to send product template"⟩
        (legacySend (.productTemplate c.pageId c.senderId (parsed.productIds.map Value.str)))
  | .iceBreakers =>
    withLegacyConfig subType IceBreakersConfig.read? config fun parsed => do
      let breakers := parsed.breakers.map IceBreaker.value
      legacyCall subType
        ⟨"Ice breakers set", [("count", .int breakers.length)], "Ice breakers set successfully",
          "Ice breakers rejected", "Failed to set ice breakers"⟩
        (legacySend (.iceBreakers breakers))
  | .persistentMenu =>
    withLegacyConfig subType PersistentMenuConfig.read? config fun parsed => do
      let items := parsed.items.map fun i => withoutNulls i.value
      legacyCall subType
        ⟨"Persistent menu set", [("count", .int items.length)],
          "Persistent menu set successfully", "Persistent menu rejected",
          "Failed to set persistent menu"⟩
        (legacySend (.persistentMenu items))
  | .logToSheets =>
    withLegacyConfig subType LogToSheetsConfig.read? config fun parsed => do
      legacyCall subType
        ⟨"Row appended", [("spreadsheetId", .str parsed.target.spreadsheet)],
          "Data logged to sheets", "Export failed", "Export failed"⟩
        (exportEvent parsed.target)

/-- Executes a legacy node of a subtype, known or not. The result has no items. -/
def executeLegacy (subType : String) (config : Value) : Exec Reply := do
  openJournal
  match LegacyKind.ofSubType? subType with
  | some kind => executeKind kind config
  | none =>
    note subType .error "Unknown action type" [("subType", .str subType)]
    failWith ("Unknown action type: " ++ subType)

end Exec

/-- A successful result hands the items on. -/
def Reply.withItems (items : List Item) : Reply → Reply
  | .result r => .result (if r.success then { r with items } else r)
  | r => r

namespace LegacyKind

def readConfig : LegacyKind → Value → Except Schema.Invalid Value
  | productTemplate, v => (ProductTemplateConfig.read? v).map ProductTemplateConfig.value
  | iceBreakers, v => (IceBreakersConfig.read? v).map IceBreakersConfig.value
  | persistentMenu, v => (PersistentMenuConfig.read? v).map PersistentMenuConfig.value
  | logToSheets, v => (LogToSheetsConfig.read? v).map LogToSheetsConfig.value

def home : String := "flow_engine.workflow_runtime.legacy"

/-- The executor that stands for a legacy kind. It hands its items on. -/
def executor (kind : LegacyKind) : Executor :=
  { subType := kind.subType, category := .action, description := kind.description,
    name := "LegacyNode", home, consumesText := false, producesText := false, textKeys := [],
    readConfig := kind.readConfig,
    execute := fun config items => do
      return (← Exec.executeLegacy kind.subType config).withItems items }

/-- The description of a legacy kind. -/
def definition (kind : LegacyKind) : NodeDefinition :=
  ⟨kind.subType, Category.action.name, kind.description, home ++ ".execute_legacy_node", "legacy",
    false, false⟩

end LegacyKind

end Chatflow
