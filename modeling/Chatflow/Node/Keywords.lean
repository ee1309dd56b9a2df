import Chatflow.Node.Trigger
import Chatflow.Text.Case

/-!
# Keywords

A condition on the message text. It holds when one of the keywords occurs in the text, in any case;
otherwise the branch ends.
-/

namespace Chatflow

def conditionHome : String := "flow_engine.nodes.conditions"

structure KeywordsConfig where
  keywords : List String
  more : Entries Value

namespace KeywordsConfig

def keywordsField : Schema.Field := .named "keywords"

/-- Only texts that are not blank are keywords; nothing is an empty list of them. -/
def keepKeywords : Value → Value
  | .null => .list []
  | .list items => .list (items.filter isKeyword)
  | v => v
where
  isKeyword : Value → Bool
    | .str s => !Text.allBlank s
    | _ => false

def readKeywords (v : Value) : Schema.Checked (List String) :=
  Schema.listWithin 1 none Schema.text (keepKeywords v)

def read (v : Value) : Schema.Checked KeywordsConfig :=
  (Schema.openRecord "KeywordsConfig" v).andThen fun es =>
    (KeywordsConfig.mk · (Schema.extras [keywordsField] es))
      <$> keywordsField.required readKeywords es

def read? (v : Value) : Except Schema.Invalid KeywordsConfig := (read v).named "KeywordsConfig"

def value (c : KeywordsConfig) : Value := Schema.dump [("keywords", .texts c.keywords)] c.more

end KeywordsConfig

/-- Whether a keyword occurs in a text, both in lower case. -/
def occursInLower (text keyword : String) : Bool :=
  Text.occursIn (Text.lowerList keyword.toList) (Text.lowerList text.toList)

/-- The first keyword that occurs in a text. In an empty text none does. -/
def matchedKeyword? (keywords : List String) (text : String) : Option String :=
  if text.isEmpty then none else keywords.find? (occursInLower text)

def keywords : Executor :=
  { subType := "KEYWORDS", category := .condition,
    description := "Filter messages based on keyword matches", name := "KeywordsNode",
    home := conditionHome, consumesText := false, producesText := false, textKeys := [],
    readConfig := fun v => (KeywordsConfig.read? v).map KeywordsConfig.value,
    execute := fun config items => do
      let note := Exec.note "KEYWORDS"
      Exec.openJournal
      match KeywordsConfig.read? (Executor.settingsOf config) with
      | .error invalid =>
        note .error "Invalid keyword configuration" [("detail", .str invalid.firstLine)]
        Exec.succeed [] "Invalid keyword configuration"
      | .ok parsed =>
        let text := (← Exec.context).messageText.getD ""
        note .debug "Checking keywords"
          [("messagePreview", Exec.preview text), ("keywordCount", .int parsed.keywords.length),
            ("keywords", .texts (parsed.keywords.take 5))]
        match matchedKeyword? parsed.keywords text with
        | none =>
          note .info "No keyword matched - branch ends" []
          Exec.succeed [] "No keyword matched"
        | some keyword =>
          note .info "Keyword matched" [("matchedKeyword", .str keyword)]
          let out := Exec.branchAll items (← Exec.now)
            [("keywordMatched", .bool true), ("keyword_matched_word", .str keyword)] "yes"
          Exec.succeed out ("Keyword matched: " ++ keyword) }

end Chatflow
