import Chatflow.Node.Keywords
import Chatflow.Text.Word

/-!
# Conditions that look something up

A live lookup decides the outcome and is remembered. When it fails the last known value decides, and
without one the outcome is no.
-/

namespace Chatflow

/-- Where the outcome of a condition comes from. -/
inductive Evidence where
  | live
  | cache
  | default
  | text
deriving Repr, DecidableEq

namespace Evidence

def name : Evidence → String
  | live => "live"
  | cache => "cache"
  | default => "default"
  | text => "text"

end Evidence

namespace Exec

/-- The text of a flag. -/
def flagText (flag : Bool) : String := if flag then "True" else "False"

/-- A fault as data of a log entry. -/
def faultData (fault : Fault) : Entries Value :=
  [("error", .str fault.message), ("errorType", .str fault.name)]

/-- The last known value under a key after a failed lookup. -/
def lastKnown (subType key : String) : Exec (Bool × Evidence) := do
  let note := note subType
  let cached ← match ← attempt (readFlag key) with
    | .ok cached => pure cached
    | .error fault => do
      note .warn "Flag cache unavailable" [("error", .str fault.message)]
      pure none
  match cached with
  | some value =>
    note .warn "Using last known value" [("value", .bool value)]
    return (value, .cache)
  | none =>
    note .warn "No last known value - defaulting to false" []
    return (false, .default)

/-- Looks something up, with retries, and remembers the flag that it stands for under a key. What
was found comes with the flag. -/
def lookUp {α : Type} (subType key : String) (lookup : Exec α) (flag : α → Bool) :
    Exec (Bool × Evidence × Option α) := do
  match ← attempt (retrying lookup) with
  | .ok found =>
    match ← attempt (writeFlag key (flag found)) with
    | .ok _ => pure ()
    | .error fault =>
      note subType .debug "Could not store last known value" [("error", .str fault.message)]
    return (flag found, .live, some found)
  | .error fault =>
    note subType .warn "Lookup failed" (faultData fault)
    let (value, evidence) ← lastKnown subType key
    return (value, evidence, none)

/-- The outcome of a condition as a label. -/
def branchLabel (holds : Bool) : String := if holds then "yes" else "no"

/-- All items with the outcome of a condition. -/
def conditionItems (items : List Item) (now : Int) (holds : Bool) (data : Entries Value) :
    List Item :=
  branchAll items now (Table.merge [("conditionResult", .bool holds)] data) (branchLabel holds)

end Exec

/-! ### Followers -/

/-- The key under which it is remembered whether a sender follows a page. -/
def followerKey (page sender : String) : String := "follower:" ++ page ++ ":" ++ sender

def isFollower : Executor :=
  { subType := "IS_FOLLOWER", category := .condition,
    description := "Check if the sender follows the page", name := "IsFollowerNode",
    home := conditionHome, consumesText := false, producesText := false, textKeys := [],
    readConfig := readNoSettings,
    execute := fun _ items => do
      let subType := "IS_FOLLOWER"
      let note := Exec.note subType
      Exec.openJournal
      let context ← Exec.context
      note .info "Checking if user is follower" [("senderId", .str context.senderId)]
      let (holds, evidence, _) ← Exec.lookUp subType (followerKey context.pageId context.senderId)
        (Exec.isFollower context.senderId) id
      note .info ("Follower check complete: " ++ Exec.flagText holds)
        [("isFollower", .bool holds), ("source", .str evidence.name)]
      let out := Exec.conditionItems items (← Exec.now) holds [("conditionType", .str subType)]
      let text := if holds then "User is a follower" else "User is not a follower"
      Exec.succeed out
        (if evidence = .live then text else text ++ " (" ++ evidence.name ++ " value)") }

/-! ### Hashtags -/

structure HasTagConfig where
  tags : List String
  matchAll : Bool
  more : Entries Value

namespace HasTagConfig

def tagsField : Schema.Field := .named "tags"
def matchAllField : Schema.Field := .aliased "match_all" "matchAll"

def fields : List Schema.Field := [tagsField, matchAllField]

def readTags (v : Value) : Schema.Checked (List String) :=
  (Schema.listWithin 1 none Schema.text v).andThen
    (Schema.Checked.require v (fun tags => tags.all fun t => !(Text.normalizeTag t).isEmpty)
      (.rule "tags must not be blank"))

def read (v : Value) : Schema.Checked HasTagConfig :=
  (Schema.openRecord "HasTagConfig" v).andThen fun es =>
    (HasTagConfig.mk · · (Schema.extras fields es))
      <$> tagsField.required readTags es
      <*> matchAllField.orDefault false Schema.flag es

def read? (v : Value) : Except Schema.Invalid HasTagConfig := (read v).named "HasTagConfig"

def value (c : HasTagConfig) : Value :=
  Schema.dump [("tags", .texts c.tags), ("match_all", .bool c.matchAll)] c.more

/-- The tags in the form in which they are compared. -/
def wanted (c : HasTagConfig) : List String := c.tags.map Text.normalizeTag

end HasTagConfig

/-- Whether all or any of the wanted tags are found. -/
def tagsMatch (wanted found : List String) (matchAll : Bool) : Bool :=
  if matchAll then wanted.all found.contains else wanted.any found.contains

/-- The key under which it is remembered whether a medium has tags. -/
def tagKey (media : String) (matchAll : Bool) (wanted : List String) : String :=
  "has_tag:" ++ media ++ ":" ++ (if matchAll then "all" else "any") ++ ":"
    ++ ",".intercalate (Text.sorted wanted)

namespace Exec

/-- The tags of a medium in the form in which they are compared, in order. -/
def mediaTags (media : String) : Exec (List String) :=
  return Text.sortedUnique ((← mediaHashtags media).map Text.normalizeTag)

end Exec

def hasTag : Executor :=
  { subType := "HAS_TAG", category := .condition,
    description := "Check if content contains specific hashtags", name := "HasTagNode",
    home := conditionHome, consumesText := false, producesText := false, textKeys := [],
    readConfig := fun v => (HasTagConfig.read? v).map HasTagConfig.value,
    execute := fun config items => do
      let subType := "HAS_TAG"
      let note := Exec.note subType
      Exec.openJournal
      match HasTagConfig.read? (Executor.settingsOf config) with
      | .error invalid =>
        note .error "Invalid tag configuration" [("detail", .str invalid.firstLine)]
        Exec.succeed
          (Exec.conditionItems items (← Exec.now) false [("conditionType", .str subType)])
          "Invalid tag configuration - defaulting to false"
      | .ok parsed =>
        let context ← Exec.context
        let wanted := parsed.wanted
        note .debug "Checking for tags"
          [("tags", .texts wanted), ("matchAll", .bool parsed.matchAll)]
        let inText := Text.tagsOf (context.messageText.getD "")
        let media := context.mediaId.getD ""
        let (holds, evidence, found) ←
          if inText.isEmpty && !media.isEmpty then
            (fun (holds, evidence, found) => (holds, evidence, found.getD [])) <$>
              Exec.lookUp subType (tagKey media parsed.matchAll wanted) (Exec.mediaTags media)
                (tagsMatch wanted · parsed.matchAll)
          else pure (tagsMatch wanted inText parsed.matchAll, Evidence.text, inText)
        let matched := wanted.filter found.contains
        note .info ("Tag check complete: " ++ Exec.flagText holds)
          [("hasTag", .bool holds), ("matchedTags", .texts matched),
            ("source", .str evidence.name)]
        Exec.succeed
          (Exec.conditionItems items (← Exec.now) holds
            [("conditionType", .str subType), ("foundTags", .texts found),
              ("matchedTags", .texts matched)])
          (if holds then "Tags found" else "Tags not found") }

/-! ### Branches -/

/-- A node that only stands for an outcome; the edge that leads to it selects it. -/
def branchNode (subType description name : String) : Executor :=
  { subType, category := .condition, description, name, home := conditionHome,
    consumesText := false, producesText := false, textKeys := [], readConfig := readNoSettings,
    execute := fun _ items =>
      return .result (.ok (Exec.passThrough items) (some "Branch node") []) }

def yesBranch : Executor := branchNode "YES" "Branch taken when the condition is true" "YesNode"

def noBranch : Executor := branchNode "NO" "Branch taken when the condition is false" "NoNode"

end Chatflow
