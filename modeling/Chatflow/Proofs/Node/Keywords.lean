import Chatflow.Node.Keywords
import Chatflow.Proofs.Node.Calls
import Chatflow.Proofs.Text.Case
import Mathlib.Data.List.Permutation

/-!
# Keywords that stand in a message

The keywords of a node are the texts in its settings that are not blank. The first of them that is
found in the message, both in lower case, is recorded with every item that is passed on. A keyword
that stands in the message is found there. It may occur in the message and still not stand in it,
because of a capital sigma that ends a word in only one of the two; then the message may be held
back (`signpost_held_back`).
-/

namespace Chatflow

variable {config : Entries Value} {parsed : KeywordsConfig}

namespace Context

def message (c : Context) : List Char := (c.messageText.getD "").toList

end Context

/-- The keyword is found in some characters, both in lower case. -/
def FoundIn (keyword : String) (text : List Char) : Prop :=
  Text.lowerList keyword.toList <:+: Text.lowerList text

/-! ### Settings -/

namespace KeywordsConfig

theorem readItems_text (index : Nat) (values : List Value) :
    Schema.readItems Schema.text index (values.filter keepKeywords.isKeyword) =
      .ok (values.filterMap fun v => presentText? v.text?) := by
  induction values generalizing index with
  | nil => rfl
  | cons v rest ih =>
    have other : presentText? v.text? = none → keepKeywords.isKeyword v = false := by
      cases v <;> simp [presentText?, Value.text?, keepKeywords.isKeyword, Option.filter_some]
    cases text : presentText? v.text? with
    | none =>
      rw [List.filter_cons_of_neg (by simp [other text]), List.filterMap_cons, text]
      exact ih index
    | some s =>
      obtain ⟨own, present⟩ : v.text? = some s ∧ Text.allBlank s = false := by
        simpa [presentText?, Option.filter_eq_some_iff] using text
      obtain rfl : v = .str s := by cases v <;> simp_all [Value.text?]
      rw [List.filter_cons_of_pos (by simp [keepKeywords.isKeyword, present]), List.filterMap_cons,
        text, Schema.readItems, ih (index + 1)]
      rfl

/-- Valid settings have a list of keywords: the texts in it that are not blank. -/
theorem keywords_of_read? (valid : read? (Executor.settingsOf (.obj config)) = .ok parsed) :
    ∃ values, config.get? "keywords" = some (.list values) ∧
      parsed.keywords = values.filterMap fun v => presentText? v.text? := by
  rw [Executor.settingsOf_obj] at valid
  obtain ⟨words, field, rfl⟩ :=
    Schema.Checked.map_eq_ok_iff.mp (Schema.Checked.named_eq_ok_iff.mp valid)
  unfold Schema.Field.required Schema.Field.find? at field
  dsimp only [keywordsField, Schema.Field.named] at field
  cases found : config.get? "keywords" with
  | none =>
    rw [found] at field
    cases field
  | some v =>
    rw [found] at field
    have reads : readKeywords v = .ok words := Schema.Checked.under_eq_ok field
    cases v with
    | list values =>
      refine ⟨values, rfl, ?_⟩
      unfold readKeywords keepKeywords Schema.listWithin at reads
      simp only [Option.any_none, Bool.false_eq_true, if_false, readItems_text,
        Schema.Checked.andThen] at reads
      split at reads
      · cases reads
      · cases reads
        rfl
    | _ => cases reads

end KeywordsConfig

/-! ### The first keyword -/

theorem occursInLower_iff {text keyword : String} :
    occursInLower text keyword = true ↔ FoundIn keyword text.toList := Text.occursIn_iff

theorem matchedKeyword?_eq_some {keywords : List String} {text keyword : String}
    (first : matchedKeyword? keywords text = some keyword) :
    ∃ before after, keywords = before ++ keyword :: after ∧ FoundIn keyword text.toList ∧
      ∀ earlier ∈ before, ¬FoundIn earlier text.toList := by
  unfold matchedKeyword? at first
  split at first
  · cases first
  · obtain ⟨found, before, after, split, none⟩ := List.find?_eq_some_iff_append.mp first
    refine ⟨before, after, split, occursInLower_iff.mp found, fun earlier mem own => ?_⟩
    simpa [occursInLower_iff.mpr own] using none earlier mem

theorem matchedKeyword?_isSome {keywords : List String} {text keyword : String}
    (mem : keyword ∈ keywords) (present : Text.allBlank keyword = false)
    (found : FoundIn keyword text.toList) : (matchedKeyword? keywords text).isSome = true := by
  have filled : text.isEmpty = false := by
    by_contra none
    obtain rfl : text = "" := by simpa using none
    obtain rfl : keyword = "" := by
      have nothing : Text.lowerList keyword.toList = [] := List.eq_nil_of_infix_nil found
      simpa using Text.lowerList_eq_nil_iff.mp nothing
    cases present
  rw [matchedKeyword?, filled]
  exact List.find?_isSome.mpr ⟨keyword, mem, occursInLower_iff.mpr found⟩

theorem matchedKeyword?_eq_none {keywords : List String} {text : String}
    (none : ∀ keyword ∈ keywords, ¬FoundIn keyword text.toList) :
    matchedKeyword? keywords text = .none := by
  unfold matchedKeyword?
  split
  · rfl
  · exact List.find?_eq_none.mpr fun keyword mem found =>
      none keyword mem (occursInLower_iff.mp found)

namespace Exec

def keywordItems (items : List Item) (time : Int) (keyword : String) : List Item :=
  (passThrough items).map
    (·.evolve time [("keywordMatched", .bool true), ("keyword_matched_word", .str keyword)] none
      (some "yes"))

/-- The keyword that is matched lets all items through, and no item gets through without one. -/
theorem exists_outcome_keywords
    (valid : KeywordsConfig.read? (Executor.settingsOf (.obj config)) = .ok parsed)
    (items : List Item) (env : Env) (w : World) :
    ∃ r w', outcome (keywords.execute (.obj config) items) env w = (.ok (.result r), w') ∧
      r.success = true ∧
      r.items = ((matchedKeyword? parsed.keywords (env.context.messageText.getD "")).map
        (keywordItems items w.clock.milliseconds)).getD [] := by
  dsimp only [keywords]
  rw [outcome_bind_ok outcome_openJournal, valid]
  dsimp only
  rw [outcome_bind_ok outcome_context]
  obtain ⟨records, notes⟩ := exists_outcome_note "KEYWORDS" .debug "Checking keywords"
    [("messagePreview", preview (env.context.messageText.getD "")),
      ("keywordCount", .int parsed.keywords.length),
      ("keywords", .texts (parsed.keywords.take 5))] env { w with journal := [] }
  rw [outcome_bind_ok notes]
  cases matchedKeyword? parsed.keywords (env.context.messageText.getD "") with
  | none =>
    obtain ⟨records', notes'⟩ := exists_outcome_note "KEYWORDS" .info
      "No keyword matched - branch ends" [] env _
    rw [outcome_bind_ok notes']
    exact ⟨_, _, rfl, rfl, rfl⟩
  | some keyword =>
    obtain ⟨records', notes'⟩ := exists_outcome_note "KEYWORDS" .info "Keyword matched"
      [("matchedKeyword", .str keyword)] env _
    dsimp only
    rw [outcome_bind_ok notes', outcome_bind_ok outcome_now]
    exact ⟨_, _, rfl, rfl, rfl⟩

end Exec

/-- A keyword that stands in the message is found there, and it stands in every message in which it
occurs if it has no capital sigma, or none near its ends. If some keyword is found, every item gets
through, and the first that is found is recorded. Where none is found, nothing gets through. -/
theorem standing_keyword_passes
    (valid : KeywordsConfig.read? (Executor.settingsOf (.obj config)) = .ok parsed)
    (items : List Item) (env : Env) (w : World) :
    (∃ values, config.get? "keywords" = some (.list values) ∧
      parsed.keywords = values.filterMap fun v => presentText? v.text?) ∧
    (∀ keyword : String,
      ('Σ' ∉ keyword.toList ∨ Text.EnclosesSigmas keyword.toList →
        keyword.toList <:+: env.context.message →
        Text.StandsIn keyword.toList env.context.message) ∧
      (Text.StandsIn keyword.toList env.context.message → FoundIn keyword env.context.message)) ∧
    ∃ r w', Exec.outcome (keywords.execute (.obj config) items) env w = (.ok (.result r), w') ∧
      r.success = true ∧
      ((∃ keyword ∈ parsed.keywords, FoundIn keyword env.context.message) →
        ∃ before keyword after, parsed.keywords = before ++ keyword :: after ∧
          FoundIn keyword env.context.message ∧
          (∀ earlier ∈ before, ¬FoundIn earlier env.context.message) ∧
          r.items = Exec.keywordItems items w.clock.milliseconds keyword) ∧
      ((∀ keyword ∈ parsed.keywords, ¬FoundIn keyword env.context.message) → r.items = []) := by
  obtain ⟨values, listed, own⟩ := KeywordsConfig.keywords_of_read? valid
  obtain ⟨r, w', ends, success, out⟩ := Exec.exists_outcome_keywords valid items env w
  refine ⟨⟨values, listed, own⟩, fun keyword => ⟨fun plain occurs => ?_, Text.StandsIn.lower⟩,
    r, w', ends, success, ?_, ?_⟩
  · exact (plain.elim Text.enclosesSigmas_of_not_mem id).standsIn occurs
  · rintro ⟨keyword, mem, found⟩
    have present : Text.allBlank keyword = false := by
      rw [own, List.mem_filterMap] at mem
      obtain ⟨v, -, text⟩ := mem
      simpa using (Option.filter_eq_some_iff.mp text).2
    obtain ⟨first, matched⟩ :=
      Option.isSome_iff_exists.mp (matchedKeyword?_isSome mem present found)
    obtain ⟨before, after, split, own, none⟩ := matchedKeyword?_eq_some matched
    rw [matched] at out
    exact ⟨before, first, after, split, own, none, out⟩
  · intro none
    rw [out, matchedKeyword?_eq_none none]
    rfl

def Env.hearing (message : String) : Env :=
  { Env.standard "run" with
    context := { Context.blank "run" with messageText := some message } }

def keywordSettings (keywords : List String) : Entries Value := [("keywords", .texts keywords)]

/-- The keyword ends with its sigma where the word in the message does. -/
theorem word_end_passes :
    KeywordsConfig.read? (Executor.settingsOf (.obj (keywordSettings ["ΟΔΟΣ", "ΛΟΓΟΣ"]))) =
        .ok ⟨["ΟΔΟΣ", "ΛΟΓΟΣ"], []⟩ ∧
      Text.StandsIn "ΛΟΓΟΣ".toList (Env.hearing "Ο ΛΟΓΟΣ").context.message ∧
      ∃ r w', Exec.outcome (keywords.execute (.obj (keywordSettings ["ΟΔΟΣ", "ΛΟΓΟΣ"])) [])
          (.hearing "Ο ΛΟΓΟΣ") .bare = (.ok (.result r), w') ∧
        ∃ before keyword after, ["ΟΔΟΣ", "ΛΟΓΟΣ"] = before ++ keyword :: after ∧
          r.items = Exec.keywordItems [] World.bare.clock.milliseconds keyword := by
  have valid : KeywordsConfig.read?
      (Executor.settingsOf (.obj (keywordSettings ["ΟΔΟΣ", "ΛΟΓΟΣ"]))) =
        .ok ⟨["ΟΔΟΣ", "ΛΟΓΟΣ"], []⟩ := by cbv
  have stands : Text.StandsIn "ΛΟΓΟΣ".toList (Env.hearing "Ο ΛΟΓΟΣ").context.message :=
    ⟨['Ο', ' '], [], by decide +kernel, Text.keepsSigmas_iff.mpr (by decide +kernel)⟩
  obtain ⟨-, words, r, w', ends, -, passes, -⟩ :=
    standing_keyword_passes valid [] (.hearing "Ο ΛΟΓΟΣ") .bare
  obtain ⟨before, keyword, after, split, -, -, out⟩ :=
    passes ⟨"ΛΟΓΟΣ", by simp, (words _).2 stands⟩
  exact ⟨valid, stands, r, w', ends, before, keyword, after, split, out⟩

/-- A keyword occurs in the message, but only by itself it ends with its sigma, and nothing gets
through. -/
theorem signpost_held_back :
    KeywordsConfig.read? (Executor.settingsOf (.obj (keywordSettings ["ΟΔΟΣ"]))) =
        .ok ⟨["ΟΔΟΣ"], []⟩ ∧
      "ΟΔΟΣ".toList <:+: (Env.hearing "ΟΔΟΣΗΜΑΝΣΗ").context.message ∧
      ∃ r w', Exec.outcome (keywords.execute (.obj (keywordSettings ["ΟΔΟΣ"])) [.empty])
          (.hearing "ΟΔΟΣΗΜΑΝΣΗ") .bare = (.ok (.result r), w') ∧ r.items = [] := by
  have valid : KeywordsConfig.read? (Executor.settingsOf (.obj (keywordSettings ["ΟΔΟΣ"]))) =
      .ok ⟨["ΟΔΟΣ"], []⟩ := by cbv
  have unmatched : matchedKeyword? (KeywordsConfig.mk ["ΟΔΟΣ"] []).keywords
      ((Env.hearing "ΟΔΟΣΗΜΑΝΣΗ").context.messageText.getD "") = none := by decide +kernel
  obtain ⟨r, w', ends, -, out⟩ :=
    Exec.exists_outcome_keywords valid [.empty] (.hearing "ΟΔΟΣΗΜΑΝΣΗ") .bare
  have occurs : "ΟΔΟΣ".toList <:+: (Env.hearing "ΟΔΟΣΗΜΑΝΣΗ").context.message :=
    ⟨[], "ΗΜΑΝΣΗ".toList, by decide⟩
  rw [unmatched] at out
  exact ⟨valid, occurs, r, w', ends, out⟩

end Chatflow
