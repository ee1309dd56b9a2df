import Chatflow.Proofs.Node.Recall
import Chatflow.Proofs.Schema.Honest
import Mathlib.Data.List.Sort
import Mathlib.Data.String.Basic

/-!
# Keys of last known values

Which questions share a key in the cache of flags. A key is put together from its parts with
separators, and the parts are not checked for these: questions about different things share a key
when and only when a separator stands in one of their parts (`key_eq_iff`).
-/

namespace Chatflow

open Service

/-! ### Parts and separators -/

section Separators

variable {α : Type} {sep : α}

/-- Two texts cut at a separator are the same when they are cut at the same place, or one of them is
cut at a later separator of the other. -/
theorem append_cons_eq_iff {front back front' back' : List α} :
    front ++ sep :: back = front' ++ sep :: back' ↔
      front = front' ∧ back = back' ∨
        (∃ part, front' = front ++ sep :: part ∧ back = part ++ sep :: back') ∨
        ∃ part, front = front' ++ sep :: part ∧ back' = part ++ sep :: back := by
  constructor
  · intro same
    rcases List.append_eq_append_iff.mp same with ⟨more, longer, rest⟩ | ⟨more, longer, rest⟩
    · cases more with
      | nil => exact .inl ⟨by simpa using longer.symm, (List.cons.inj rest).2⟩
      | cons first more =>
        obtain ⟨rfl, later⟩ := List.cons.inj rest
        exact .inr (.inl ⟨more, longer, later⟩)
    · cases more with
      | nil => exact .inl ⟨by simpa using longer, (List.cons.inj rest).2.symm⟩
      | cons first more =>
        obtain ⟨rfl, later⟩ := List.cons.inj rest
        exact .inr (.inr ⟨more, longer, later⟩)
  · rintro (⟨rfl, rfl⟩ | ⟨part, rfl, rfl⟩ | ⟨part, rfl, rfl⟩)
    · rfl
    · rw [List.append_assoc, List.cons_append]
    · rw [List.append_assoc, List.cons_append]

end Separators

theorem cut_eq_iff {front back front' back' : String} :
    front ++ ":" ++ back = front' ++ ":" ++ back' ↔
      front = front' ∧ back = back' ∨
        (∃ part, front' = front ++ ":" ++ part ∧ back = part ++ ":" ++ back') ∨
        ∃ part, front = front' ++ ":" ++ part ∧ back' = part ++ ":" ++ back := by
  constructor
  · intro same
    have chars : front.toList ++ ':' :: back.toList = front'.toList ++ ':' :: back'.toList := by
      simpa using congrArg String.toList same
    rcases append_cons_eq_iff.mp chars with ⟨own, rest⟩ | ⟨part, longer, rest⟩ |
      ⟨part, longer, rest⟩
    · exact .inl ⟨String.toList_inj.mp own, String.toList_inj.mp rest⟩
    · refine .inr (.inl ⟨.ofList part, ?_, ?_⟩) <;> apply String.toList_inj.mp <;> simpa
    · refine .inr (.inr ⟨.ofList part, ?_, ?_⟩) <;> apply String.toList_inj.mp <;> simpa
  · rintro (⟨rfl, rfl⟩ | ⟨part, rfl, rfl⟩ | ⟨part, rfl, rfl⟩)
    · rfl
    · simp only [String.append_assoc]
    · simp only [String.append_assoc]

theorem intercalate_inj {tags tags' : List String} (there : tags ≠ []) (there' : tags' ≠ [])
    (plain : ∀ tag ∈ tags, ',' ∉ tag.toList) (plain' : ∀ tag ∈ tags', ',' ∉ tag.toList)
    (same : ",".intercalate tags = ",".intercalate tags') : tags = tags' := by
  have split : ∀ {tags : List String}, tags ≠ [] → (∀ tag ∈ tags, ',' ∉ tag.toList) →
      (",".intercalate tags).toList.splitOn ',' = tags.map String.toList := by
    intro tags there plain
    rw [String.toList_intercalate]
    refine List.splitOn_intercalate _ (fun l mem => ?_) (by simpa using there)
    obtain ⟨tag, own, rfl⟩ := List.mem_map.mp mem
    exact plain tag own
  refine List.map_injective_iff.mpr (fun _ _ => String.toList_inj.mp) ?_
  rw [← split there plain, ← split there' plain', same]

theorem perm_sorted (tags : List String) : (Text.sorted tags).Perm tags :=
  List.mergeSort_perm tags _

theorem sorted_eq_iff {tags tags' : List String} :
    Text.sorted tags = Text.sorted tags' ↔ tags.Perm tags' := by
  constructor
  · intro same
    exact (perm_sorted tags).symm.trans (same ▸ perm_sorted tags')
  · intro perm
    have both : (Text.sorted tags).Perm (Text.sorted tags') :=
      (perm_sorted tags).trans (perm.trans (perm_sorted tags').symm)
    exact both.eq_of_pairwise (fun _ _ _ _ => le_antisymm) List.sortedLE_mergeSort.pairwise
      List.sortedLE_mergeSort.pairwise

/-! ### Questions with one key -/

namespace Question

def keyTail (matchAll : Bool) (wanted : List String) : String :=
  (if matchAll then "all" else "any") ++ ":" ++ ",".intercalate (Text.sorted wanted)

inductive Same : Question → Question → Prop
  | follows (page sender : String) : Same (follows page sender) (follows page sender)
  | tagged (media : String) (matchAll : Bool) {wanted wanted' : List String}
    (perm : wanted.Perm wanted') :
    Same (tagged media matchAll wanted) (tagged media matchAll wanted')

/-- The keys of the questions are cut at different places: a separator stands in the page or in the
medium of the second question, or in a tag. -/
inductive Blurs : Question → Question → Prop
  | page (page part sender : String) :
    Blurs (follows page (part ++ ":" ++ sender)) (follows (page ++ ":" ++ part) sender)
  | media (media part : String) {matchAll matchAll' : Bool} {wanted wanted' : List String}
    (tail : keyTail matchAll wanted = part ++ ":" ++ keyTail matchAll' wanted') :
    Blurs (tagged media matchAll wanted) (tagged (media ++ ":" ++ part) matchAll' wanted')
  | tags (media : String) (matchAll : Bool) {wanted wanted' : List String}
    (joined : ",".intercalate (Text.sorted wanted) = ",".intercalate (Text.sorted wanted'))
    (comma : ∃ tag ∈ wanted ++ wanted', ',' ∈ tag.toList) :
    Blurs (tagged media matchAll wanted) (tagged media matchAll wanted')

def Valid : Question → Prop
  | follows _ _ => True
  | tagged _ _ wanted => wanted ≠ []

variable {q r : Question}

theorem key_follows (page sender : String) :
    (follows page sender).key = "follower:" ++ (page ++ ":" ++ sender) := by
  simp only [key, followerKey, String.append_assoc]

theorem key_tagged (media : String) (matchAll : Bool) (wanted : List String) :
    (tagged media matchAll wanted).key =
      "has_tag:" ++ (media ++ ":" ++ keyTail matchAll wanted) := by
  simp only [key, tagKey, keyTail, String.append_assoc]

theorem Same.key_eq (same : q.Same r) : q.key = r.key := by
  cases same with
  | follows page sender => rfl
  | tagged media matchAll perm =>
    rw [key_tagged, key_tagged, keyTail, keyTail, sorted_eq_iff.mpr perm]

theorem Blurs.key_eq (blurs : q.Blurs r) : q.key = r.key := by
  cases blurs with
  | page page part sender =>
    rw [key_follows, key_follows]
    simp only [String.append_assoc]
  | media media part tail =>
    rw [key_tagged, key_tagged, tail]
    simp only [String.append_assoc]
  | tags media matchAll joined comma => rw [key_tagged, key_tagged, keyTail, keyTail, joined]

/-- No separator stands in the name of a mode, so both modes and both lists of tags are the same. -/
theorem eq_of_keyTail_eq {matchAll matchAll' : Bool} {wanted wanted' : List String}
    (same : keyTail matchAll wanted = keyTail matchAll' wanted') : matchAll = matchAll' ∧
      ",".intercalate (Text.sorted wanted) = ",".intercalate (Text.sorted wanted') := by
  have whole : ∀ {mode mode' : Bool} {part : String},
      (if mode then "all" else "any") ≠ (if mode' then "all" else "any") ++ ":" ++ part := by
    intro mode mode' part same
    have longer := congrArg String.length same
    have length : ∀ mode : Bool, (if mode then "all" else "any").length = 3 := by decide
    rw [String.length_append, String.length_append, length, length] at longer
    have sep : ":".length = 1 := rfl
    omega
  rcases cut_eq_iff.mp same with ⟨modes, tags⟩ | ⟨part, longer, -⟩ | ⟨part, longer, -⟩
  · refine ⟨?_, tags⟩
    cases matchAll <;> cases matchAll' <;> simp_all
  · exact absurd longer whole
  · exact absurd longer whole

/-- The two conditions put different names in front of their keys. -/
theorem key_ne {page sender media : String} {matchAll : Bool} {wanted : List String} :
    (follows page sender).key ≠ (tagged media matchAll wanted).key := by
  intro same
  rw [key_follows, key_tagged] at same
  have first := congrArg (·.toList.head?) same
  simp at first

theorem perm_of_joined {tags tags' : List String} (there : tags ≠ []) (there' : tags' ≠ [])
    (joined : ",".intercalate (Text.sorted tags) = ",".intercalate (Text.sorted tags'))
    (plain : ¬∃ tag ∈ tags ++ tags', ',' ∈ tag.toList) : tags.Perm tags' := by
  have some : ∀ {tags : List String}, tags ≠ [] → Text.sorted tags ≠ [] := fun there none =>
    there (List.nil_perm.mp (none ▸ perm_sorted _))
  refine sorted_eq_iff.mp (intercalate_inj (some there) (some there') ?_ ?_ joined)
  · intro tag mem comma
    exact plain ⟨tag, List.mem_append_left _ ((perm_sorted tags).mem_iff.mp mem), comma⟩
  · intro tag mem comma
    exact plain ⟨tag, List.mem_append_right _ ((perm_sorted tags').mem_iff.mp mem), comma⟩

/-- Which questions share a key. -/
theorem key_eq_iff (valid : q.Valid) (valid' : r.Valid) :
    q.key = r.key ↔ q.Same r ∨ q.Blurs r ∨ r.Blurs q := by
  constructor
  · intro same
    match q, r with
    | follows page sender, follows page' sender' =>
      rw [key_follows, key_follows, String.append_right_inj] at same
      rcases cut_eq_iff.mp same with ⟨rfl, rfl⟩ | ⟨part, rfl, rfl⟩ | ⟨part, rfl, rfl⟩
      · exact .inl (.follows page sender)
      · exact .inr (.inl (.page page part sender'))
      · exact .inr (.inr (.page page' part sender))
    | follows page sender, tagged media matchAll wanted => exact absurd same key_ne
    | tagged media matchAll wanted, follows page sender => exact absurd same.symm key_ne
    | tagged media matchAll wanted, tagged media' matchAll' wanted' =>
      rw [key_tagged, key_tagged, String.append_right_inj] at same
      rcases cut_eq_iff.mp same with ⟨rfl, tail⟩ | ⟨part, rfl, tail⟩ | ⟨part, rfl, tail⟩
      · obtain ⟨rfl, joined⟩ := eq_of_keyTail_eq tail
        by_cases comma : ∃ tag ∈ wanted ++ wanted', ',' ∈ tag.toList
        · exact .inr (.inl (.tags media matchAll joined comma))
        · exact .inl (.tagged media matchAll (perm_of_joined valid valid' joined comma))
      · exact .inr (.inl (.media media part tail))
      · exact .inr (.inr (.media media' part tail))
  · rintro (same | blurs | blurs)
    · exact same.key_eq
    · exact blurs.key_eq
    · exact blurs.key_eq.symm

end Question

/-! ### Questions of inquiries -/

namespace HasTagConfig

open Schema.Checked

theorem tags_ne_nil {v : Value} {parsed : HasTagConfig} (reads : read? v = .ok parsed) :
    parsed.tags ≠ [] := by
  obtain ⟨es, -, fields⟩ := andThen_eq_ok_iff.mp (named_eq_ok_iff.mp reads)
  obtain ⟨make, matchAll, tags, -, rfl⟩ := seq_eq_ok_iff.mp fields
  obtain ⟨tags, field, rfl⟩ := map_eq_ok_iff.mp tags
  obtain ⟨v, list⟩ := Schema.exists_of_required field
  obtain ⟨read, within, kept⟩ := andThen_eq_ok_iff.mp list
  have some : 1 ≤ read.length := Schema.le_length_of_listWithin within
  unfold require at kept
  split at kept
  · cases kept
    exact List.length_pos_iff.mp some
  · cases kept

end HasTagConfig

theorem Inquiry.valid_of_asks {i : Inquiry} {q : Question} (asks : i.question? = some q) :
    q.Valid := by
  obtain ⟨o, condition⟩ := i
  cases condition with
  | follower =>
    obtain rfl := Option.some.inj asks
    trivial
  | tag =>
    simp only [question?] at asks
    split at asks
    · cases asks
    rename_i parsed reads
    split_ifs at asks
    obtain rfl := Option.some.inj asks
    exact fun none => HasTagConfig.tags_ne_nil reads (List.map_eq_nil_iff.mp none)

/-- The last known value under a key is the answer of an earlier inquiry, to a question with that
key. -/
theorem exists_of_lastAnswer? {past : List Inquiry} {key : String} {holds : Bool}
    (known : lastAnswer? past key = some holds) :
    ∃ j ∈ past, ∃ r, j.question? = some r ∧ r.key = key ∧ j.answer r = .ok holds := by
  have mem := List.mem_reverse.mp (Table.mem_of_get? known)
  obtain ⟨j, before, lesson⟩ := List.mem_flatMap.mp mem
  unfold Inquiry.lessons at lesson
  split at lesson
  · rename_i r asks
    refine ⟨j, before, r, asks, ?_⟩
    cases answer : j.answer r with
    | error fault =>
      rw [answer] at lesson
      cases lesson
    | ok found =>
      rw [answer] at lesson
      cases List.mem_singleton.mp lesson
      exact ⟨rfl, rfl⟩
  · cases lesson

/-- Two questions have one key exactly when they are the same or a separator stands in a part of one
of them. The last known value under the key of a question is the answer to such a question. -/
theorem question_key_eq_iff {i : Inquiry} {q : Question} (asks : i.question? = some q) :
    (∀ j r, Inquiry.question? j = some r →
      (q.key = r.key ↔ q.Same r ∨ q.Blurs r ∨ r.Blurs q)) ∧
    ∀ c past holds, FlagCache.Reliable c →
      (cacheAfter c past).flags.get? q.key = some holds →
      c.flags.get? q.key = some holds ∨
        ∃ j ∈ past, ∃ r, j.question? = some r ∧ j.answer r = .ok holds ∧
          (q.Same r ∨ q.Blurs r ∨ r.Blurs q) := by
  have valid := Inquiry.valid_of_asks asks
  refine ⟨fun j r asks' => Question.key_eq_iff valid (Inquiry.valid_of_asks asks'), ?_⟩
  intro c past holds reliable held
  rw [get?_cacheAfter reliable, Option.or_eq_some_iff] at held
  rcases held with known | ⟨-, first⟩
  · obtain ⟨j, before, r, asks', same, answer⟩ := exists_of_lastAnswer? known
    exact .inr ⟨j, before, r, asks', answer,
      (Question.key_eq_iff valid (Inquiry.valid_of_asks asks')).mp same.symm⟩
  · exact .inl first

def tagInquiry (platform : Content) (tags : List String) : Inquiry where
  env := { Env.standard "run" with
    context := { Context.blank "run" with mediaId := some "post" } }
  world := { World.bare with services := { Bundle.none with content := some platform } }
  config := .obj [("tags", .texts tags)]
  items := []
  condition := .tag

def splitInquiry : Inquiry :=
  tagInquiry { Content.ofFollowers [] with hashtags := [("post", ["#a"])] } ["a", "b"]

def joinedInquiry : Inquiry :=
  tagInquiry { Content.ofFollowers [] with outage := some (.operation "no answer") } ["a,b"]

theorem asks_splitInquiry :
    splitInquiry.question? = some (.tagged "post" false ["a", "b"]) := by
  decide +kernel

theorem asks_joinedInquiry :
    joinedInquiry.question? = some (.tagged "post" false ["a,b"]) := by
  decide +kernel

theorem key_split_eq_joined :
    (Question.tagged "post" false ["a", "b"]).key =
      (Question.tagged "post" false ["a,b"]).key := by
  have sorted : Text.sorted ["a", "b"] = ["a", "b"] :=
    List.mergeSort_of_pairwise (by decide)
  rw [Question.key_tagged, Question.key_tagged, Question.keyTail, Question.keyTail, sorted,
    Text.sorted, List.mergeSort_singleton]
  decide

theorem answer_splitInquiry :
    splitInquiry.answer (.tagged "post" false ["a", "b"]) = .ok true := by
  have found : splitInquiry.answer (.tagged "post" false ["a", "b"]) =
      .ok (tagsMatch ["a", "b"] (Text.sortedUnique (["#a"].map Text.normalizeTag)) false) := rfl
  have normal : ["#a"].map Text.normalizeTag = ["a"] := by decide +kernel
  rw [found, normal]
  simp [tagsMatch, Text.sortedUnique]

/-- The two lists of tags have one key, as a comma stands in one of the tags. -/
theorem split_key_eq_iff :
    splitInquiry.question? = some (.tagged "post" false ["a", "b"]) ∧
      ((Question.tagged "post" false ["a", "b"]).key = (Question.tagged "post" false ["a,b"]).key ↔
        (Question.tagged "post" false ["a", "b"]).Same (.tagged "post" false ["a,b"]) ∨
        (Question.tagged "post" false ["a", "b"]).Blurs (.tagged "post" false ["a,b"]) ∨
        (Question.tagged "post" false ["a,b"]).Blurs (.tagged "post" false ["a", "b"])) :=
  ⟨asks_splitInquiry, (question_key_eq_iff asks_splitInquiry).1 joinedInquiry _ asks_joinedInquiry⟩

/-- A lookup for a tag that fails is decided by the answer that was given about two other tags. -/
theorem joined_decided_by_split :
    splitInquiry.question? = some (.tagged "post" false ["a", "b"]) ∧
      joinedInquiry.question? = some (.tagged "post" false ["a,b"]) ∧
      "a,b" ∉ ["a", "b"] ∧
      (Question.tagged "post" false ["a", "b"]).key = (Question.tagged "post" false ["a,b"]).key ∧
      ∃ r, (joinedInquiry.outcome (cacheAfter (.ofEntries []) [splitInquiry])).1 =
        .ok (.result r) ∧ r.Decides true := by
  refine ⟨asks_splitInquiry, asks_joinedInquiry, by decide, key_split_eq_joined, ?_⟩
  obtain ⟨reliable, -⟩ := flags_cacheAfter (FlagCache.reliable_ofEntries []) [splitInquiry]
  obtain ⟨r, ends, decides⟩ := (Inquiry.settled_of_asks asks_joinedInquiry reliable).ends
  have fails : joinedInquiry.answer (.tagged "post" false ["a,b"]) =
      .error (.operation "no answer") := by decide
  have remembered : splitInquiry.lessons =
      [((Question.tagged "post" false ["a,b"]).key, true)] := by
    rw [Inquiry.lessons, asks_splitInquiry, ← key_split_eq_joined]
    exact congrArg (learned _) answer_splitInquiry
  have known : ((cacheAfter (.ofEntries []) [splitInquiry]).flags.get?
      (Question.tagged "post" false ["a,b"]).key) = some true := by
    rw [(flags_cacheAfter (FlagCache.reliable_ofEntries []) [splitInquiry]).2,
      List.flatMap_cons, remembered]
    exact Table.get?_put_self [] _ true
  rw [fails, FlagCache.settle, known] at decides
  exact ⟨r, ends, decides⟩

end Chatflow
