import KnowledgeGraph.Proofs.Json.Reader
import KnowledgeGraph.Proofs.Record.SourcePost

/-!
# A post and the list of it

A post of a source is read from a text at once, while a list of posts is read as values first, of
which the last one of each name stays.  The two readings agree about a text and the list that holds
it alone, but for two differences (`SourcePost.ofText_and_postsOfMany`).

* A field that is given twice is an error of the text, and of no consequence in the list.
* The list takes a level of nesting, so a text that uses the last one is a post and no item.
-/

namespace KnowledgeGraph.SourcePost

open Json (Codec Draft Fault bind_eq_ok pure_eq_ok map_eq_ok)

/-- The social posts of a list in a text. -/
def postsOfMany (s : String) : Except Fault (List Post) := (readMany s).map (List.map post)

/-- Whether the value of a text nests so deep at most. -/
def NestsWithin (room : Nat) (t : String) : Prop := ∀ j, Json.ofText t = .ok j → j.depth ≤ room

instance (room : Nat) (t : String) : Decidable (NestsWithin room t) :=
  decidable_of_iff (∀ j ∈ (Json.ofText t).toOption, j.depth ≤ room) (by
    rw [NestsWithin]
    cases Json.ofText t <;> simp [Except.toOption])

/-- Whether the value of a text repeats no field that is read. -/
def RepeatsNoField (t : String) : Prop := ∀ j, Json.ofText t = .ok j → GivesPostOnce j

section Text

variable {t : String} (one : Json.IsValueText t)
include one

/-! ## The text alone -/

theorem valueOfText_eq_ok_iff {j : Json} :
    Json.ofText t = .ok j ↔ (Draft.ofText t).1.keep (roomBelow + 1) = .ok j := by
  simp [Json.ofText, roomBelow, one.2]

/-- A post is read from a text as the value of the text delivers it. -/
theorem ofText_eq_ok_iff {r : SourcePost} :
    ofText t = .ok r ↔ ∃ j, Json.ofText t = .ok j ∧ DeliversPost j r := by
  simp only [valueOfText_eq_ok_iff one, ← read_eq_ok_iff one.whole]
  simp [ofText, one.2]

/-- What fits into a list is a value that leaves the list its level. -/
theorem keep_roomBelow_eq_ok_iff {j : Json} :
    (Draft.ofText t).1.keep roomBelow = .ok j ↔ Json.ofText t = .ok j ∧ j.depth ≤ roomBelow := by
  rw [valueOfText_eq_ok_iff one]
  constructor
  · intro kept
    have shallow := Draft.depth_le_of_keep one.whole kept
    exact ⟨Draft.keep_of_depth_le kept (Nat.le_succ_of_le shallow), shallow⟩
  · rintro ⟨kept, shallow⟩
    exact Draft.keep_of_depth_le kept shallow

/-! ## The list of the text -/

/-- A list of one value holds what is read from the canonical form of the value. -/
theorem readMany_brackets :
    readMany ("[" ++ t ++ "]") = ((Draft.ofText t).1.keep roomBelow).map fun j =>
      (read j.canonical.draft).toOption.toList := by
  simp only [readMany, Codec.decodeText, Draft.ofText_brackets one, Codec.list, Codec.readAll,
    anyValue]
  cases (Draft.ofText t).1.keep roomBelow with
  | error f => rfl
  | ok j =>
    show Except.ok ([j.canonical].filterMap fun j => (read j.draft).toOption) = _
    cases read j.canonical.draft <;> rfl

/-- A list of one value holds the post that the canonical form of the value delivers. -/
theorem readMany_brackets_eq_ok_iff {r : SourcePost} :
    readMany ("[" ++ t ++ "]") = .ok [r] ↔
      ∃ j, (Json.ofText t = .ok j ∧ j.depth ≤ roomBelow) ∧ DeliversPost j.canonical r := by
  rw [readMany_brackets one, map_eq_ok]
  simp only [keep_roomBelow_eq_ok_iff one]
  refine exists_congr fun j => and_congr_right fun value => ?_
  have shallow : j.canonical.depth ≤ roomBelow + 1 :=
    Nat.le_succ_of_le (Nat.le_trans (Json.depth_canonical_le j) value.2)
  rw [← read_draft_eq_ok_iff shallow]
  cases read j.canonical.draft <;> simp [Except.toOption]

/-- A list of one value holds one post at most, if it can be read at all. -/
theorem readMany_brackets_cases :
    (∃ f, readMany ("[" ++ t ++ "]") = .error f) ∨ readMany ("[" ++ t ++ "]") = .ok [] ∨
      ∃ r, readMany ("[" ++ t ++ "]") = .ok [r] := by
  rw [readMany_brackets one]
  cases (Draft.ofText t).1.keep roomBelow with
  | error f => exact .inl ⟨f, rfl⟩
  | ok j =>
    right
    show Except.ok (read j.canonical.draft).toOption.toList = .ok [] ∨
      ∃ r, Except.ok (read j.canonical.draft).toOption.toList = .ok [r]
    cases read j.canonical.draft with
    | error f => exact .inl rfl
    | ok r => exact .inr ⟨r, rfl⟩

/-- A text that is nested too deep for a list fails in one. -/
theorem readMany_brackets_of_deep (deep : ¬NestsWithin roomBelow t) :
    ∃ f, readMany ("[" ++ t ++ "]") = .error f := by
  rw [readMany_brackets one]
  cases kept : (Draft.ofText t).1.keep roomBelow with
  | error f => exact ⟨f, rfl⟩
  | ok j =>
    obtain ⟨value, shallow⟩ := (keep_roomBelow_eq_ok_iff one).1 kept
    refine absurd (fun j' value' => ?_) deep
    obtain rfl : j = j' := Except.ok.inj (value.symm.trans value')
    exact shallow

/-! ## Both readings -/

/-- What is read from a text that leaves the list its level is what is read from the list, if the
text repeats no field. -/
theorem ofText_iff_readMany (r : SourcePost) :
    ofText t = .ok r ∧ NestsWithin roomBelow t ↔
      readMany ("[" ++ t ++ "]") = .ok [r] ∧ RepeatsNoField t := by
  have value_unique {P : Json → Prop} {j : Json} (value : Json.ofText t = .ok j) :
      (∀ j', Json.ofText t = .ok j' → P j') ↔ P j := by
    simp [value]
  rw [ofText_eq_ok_iff one, readMany_brackets_eq_ok_iff one]
  constructor
  · rintro ⟨⟨j, value, delivers⟩, shallow⟩
    obtain ⟨canonical, once⟩ := deliversPost_iff_canonical.1 delivers
    exact ⟨⟨j, ⟨value, shallow j value⟩, canonical⟩, (value_unique value).2 once⟩
  · rintro ⟨⟨j, ⟨value, shallow⟩, canonical⟩, once⟩
    have delivers := deliversPost_iff_canonical.2 ⟨canonical, once j value⟩
    exact ⟨⟨j, value, delivers⟩, (value_unique value).2 shallow⟩

end Text

/-- A text that is one value gives a post of a source, and one that leaves a list its level, exactly
when the list of it gives this post and the text repeats no field.  The list then holds the social
post, it fails if the level is missing, and there is no post in it if the text gives none and
repeats no field. -/
theorem ofText_and_postsOfMany {t : String} (one : Json.IsValueText t) :
    (∀ r, ofText t = .ok r ∧ NestsWithin roomBelow t ↔
      readMany ("[" ++ t ++ "]") = .ok [r] ∧ RepeatsNoField t) ∧
    (∀ r, ofText t = .ok r → NestsWithin roomBelow t →
      postsOfMany ("[" ++ t ++ "]") = .ok [r.post]) ∧
    (¬NestsWithin roomBelow t → ∃ f, postsOfMany ("[" ++ t ++ "]") = .error f) ∧
    ((∀ r, ofText t ≠ .ok r) → RepeatsNoField t →
      (∃ f, postsOfMany ("[" ++ t ++ "]") = .error f) ∨
        postsOfMany ("[" ++ t ++ "]") = .ok []) := by
  have alike := ofText_iff_readMany one
  refine ⟨alike, fun r read shallow => ?listed, fun deep => ?deep, fun none once => ?none⟩
  case listed =>
    obtain ⟨listed, -⟩ := (alike r).1 ⟨read, shallow⟩
    rw [postsOfMany, listed]
    rfl
  case deep =>
    obtain ⟨f, failed⟩ := readMany_brackets_of_deep one deep
    rw [postsOfMany, failed]
    exact ⟨f, rfl⟩
  case none =>
    rcases readMany_brackets_cases one with ⟨f, failed⟩ | empty | ⟨r, read⟩
    · rw [postsOfMany, failed]
      exact .inl ⟨f, rfl⟩
    · rw [postsOfMany, empty]
      exact .inr rfl
    · exact absurd ((alike r).2 ⟨read, once⟩).1 (none r)

/-- A document with a mention, and a name without a field twice. -/
def documentText : String :=
  "\x7b\"x\":1,\"x\":2,\"entities\":[\x7b\"text\":\"b\"\x7d],\"source\":\"sentiment\"\x7d"

theorem ofText_and_postsOfMany_document :
    Json.IsValueText documentText ∧ ∃ r, ofText documentText = .ok r ∧
      postsOfMany ("[" ++ documentText ++ "]") = .ok [r.post] := by
  have one : Json.IsValueText documentText := by constructor <;> decide +kernel
  have nests : NestsWithin roomBelow documentText := by decide +kernel
  have isPost : (ofText documentText).isOk = true := by decide +kernel
  cases read : ofText documentText with
  | error f =>
    rw [read] at isPost
    cases isPost
  | ok r => exact ⟨one, r, rfl, (ofText_and_postsOfMany one).2.1 r read nests⟩

/-- A Reddit post with two identifiers. -/
def repeatedText : String := "\x7b\"source\":\"reddit\",\"id\":\"a\",\"id\":\"b\"\x7d"

/-- The characters of a Reddit post that nests as deep as a post may. -/
def deepChars : List Char :=
  "\x7b\"source\":\"reddit\",\"x\":".toList ++ List.replicate roomBelow '[' ++
    List.replicate roomBelow ']' ++ ['\x7d']

/-- A Reddit post that nests as deep as a post may. -/
def deepText : String := String.ofList deepChars

/-- Two identifiers are no post alone and a post in a list, and a post that is nested as deep as it
may be is no item of a list. -/
theorem ofText_ne_postsOfMany :
    (Json.IsValueText repeatedText ∧ (ofText repeatedText).isOk = false ∧
      (postsOfMany ("[" ++ repeatedText ++ "]")).toOption.map (List.map Post.id) = some ["b"]) ∧
    (Json.IsValueText deepText ∧ (ofText deepText).isOk = true ∧
      (postsOfMany ("[" ++ deepText ++ "]")).isOk = false) := by
  constructor
  · refine ⟨⟨?_, ?_⟩, ?_, ?_⟩ <;> decide +kernel
  · -- The text is long, so only its characters are computed with.
    have one : Json.IsValueText deepText := by
      rw [Json.IsValueText, Draft.ofText, deepText, String.toList_ofList]
      decide +kernel
    refine ⟨one, ?_, ?_⟩
    · rw [ofText, Draft.ofText, deepText, String.toList_ofList]
      decide +kernel
    · rw [postsOfMany, readMany_brackets one, Draft.ofText, deepText, String.toList_ofList]
      decide +kernel

end KnowledgeGraph.SourcePost
