import Mathlib.Data.List.Basic
import KnowledgeGraph.Identity

/-!
# What names tell apart

Different contents have different names where the digest tells apart the texts that are digested
(`CollisionFree`).  Such a text joins two parts with a bar, and either part may have bars of its
own.  So the joined text alone does not say where its first part ends.  It does together with the
number of bars in the second part (`join_inj_iff`).

Hence two keywords with one name are one keyword exactly if their languages have equally many bars,
and two entities with one name are one entity exactly if their types have equally many bars
(`identifier_eq_iff`).  An identifier in a knowledge base is never mistaken for a digest, since its
mark does not begin with a hexadecimal digit (`known_ne_contentIdentifier`).
-/

namespace KnowledgeGraph

open Text (normalize trim)

/-! ## Digested texts -/

/-- No two different texts of a list have one digest. -/
def CollisionFree (contents : List String) : Prop :=
  ∀ a ∈ contents, ∀ b ∈ contents, contentIdentifier a = contentIdentifier b → a = b

instance (contents : List String) : Decidable (CollisionFree contents) :=
  inferInstanceAs (Decidable (∀ a ∈ contents, ∀ b ∈ contents, _ → _))

/-- Of two texts of a list, the digests are equal exactly if the texts are. -/
theorem CollisionFree.contentIdentifier_eq_iff {contents : List String}
    (free : CollisionFree contents) {a b : String} (ha : a ∈ contents) (hb : b ∈ contents) :
    contentIdentifier a = contentIdentifier b ↔ a = b :=
  ⟨free a ha b hb, congrArg contentIdentifier⟩

/-- An identifier in a knowledge base is no digest. -/
theorem known_ne_contentIdentifier (id content : String) :
    "kb:" ++ id ≠ contentIdentifier content := by
  intro eq
  have chars : 'k' :: 'b' :: ':' :: id.toList = Digest.digestChars content := by
    simpa [contentIdentifier, Digest.digest] using congrArg String.toList eq
  have digit : Digest.isHexDigit 'k' = true :=
    Digest.isHexDigit_of_mem_digestChars (chars ▸ List.mem_cons_self)
  exact absurd digit (by decide)

/-! ## Parts between bars -/

/-- The number of bars in a text. -/
def bars (s : String) : Nat := s.toList.count '|'

/-- Of two places of one element in a list, the later one has fewer of them behind it. -/
theorem eq_nil_of_count_eq {c : Char} {us vs between : List Char}
    (eq : c :: us = between ++ c :: vs) (count : us.count c = vs.count c) : between = [] := by
  cases between with
  | nil => rfl
  | cons b bs =>
    have tail : us = bs ++ c :: vs := (List.cons.inj eq).2
    rw [tail, List.count_append, List.count_cons_self] at count
    omega

/-- Where equally many separators are behind it, a separator is at one place. -/
theorem append_cons_inj {c : Char} {xs ys us vs : List Char} (eq : xs ++ c :: us = ys ++ c :: vs)
    (count : us.count c = vs.count c) : xs = ys ∧ us = vs := by
  -- Of two different places, the first one would have one separator more behind it.
  have same : xs = ys := by
    rcases List.append_eq_append_iff.1 eq with ⟨between, rfl, rest⟩ | ⟨between, rfl, rest⟩
    · rw [eq_nil_of_count_eq rest count, List.append_nil]
    · rw [eq_nil_of_count_eq rest count.symm, List.append_nil]
  subst same
  exact ⟨rfl, (List.cons.inj (List.append_cancel_left eq)).2⟩

/-- Two parts are known from the text that joins them and from the bars of the second one. -/
theorem join_inj_iff {x y u v : String} :
    x = u ∧ y = v ↔ x ++ "|" ++ y = u ++ "|" ++ v ∧ bars y = bars v := by
  constructor
  · rintro ⟨rfl, rfl⟩
    exact ⟨rfl, rfl⟩
  · rintro ⟨eq, count⟩
    have chars : x.toList ++ '|' :: y.toList = u.toList ++ '|' :: v.toList := by
      simpa using congrArg String.toList eq
    have ⟨first, second⟩ := append_cons_inj chars count
    exact ⟨String.toList_inj.1 first, String.toList_inj.1 second⟩

/-! ## Keywords and entities -/

/-- A language as it stands in the name of a keyword. -/
def languageLabel (language : String) : String := Text.lower (trim language)

/-- Two texts are one keyword: their normal forms agree, and so do their languages. -/
def SameKeyword (text language text' language' : String) : Prop :=
  normalize text = normalize text' ∧ languageLabel language = languageLabel language'

namespace Mention

variable {a b : Mention}

/-- Two mentions are of one entity: they have one identifier in a knowledge base, or none, and then
the normal forms of their names agree, and so do their types. -/
def SameEntity (a b : Mention) : Prop :=
  a.knownId? = b.knownId? ∧ (a.knownId? = none →
    normalize a.identifyingName = normalize b.identifyingName ∧ a.typeLabel = b.typeLabel)

/-- The texts that are digested to name an entity. -/
def digestedContents (m : Mention) : List String :=
  if m.knownId?.isNone then [m.content] else []

theorem identifier_of_known {m : Mention} {id : String} (known : m.knownId? = some id) :
    m.identifier = "kb:" ++ id := by
  simp only [identifier, known]

theorem identifier_of_unknown {m : Mention} (unknown : m.knownId? = none) :
    m.identifier = contentIdentifier m.content := by
  simp only [identifier, unknown]

/-- Mentions without an identifier in a knowledge base are named alike if their names have one
normal form and their types are the same. -/
theorem identifier_congr (unknown : a.knownId? = none)
    (unknown' : b.knownId? = none)
    (name : normalize a.identifyingName = normalize b.identifyingName)
    (type : a.typeLabel = b.typeLabel) : a.identifier = b.identifier := by
  rw [identifier_of_unknown unknown, identifier_of_unknown unknown', content, content, name, type]

/-- Mentions with one name have one identifier in a knowledge base, or both have none. -/
theorem knownId?_eq_of_identifier_eq (eq : a.identifier = b.identifier) :
    a.knownId? = b.knownId? := by
  cases ha : a.knownId? with
  | none =>
    cases hb : b.knownId? with
    | none => rfl
    | some j =>
      rw [identifier_of_unknown ha, identifier_of_known hb] at eq
      exact absurd eq.symm (known_ne_contentIdentifier j a.content)
  | some i =>
    cases hb : b.knownId? with
    | none =>
      rw [identifier_of_known ha, identifier_of_unknown hb] at eq
      exact absurd eq (known_ne_contentIdentifier i b.content)
    | some j =>
      rw [identifier_of_known ha, identifier_of_known hb] at eq
      rw [(String.append_right_inj _).1 eq]

/-- Two mentions are of one entity exactly if they have one name and, without an identifier in a
knowledge base, types with equally many bars. -/
theorem sameEntity_iff (free : CollisionFree (a.digestedContents ++ b.digestedContents)) :
    a.SameEntity b ↔ a.identifier = b.identifier ∧
      (a.knownId? = none → bars a.typeLabel = bars b.typeLabel) := by
  constructor
  · rintro ⟨known, same⟩
    refine ⟨?_, fun unknown => congrArg bars (same unknown).2⟩
    cases ha : a.knownId? with
    | some id => rw [identifier_of_known ha, identifier_of_known (known.symm.trans ha)]
    | none =>
      have ⟨name, type⟩ := same ha
      exact identifier_congr ha (known.symm.trans ha) name type
  · rintro ⟨eq, count⟩
    have known := knownId?_eq_of_identifier_eq eq
    refine ⟨known, fun unknown => ?_⟩
    have unknown' := known.symm.trans unknown
    rw [identifier_of_unknown unknown, identifier_of_unknown unknown',
      free.contentIdentifier_eq_iff (by simp [digestedContents, unknown])
        (by simp [digestedContents, unknown'])] at eq
    exact join_inj_iff.2 ⟨eq, count unknown⟩

end Mention

/-- Two texts are one keyword exactly if they have one name and languages with equally many
bars. -/
theorem sameKeyword_iff {text language text' language' : String}
    (free : CollisionFree [keywordContent text language, keywordContent text' language']) :
    SameKeyword text language text' language' ↔
      keywordIdentifier text language = keywordIdentifier text' language' ∧
        bars (languageLabel language) = bars (languageLabel language') := by
  rw [keywordIdentifier, keywordIdentifier,
    free.contentIdentifier_eq_iff (by simp) (by simp)]
  exact join_inj_iff

/-- Where the digest tells apart the texts that name them, two keywords or two entities with one
name are the same exactly if their languages or types have equally many bars.  So they are wherever
languages and types have none. -/
theorem identifier_eq_iff (text language text' language' : String) (a b : Mention) :
    (CollisionFree [keywordContent text language, keywordContent text' language'] →
      (SameKeyword text language text' language' ↔
        keywordIdentifier text language = keywordIdentifier text' language' ∧
          bars (languageLabel language) = bars (languageLabel language'))) ∧
    (CollisionFree (a.digestedContents ++ b.digestedContents) →
      (a.SameEntity b ↔ a.identifier = b.identifier ∧
        (a.knownId? = none → bars a.typeLabel = bars b.typeLabel))) :=
  ⟨sameKeyword_iff, Mention.sameEntity_iff⟩

/-- One text in two languages is two keywords, and an entity with an identifier in a knowledge base
is not the one with that text for its name. -/
theorem identifier_eq_iff_lottery :
    let known : Mention := { text := "Powerball", kbId := some "Q1" }
    let unknown : Mention := { text := "kb:Q1" }
    CollisionFree [keywordContent "lottery" "en", keywordContent "lottery" "es"] ∧
      keywordIdentifier "lottery" "en" ≠ keywordIdentifier "lottery" "es" ∧
      CollisionFree (known.digestedContents ++ unknown.digestedContents) ∧
      known.identifier ≠ unknown.identifier := by
  intro known unknown
  have ⟨keywords, entities⟩ := identifier_eq_iff "lottery" "en" "lottery" "es" known unknown
  have languages :
      CollisionFree [keywordContent "lottery" "en", keywordContent "lottery" "es"] := by
    decide +kernel
  have mentions : CollisionFree (known.digestedContents ++ unknown.digestedContents) := by
    decide +kernel
  refine ⟨languages, fun eq => ?_, mentions, fun eq => ?_⟩
  · have same := (keywords languages).2 ⟨eq, by decide +kernel⟩
    exact absurd same.2 (by decide +kernel)
  · have settled : known.knownId? ≠ none := by decide +kernel
    have same := (entities mentions).2 ⟨eq, fun none => absurd none settled⟩
    exact absurd same.1 (by decide +kernel)

/-- Keywords and entities with one name need not be the same.  A bar in the first part of a joined
text can be taken for the one that ends it. -/
theorem not_identifier_injective :
    (¬ ∀ text language text' language' : String,
      CollisionFree [keywordContent text language, keywordContent text' language'] →
        keywordIdentifier text language = keywordIdentifier text' language' →
          SameKeyword text language text' language') ∧
    ¬ ∀ a b : Mention, a.identifiesEntity = true → b.identifiesEntity = true →
      CollisionFree (a.digestedContents ++ b.digestedContents) →
        a.identifier = b.identifier → a.SameEntity b := by
  constructor
  · intro claim
    have content : keywordContent "a|b" "c" = keywordContent "a" "b|c" := by decide +kernel
    have free : CollisionFree [keywordContent "a|b" "c", keywordContent "a" "b|c"] := by
      simp [CollisionFree, content]
    have same := claim "a|b" "c" "a" "b|c" free (congrArg contentIdentifier content)
    exact absurd same.1 (by decide +kernel)
  · intro claim
    let a : Mention := { text := "a|b", entityType := some "c" }
    let b : Mention := { text := "a", entityType := some "b|c" }
    have content : a.content = b.content := by decide +kernel
    have free : CollisionFree (a.digestedContents ++ b.digestedContents) := by
      have digested : a.digestedContents ++ b.digestedContents = [a.content, b.content] := rfl
      rw [digested]
      simp [CollisionFree, content]
    have same := claim a b (by decide +kernel) (by decide +kernel) free
      (congrArg contentIdentifier content)
    exact absurd (same.2 (by decide +kernel)).1 (by decide +kernel)

end KnowledgeGraph
