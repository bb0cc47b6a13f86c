import KnowledgeGraph.Proofs.Graph.Append
import KnowledgeGraph.Proofs.Text.Words

/-!
# Settings in use

Settings with values that make no sense are used as others, in which every such value is replaced
(`Settings.inUse`).  The functions that read a value in use pass over what they replaced themselves,
so the settings in use are used as they are (`inUse_isUsedAs`), and they pass the check, which
accepts just the settings whose numbers are in use already (`check_eq_ok_iff`).

A graph of posts depends on its settings only through what is in use of them (`ofPosts_congr`).  A
function that read a number without replacing it would break this.
-/

namespace KnowledgeGraph

namespace Settings

/-! ## Values in use -/

/-- Settings that are used alike. -/
structure IsUsedAs (c d : Settings) : Prop where
  /-- The same window is in use. -/
  window : c.window = d.window
  /-- Rarity counts in both or in none. -/
  weighRarity : c.weighRarity = d.weighRarity
  /-- The same time constant is in use. -/
  tau : c.tau = d.tau
  /-- Ages are counted from the same instant, if one is given. -/
  reference : c.reference = d.reference
  /-- The same number of keywords is in use. -/
  keywordLimit : c.keywordLimit = d.keywordLimit
  /-- The same number of characters is in use. -/
  excerptLimit : c.excerptLimit = d.excerptLimit
  /-- The same language is in use. -/
  language : c.language = d.language
  /-- Keywords are taken from the text in both or in none. -/
  fillKeywords : c.fillKeywords = d.fillKeywords

/-- The settings with the values in use in place of those that are given. -/
def inUse (c : Settings) : Settings :=
  { c with
    pairWindow := c.window
    tauDays := c.tau
    keptKeywords := c.keywordLimit
    keptChars := c.excerptLimit
    fallbackLanguage := c.language }

variable {c d : Settings}

theorem filter_filter_self {α : Type} (test : α → Bool) (o : Option α) :
    (o.filter test).filter test = o.filter test := by
  rw [Option.filter_filter]
  simp

/-- Replacing a zero twice is replacing it once. -/
theorem nonzero_nonzero {n m : Nat} (h : m ≠ 0) :
    (if (if n = 0 then m else n) = 0 then m else if n = 0 then m else n) =
      if n = 0 then m else n := by
  grind

theorem language_inUse (c : Settings) : c.inUse.language = c.language := by
  simp only [language, inUse]
  cases given : Text.presence? c.fallbackLanguage with
  | none => rfl
  | some language => rw [Option.getD_some, Text.presence?_of_presence? given, Option.getD_some]

/-- The settings in use are used as those that are given. -/
theorem inUse_isUsedAs (c : Settings) : c.inUse.IsUsedAs c where
  window := filter_filter_self _ _
  weighRarity := rfl
  tau := filter_filter_self _ _
  reference := rfl
  keywordLimit := nonzero_nonzero (by decide)
  excerptLimit := nonzero_nonzero (by decide)
  language := language_inUse c
  fillKeywords := rfl

/-! ## The check -/

/-- A value that passes a test stays, and only such a one does. -/
theorem filter_not_eq_none_iff {α : Type} {test : α → Bool} {o : Option α} :
    o.filter (!test ·) = none ↔ o.filter test = o := by
  cases o <;> simp

/-- The check accepts the settings whose numbers are in use as they are given. -/
theorem check_eq_ok_iff : c.check = .ok () ↔
    c.tau = c.tauDays ∧ c.window = c.pairWindow ∧ c.keywordLimit = c.keptKeywords ∧
      c.excerptLimit = c.keptChars := by
  have tau : c.tau = c.tauDays ↔ c.tauDays.filter (!isTau ·) = none := filter_not_eq_none_iff.symm
  have window : c.window = c.pairWindow ↔ c.pairWindow ≠ some 0 := by
    rw [Settings.window]
    cases c.pairWindow <;> simp
  have keywords : c.keywordLimit = c.keptKeywords ↔ c.keptKeywords ≠ 0 := by
    grind [keywordLimit]
  have chars : c.excerptLimit = c.keptChars ↔ c.keptChars ≠ 0 := by
    grind [excerptLimit]
  rw [tau, window, keywords, chars, check]
  cases c.tauDays.filter (!isTau ·) with
  | some bad => simp
  | none =>
    simp only [true_and]
    split_ifs <;> simp_all

/-- The settings in use pass the check. -/
theorem check_inUse (c : Settings) : c.inUse.check = .ok () := by
  have same := c.inUse_isUsedAs
  exact check_eq_ok_iff.2 ⟨same.tau, same.window, same.keywordLimit, same.excerptLimit⟩

/-- The check accepts settings exactly if nothing but the language is replaced in use. -/
theorem check_eq_ok_iff_inUse :
    c.check = .ok () ↔ c.inUse = { c with fallbackLanguage := c.inUse.fallbackLanguage } := by
  rw [check_eq_ok_iff]
  constructor
  · rintro ⟨tau, window, keywords, chars⟩
    rw [inUse, tau, window, keywords, chars]
  · intro same
    exact ⟨congrArg tauDays same, congrArg pairWindow same, congrArg keptKeywords same,
      congrArg keptChars same⟩

end Settings

/-! ## Graphs of posts -/

namespace Settings.IsUsedAs

variable {c d : Settings} (same : c.IsUsedAs d) (p : Post)

include same

theorem keywordLanguage : p.keywordLanguage c = p.keywordLanguage d := by
  rw [Post.keywordLanguage, Post.keywordLanguage, same.language]

theorem ofPost : Keyword.ofPost c p = Keyword.ofPost d p := by
  simp only [Keyword.ofPost, Keyword.entries, same.keywordLimit, same.fillKeywords]

theorem postNode (id : String) (count : Nat) : p.postNode c id count = p.postNode d id count := by
  rw [Post.postNode, Post.postNode, same.excerptLimit, same.keywordLanguage p]

/-- Settings that are used alike plan every post alike. -/
theorem plan : PlannedPost.of? c p = PlannedPost.of? d p := by
  simp only [PlannedPost.of?, same.ofPost p, same.keywordLanguage p, same.postNode p]

omit p in
/-- Settings that are used alike weigh keywords alike, at the same time. -/
theorem weighting (now : Instant) (plans : List PlannedPost) :
    Weighting.of now c plans = Weighting.of now d plans := by
  rw [Weighting.of, Weighting.of, same.weighRarity, same.tau, same.reference, same.window]

end Settings.IsUsedAs

namespace Graph

variable {c d : Settings}

/-- Settings that are used alike give the same graph. -/
theorem ofPosts_congr (same : c.IsUsedAs d) (now : Instant) (posts : List Post) :
    ofPosts now c posts = ofPosts now d posts := by
  have plans : PlannedPost.of? c = PlannedPost.of? d := funext same.plan
  simp only [ofPosts, plans, same.weighting]

/-- The time of making does not matter if ages do not depend on it. -/
theorem ofPosts_now (steady : c.IgnoresNow) (now later : Instant) (posts : List Post) :
    ofPosts now c posts = ofPosts later c posts := by
  simp only [ofPosts, Weighting.of, steady.decay_eq now later]

/-- Settings that make no sense are replaced, and nothing else is.  The settings in use pass the
check, are used as they are, and give the graphs of the settings that were given.  They differ from
these in more than the language only if the check refuses these. -/
theorem ofPosts_inUse (c : Settings) :
    c.inUse.check = .ok () ∧ c.inUse.IsUsedAs c ∧
      (∀ (posts : List Post) (now later : Instant), c.IgnoresNow →
        ofPosts now c posts = ofPosts later c.inUse posts) ∧
      (c.check = .ok () ↔ c.inUse = { c with fallbackLanguage := c.inUse.fallbackLanguage }) := by
  refine ⟨c.check_inUse, c.inUse_isUsedAs, ?_, Settings.check_eq_ok_iff_inUse⟩
  intro posts now later steady
  calc ofPosts now c posts
    _ = ofPosts later c posts := ofPosts_now steady now later posts
    _ = ofPosts later c.inUse posts := (ofPosts_congr c.inUse_isUsedAs later posts).symm

/-- Settings in which no number makes sense, for a post whose keyword has no language. -/
theorem ofPosts_inUse_lottery :
    let c : Settings :=
      { pairWindow := some 0, tauDays := some (-1.0), keptKeywords := 0, keptChars := 0
        fallbackLanguage := " pt\n" }
    let early : Instant := ⟨1, 0, by decide⟩
    let late : Instant := ⟨2, 0, by decide⟩
    let posts : List Post := [{ id := "p", text := "Loto", keywords := ["Lottery"] }]
    c.IgnoresNow ∧ c.check ≠ .ok () ∧ c.inUse.check = .ok () ∧
      c.inUse.keptChars = 500 ∧ c.inUse.fallbackLanguage = "pt" ∧
      ofPosts early c posts = ofPosts late c.inUse posts ∧
      ((ofPosts late c.inUse posts).node? ⟨.post, "p"⟩).bind (·.propertyText? "text") =
        some "Loto" := by
  intro c early late posts
  have steady : c.IgnoresNow := .inl (by rfl)
  have ⟨passes, _, same, accepted⟩ := ofPosts_inUse c
  have refused : c.check ≠ .ok () := fun ok => by
    have replaced : c.inUse.keptChars = c.keptChars := by rw [accepted.1 ok]
    exact absurd replaced (by decide)
  refine ⟨steady, refused, passes, rfl, by decide +kernel, same posts early late steady, ?_⟩
  rw [ofPosts, node?_ofFragments]
  decide +kernel

end Graph

end KnowledgeGraph
