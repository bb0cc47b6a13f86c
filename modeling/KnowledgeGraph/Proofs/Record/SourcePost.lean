import KnowledgeGraph.Proofs.Json.MemberOrder
import KnowledgeGraph.Record.SourcePost

/-!
# What a post of a source is read from

A post is read from the source that it names once and from the rest of its value, be it an object or
a list (`DeliversPost`).  That is said of values, and every draft with a value is read as its value
says (`read_eq_ok_iff`).

The canonical form of a value delivers the same post, and a value delivers what its canonical form
does as long as it repeats no field that is read (`deliversPost_iff_canonical`).
-/

namespace KnowledgeGraph

open Json (Codec Field Draft Fault bind_eq_ok pure_eq_ok map_eq_ok ok_bind)
open Json.Draft (WholeItems WholeMembers)

/-! ## The fields of posts -/

/-- Mentions are read as their canonical forms when they give their fields once. -/
theorem Mention.readsCanonical :
    Mention.codec.ReadsCanonical fun j => j.GivesOnce Mention.codec.fieldNames := by
  have plain {β : Type} {name : String} {c : Codec β} {get : Mention → β}
      {set : β → Mention → Mention} (flat : c.IsFlat) :
      (Field.of name c get set).ReadsCanonical fun _ => True :=
    Field.readsCanonical_of_isFlat flat fun _ => trivial
  have text := Codec.isFlat_text
  have number := Codec.isFlat_number
  have span := Codec.isFlat_count.pair Codec.isFlat_count
  refine Codec.ReadsCanonical.congr
    (Codec.ReadsCanonical.record (fun _ _ => True) (by decide) ?commute ?each)
    fun j => and_iff_left fun _ _ => trivial
  case commute =>
    simp only [List.pairwise_cons, List.forall_mem_cons, List.not_mem_nil, false_implies,
      implies_true, and_true, List.Pairwise.nil]
    and_intros
    all_goals exact Field.commutes_of fun _ _ _ => rfl
  case each =>
    simp only [List.forall_mem_cons, List.not_mem_nil, false_implies, implies_true, and_true]
    exact ⟨plain text, plain text.optional, plain text.optional, plain text.optional,
      plain span.optional, plain number.optional⟩

namespace SourcePost

/-- Whether a value that is given for a field of a post gives the fields of every mention once, if
it is a list of mentions. -/
def MentionsOnce (name : String) (v : Json) : Prop :=
  name = "entities" → ∀ m ∈ v.items, m.GivesOnce Mention.codec.fieldNames

/-- Whether a value gives every field of a post once, and every field of a mention in it. -/
def FieldsOnce (fields : List String) (j : Json) : Prop :=
  j.GivesOnce fields ∧ ∀ e ∈ j.given fields, MentionsOnce e.1 e.2

theorem reads_plain {α β : Type} {name : String} {c : Codec β} {get : α → β}
    {set : β → α → α} (flat : c.IsFlat) (other : name ≠ "entities") :
    (Field.of name c get set).ReadsCanonical (MentionsOnce name) :=
  Field.readsCanonical_of_isFlat flat fun _ same => absurd same other

theorem reads_entities {α : Type} {get : α → List Mention} {set : List Mention → α → α} :
    (Field.of "entities" (.list Mention.codec) get set).ReadsCanonical (MentionsOnce "entities") :=
  Field.readsCanonical_of (Mention.readsCanonical.list.congr fun _ =>
    ⟨fun once _ => once, fun once => once rfl⟩)

theorem readsCanonical_reddit :
    RedditSubmission.codec.ReadsCanonical (FieldsOnce RedditSubmission.codec.fieldNames) := by
  have text := Codec.isFlat_text
  have number := Codec.isFlat_number
  refine Codec.ReadsCanonical.record MentionsOnce (by decide) ?commute ?each
  case commute =>
    simp only [List.pairwise_cons, List.forall_mem_cons, List.not_mem_nil, false_implies,
      implies_true, and_true, List.Pairwise.nil]
    and_intros
    all_goals exact Field.commutes_of fun _ _ _ => rfl
  case each =>
    simp only [List.forall_mem_cons, List.not_mem_nil, false_implies, implies_true, and_true]
    refine ⟨reads_plain text ?_, reads_plain text.optional ?_, reads_plain text.optional ?_,
      reads_plain text ?_, reads_plain text ?_, reads_plain text.optional ?_,
      reads_plain text.optional ?_, reads_plain number.optional ?_, reads_plain text.optional ?_,
      reads_plain text.list ?_, reads_plain text.optional ?_, reads_plain text.list ?_,
      reads_entities, reads_plain text.optional ?_⟩
    all_goals decide

theorem readsCanonical_sentiment :
    AnalysedDocument.codec.ReadsCanonical (FieldsOnce AnalysedDocument.codec.fieldNames) := by
  have text := Codec.isFlat_text
  refine Codec.ReadsCanonical.record MentionsOnce (by decide) ?commute ?each
  case commute =>
    simp only [List.pairwise_cons, List.forall_mem_cons, List.not_mem_nil, false_implies,
      implies_true, and_true, List.Pairwise.nil]
    and_intros
    all_goals exact Field.commutes_of fun _ _ _ => rfl
  case each =>
    simp only [List.forall_mem_cons, List.not_mem_nil, false_implies, implies_true, and_true]
    refine ⟨reads_plain text ?_, reads_plain text ?_, reads_plain text.optional ?_,
      reads_plain text ?_, reads_plain text.optional ?_, reads_plain text.optional ?_,
      reads_plain text.list ?_, reads_plain text.list ?_, reads_plain text.list ?_,
      reads_plain text.optional ?_, reads_plain text.optional ?_, reads_plain text.optional ?_,
      reads_plain text.list ?_, reads_entities, reads_plain text.optional ?_⟩
    all_goals decide

/-- The names of the fields of a post from a source. -/
def Origin.fieldNames : Origin → List String
  | .reddit => RedditSubmission.codec.fieldNames
  | .sentiment => AnalysedDocument.codec.fieldNames

/-- The fields of a post are read as their canonical forms when they are given once. -/
theorem readFields_eq_ok_iff (j : Json) (o : Origin) (r : SourcePost) :
    readFields j o = .ok r ↔ readFields j.canonical o = .ok r ∧ FieldsOnce o.fieldNames j := by
  cases o with
  | reddit => exact readsCanonical_reddit.map_eq_ok_iff .reddit j r
  | sentiment => exact readsCanonical_sentiment.map_eq_ok_iff .sentiment j r

/-! ## The source and the other members -/

/-- The members that name the source. -/
def sourceMembers (ms : List (String × Json)) : List (String × Json) :=
  ms.filter fun e => e.1 == "source"

/-- The members that do not name the source. -/
def otherMembers (ms : List (String × Json)) : List (String × Json) :=
  ms.filter fun e => e.1 != "source"

/-- What a value names as its source, each time with what it gives for the fields of a post. -/
def tagged : Json → List (Json × Json)
  | .object ms => (sourceMembers ms).map fun e => (e.2, .object (otherMembers ms))
  | .array (s :: items) => [(s, .array items)]
  | _ => []

/-- Whether a value names its source once at most, and gives the fields of a post from there once
each. -/
def GivesPostOnce (j : Json) : Prop :=
  (tagged j).length ≤ 1 ∧ ∀ s rest o, (s, rest) ∈ tagged j → Origin.read s.draft = .ok o →
    FieldsOnce o.fieldNames rest

theorem sourceMembers_source (v : Json) (ms : List (String × Json)) :
    sourceMembers (("source", v) :: ms) = ("source", v) :: sourceMembers ms := rfl

theorem otherMembers_source (v : Json) (ms : List (String × Json)) :
    otherMembers (("source", v) :: ms) = otherMembers ms := rfl

theorem sourceMembers_other {k : String} (other : k ≠ "source") (v : Json)
    (ms : List (String × Json)) : sourceMembers ((k, v) :: ms) = sourceMembers ms :=
  List.filter_cons_of_neg (by simpa using other)

theorem otherMembers_other {k : String} (other : k ≠ "source") (v : Json)
    (ms : List (String × Json)) : otherMembers ((k, v) :: ms) = (k, v) :: otherMembers ms :=
  List.filter_cons_of_pos (by simpa using other)

/-! ## Sources in drafts -/

/-- The value of a draft says whether it is a text, and which one. -/
theorem text_read_of_keep {d : Draft} (whole : d.Whole) {room : Nat} {j : Json}
    (kept : d.keep room = .ok j) : Codec.text.read j.draft = Codec.text.read d := by
  cases d with
  | null | bool =>
    cases kept
    rfl
  | number value _ =>
    have number := whole.1 j kept
    obtain rfl : value = .ok j := kept
    cases j <;> first | rfl | cases number
  | string value _ =>
    obtain ⟨s, rfl, rfl⟩ := map_eq_ok.1 kept
    rfl
  | array =>
    cases room with
    | zero => cases kept
    | succ room =>
      obtain ⟨js, -, -, rfl⟩ := Draft.keep_array_eq_ok.1 kept
      rfl
  | object =>
    cases room with
    | zero => cases kept
    | succ room =>
      obtain ⟨ms, -, -, rfl⟩ := Draft.keep_object_eq_ok.1 kept
      rfl
  | broken => cases kept

theorem keep_of_text_read {d : Draft} {s : String} (text : Codec.text.read d = .ok s) (room : Nat) :
    d.keep room = .ok (.string s) := by
  cases d with
  | string value _ =>
    obtain rfl : value = .ok s := text
    rfl
  | number value _ => cases value <;> cases text
  | _ => cases text

theorem Origin.read_of_keep {d : Draft} (whole : d.Whole) {room : Nat} {j : Json}
    (kept : d.keep room = .ok j) : Origin.read j.draft = Origin.read d := by
  rw [Origin.read, Origin.read, text_read_of_keep whole kept]

theorem Origin.exists_keep {d : Draft} {o : Origin} (read : Origin.read d = .ok o) (room : Nat) :
    ∃ j, d.keep room = .ok j := by
  obtain ⟨s, text, -⟩ := bind_eq_ok.1 read
  exact ⟨.string s, keep_of_text_read text room⟩

/-! ## Splitting members -/

section Splitting

variable {origin : Option Origin} {label : Json.Label} {d : Draft}
  {members : List (Json.Label × Draft)}

theorem splitMembers_source_eq_ok (name : label.name = .ok "source")
    {p : Origin × List (String × Json)} :
    splitMembers none origin ((label, d) :: members) = .ok p ↔
      origin = none ∧ ∃ o, Origin.read d = .ok o ∧ splitMembers none (some o) members = .ok p := by
  cases origin with
  | none => simp only [splitMembers, name, ok_bind, if_true, Option.isSome_none, if_false,
      Bool.false_eq_true, bind_eq_ok, true_and]
  | some o => simp [splitMembers, name, ok_bind]

theorem splitMembers_other_eq_ok {k : String} (name : label.name = .ok k) (other : k ≠ "source")
    {o : Origin} {kept : List (String × Json)} :
    splitMembers none origin ((label, d) :: members) = .ok (o, kept) ↔
      ∃ j kept', d.keep roomBelow = .ok j ∧ splitMembers none origin members = .ok (o, kept') ∧
        (k, j) :: kept' = kept := by
  simp only [splitMembers, name, ok_bind, if_neg other, bind_eq_ok, pure_eq_ok, Prod.exists,
    Prod.mk.injEq, exists_and_left]
  constructor
  · rintro ⟨j, value, o', kept', split, rfl, rfl⟩
    exact ⟨j, value, kept', split, rfl⟩
  · rintro ⟨j, value, kept', split, rfl⟩
    exact ⟨j, value, o, kept', split, rfl, rfl⟩

end Splitting

/-- After the source no other member may name it, and the others are kept. -/
theorem splitMembers_some_eq_ok {members : List (Json.Label × Draft)} (whole : WholeMembers members)
    {o o' : Origin} {kept : List (String × Json)} :
    splitMembers none (some o) members = .ok (o', kept) ↔
      ∃ ms, Draft.keepMembers roomBelow members = .ok ms ∧
        sourceMembers ms = [] ∧ o = o' ∧ otherMembers ms = kept := by
  induction members generalizing kept with
  | nil =>
    simp [splitMembers, Draft.keepMembers, Json.raise, sourceMembers, otherMembers]
  | cons e members ih =>
    obtain ⟨⟨name, passing⟩, d⟩ := e
    obtain ⟨-, -, others⟩ := whole
    cases name with
    | error f =>
      constructor
      · intro h
        cases h
      · rintro ⟨_, h, -⟩
        cases h
    | ok k =>
      by_cases source : k = "source"
      · subst source
        rw [splitMembers_source_eq_ok rfl]
        constructor
        · rintro ⟨⟨⟩, -⟩
        · rintro ⟨_, keeps, none, -⟩
          obtain ⟨_, j, ms, ⟨⟩, -, -, rfl⟩ := Draft.keepMembers_cons_eq_ok.1 keeps
          cases none
      · rw [splitMembers_other_eq_ok rfl source]
        simp only [Draft.keepMembers_cons_eq_ok, ih others]
        constructor
        · rintro ⟨j, _, first, ⟨ms, rest, none, rfl, rfl⟩, rfl⟩
          refine ⟨_, ⟨k, j, ms, rfl, first, rest, rfl⟩, ?_⟩
          rw [sourceMembers_other source, otherMembers_other source]
          exact ⟨none, rfl, rfl⟩
        · rintro ⟨_, ⟨_, j, ms, ⟨⟩, first, rest, rfl⟩, none, rfl, rfl⟩
          rw [sourceMembers_other source] at none
          exact ⟨j, _, first, ⟨ms, rest, none, rfl, rfl⟩, (otherMembers_other source j ms).symm⟩

/-- The source is named by one member, and the others are kept. -/
theorem splitMembers_none_eq_ok {members : List (Json.Label × Draft)} (whole : WholeMembers members)
    {o : Origin} {kept : List (String × Json)} :
    splitMembers none none members = .ok (o, kept) ↔
      ∃ ms s, Draft.keepMembers roomBelow members = .ok ms ∧
        sourceMembers ms = [("source", s)] ∧ Origin.read s.draft = .ok o ∧
          otherMembers ms = kept := by
  induction members generalizing kept with
  | nil =>
    simp [splitMembers, Draft.keepMembers, Json.raise, sourceMembers, ok_bind]
  | cons e members ih =>
    obtain ⟨⟨name, passing⟩, d⟩ := e
    obtain ⟨-, value, others⟩ := whole
    cases name with
    | error f =>
      constructor
      · intro h
        cases h
      · rintro ⟨_, _, h, -⟩
        cases h
    | ok k =>
      by_cases source : k = "source"
      · subst source
        rw [splitMembers_source_eq_ok rfl]
        simp only [splitMembers_some_eq_ok others, Draft.keepMembers_cons_eq_ok]
        constructor
        · rintro ⟨-, o', named, ms, rest, none, rfl, rfl⟩
          obtain ⟨s, first⟩ := Origin.exists_keep named roomBelow
          refine ⟨_, s, ⟨_, s, ms, rfl, first, rest, rfl⟩, ?_⟩
          rw [sourceMembers_source, otherMembers_source, none]
          exact ⟨rfl, (Origin.read_of_keep value first).trans named, rfl⟩
        · rintro ⟨_, s, ⟨_, j, ms, ⟨⟩, first, rest, rfl⟩, only, named, rfl⟩
          obtain ⟨⟨⟩, none⟩ := List.cons.inj only
          have named := (Origin.read_of_keep value first).symm.trans named
          exact ⟨trivial, o, named, ms, rest, none, rfl, rfl⟩
      · rw [splitMembers_other_eq_ok rfl source]
        simp only [Draft.keepMembers_cons_eq_ok, ih others]
        constructor
        · rintro ⟨j, _, first, ⟨ms, s, rest, only, named, rfl⟩, rfl⟩
          refine ⟨_, s, ⟨k, j, ms, rfl, first, rest, rfl⟩, ?_⟩
          rw [sourceMembers_other source, otherMembers_other source]
          exact ⟨only, named, rfl⟩
        · rintro ⟨_, s, ⟨_, j, ms, ⟨⟩, first, rest, rfl⟩, only, named, rfl⟩
          rw [sourceMembers_other source] at only
          refine ⟨j, _, first, ⟨ms, s, rest, only, named, rfl⟩, ?_⟩
          rw [otherMembers_other source]

/-! ## Reading posts -/

/-- Whether a value names its source once, and the rest of it is read as a post from there. -/
def DeliversPost (j : Json) (r : SourcePost) : Prop :=
  ∃ s rest o, tagged j = [(s, rest)] ∧ Origin.read s.draft = .ok o ∧ readFields rest o = .ok r

theorem tagged_object_eq_singleton_iff {ms : List (String × Json)} {s rest : Json} :
    tagged (.object ms) = [(s, rest)] ↔
      sourceMembers ms = [("source", s)] ∧ .object (otherMembers ms) = rest := by
  rw [tagged, List.map_eq_singleton_iff]
  constructor
  · rintro ⟨⟨k, v⟩, only, tag⟩
    obtain ⟨rfl, rest⟩ := Prod.mk.inj tag
    have named : (k, v) ∈ sourceMembers ms := by simp [only]
    have source : k = "source" := by simpa using (List.mem_filter.1 named).2
    exact ⟨source ▸ only, rest⟩
  · rintro ⟨only, rfl⟩
    exact ⟨_, only, rfl⟩

/-- A post is read from a draft as its value delivers it. -/
theorem read_eq_ok_iff {d : Draft} (whole : d.Whole) {r : SourcePost} :
    read d = .ok r ↔ ∃ j, d.keep (roomBelow + 1) = .ok j ∧ DeliversPost j r := by
  cases d with
  | object members cut =>
    obtain ⟨whole, rfl⟩ := whole
    simp only [read, bind_eq_ok, Prod.exists, splitMembers_none_eq_ok whole,
      Draft.keep_object_eq_ok]
    constructor
    · rintro ⟨o, _, ⟨ms, s, keeps, only, named, rfl⟩, fields⟩
      exact ⟨_, ⟨ms, keeps, trivial, rfl⟩, s, _, o,
        tagged_object_eq_singleton_iff.2 ⟨only, rfl⟩, named, fields⟩
    · rintro ⟨_, ⟨ms, keeps, -, rfl⟩, s, _, o, tag, named, fields⟩
      obtain ⟨only, rfl⟩ := tagged_object_eq_singleton_iff.1 tag
      exact ⟨o, _, ⟨ms, s, keeps, only, named, rfl⟩, fields⟩
  | array items cut surplus =>
    obtain ⟨whole, rfl⟩ := whole
    cases items with
    | nil =>
      constructor
      · intro h
        cases h
      · rintro ⟨_, ⟨⟩, _, _, _, ⟨⟩, -⟩
    | cons d ds =>
      simp only [Draft.keep_array_eq_ok, Draft.keepItems_cons_eq_ok, read, Json.raise, ok_bind,
        bind_eq_ok]
      constructor
      · rintro ⟨o, named, items, keeps, fields⟩
        obtain ⟨s, first⟩ := Origin.exists_keep named roomBelow
        exact ⟨_, ⟨_, ⟨s, items, first, keeps, rfl⟩, trivial, rfl⟩, s, _, o, rfl,
          (Origin.read_of_keep whole.1 first).trans named, fields⟩
      · rintro ⟨_, ⟨_, ⟨s, items, first, keeps, rfl⟩, -, rfl⟩, _, _, o, ⟨⟩, named, fields⟩
        exact ⟨o, (Origin.read_of_keep whole.1 first).symm.trans named, items, keeps, fields⟩
  | number value _ =>
    constructor
    · intro h
      cases value <;> cases h
    · rintro ⟨j, keeps, _, _, _, tag, -⟩
      have number := whole.1 j keeps
      cases j <;> first | cases tag | cases number
  | string value _ =>
    constructor
    · intro h
      cases value <;> cases h
    · rintro ⟨j, keeps, _, _, _, tag, -⟩
      obtain ⟨s, -, rfl⟩ := map_eq_ok.1 keeps
      cases tag
  | null | bool =>
    constructor
    · intro h
      cases h
    · rintro ⟨_, ⟨⟩, _, _, _, ⟨⟩, -⟩
  | broken => cases whole

/-- A post is read from a value that is not too deep as the value delivers it. -/
theorem read_draft_eq_ok_iff {j : Json} (shallow : j.depth ≤ roomBelow + 1) {r : SourcePost} :
    read j.draft = .ok r ↔ DeliversPost j r := by
  rw [read_eq_ok_iff (Json.whole_draft j), Json.keep_draft shallow]
  simp

/-! ## Canonical forms -/

theorem Origin.read_canonical (j : Json) : Origin.read j.canonical.draft = Origin.read j.draft := by
  have text : Codec.text.read j.canonical.draft = Codec.text.read j.draft := Codec.isFlat_text j
  rw [Origin.read, Origin.read, text]

theorem sourceMembers_canonicalMembers (ms : List (String × Json)) :
    sourceMembers (Json.canonicalMembers ms) = Json.canonicalMembers (sourceMembers ms) := by
  rw [Json.canonicalMembers_eq_map, Json.canonicalMembers_eq_map, sourceMembers, List.filter_map]
  rfl

theorem otherMembers_canonicalMembers (ms : List (String × Json)) :
    otherMembers (Json.canonicalMembers ms) = Json.canonicalMembers (otherMembers ms) := by
  rw [Json.canonicalMembers_eq_map, Json.canonicalMembers_eq_map, otherMembers, List.filter_map]
  rfl

/-- A value that names its source once at most names it in its canonical form alike. -/
theorem tagged_canonical {j : Json} (once : (tagged j).length ≤ 1) :
    tagged j.canonical = (tagged j).map (Prod.map Json.canonical Json.canonical) := by
  cases j with
  | object ms =>
    have source : sourceMembers (KeyedMap.ofList (Json.canonicalMembers ms)).entries =
        (KeyedMap.ofList (Json.canonicalMembers (sourceMembers ms))).entries := by
      rw [← sourceMembers_canonicalMembers]
      exact KeyedMap.entries_ofList_filter (· == "source") _
    have others : otherMembers (KeyedMap.ofList (Json.canonicalMembers ms)).entries =
        (KeyedMap.ofList (Json.canonicalMembers (otherMembers ms))).entries := by
      rw [← otherMembers_canonicalMembers]
      exact KeyedMap.entries_ofList_filter (· != "source") _
    rw [tagged, List.length_map] at once
    rw [Json.canonical, tagged, tagged, source, others]
    generalize sourceMembers ms = named at once
    cases named with
    | nil => rfl
    | cons e more =>
      obtain rfl : more = [] := List.eq_nil_of_length_eq_zero (Nat.le_zero.1
        (Nat.le_of_succ_le_succ once))
      rfl
  | array items => cases items <;> rfl
  | _ => rfl

/-- A value that repeats no field delivers what its canonical form does, and no other value delivers
a post. -/
theorem deliversPost_iff_canonical {j : Json} {r : SourcePost} :
    DeliversPost j r ↔ DeliversPost j.canonical r ∧ GivesPostOnce j := by
  constructor
  · rintro ⟨s, rest, o, tag, named, fields⟩
    have canonical : tagged j.canonical = [(s.canonical, rest.canonical)] := by
      rw [tagged_canonical (by rw [tag]; simp), tag]
      rfl
    obtain ⟨fields, once⟩ := (readFields_eq_ok_iff rest o r).1 fields
    refine ⟨⟨_, _, o, canonical, (Origin.read_canonical s).trans named, fields⟩, ?_, ?_⟩
    · rw [tag]
      simp
    · intro s' rest' o' mem named'
      rw [tag, List.mem_singleton] at mem
      obtain ⟨rfl, rfl⟩ := Prod.mk.inj mem
      obtain rfl : o = o' := Except.ok.inj (named.symm.trans named')
      exact once
  · rintro ⟨⟨s', rest', o, canonical, named, fields⟩, one, once⟩
    rw [tagged_canonical one] at canonical
    obtain ⟨⟨s, rest⟩, tag, parts⟩ := List.map_eq_singleton_iff.1 canonical
    obtain ⟨rfl, rfl⟩ := Prod.mk.inj parts
    rw [Origin.read_canonical] at named
    have mem : (s, rest) ∈ tagged j := by simp [tag]
    exact ⟨s, rest, o, tag, named, (readFields_eq_ok_iff rest o r).2
      ⟨fields, once s rest o mem named⟩⟩

end SourcePost

end KnowledgeGraph
