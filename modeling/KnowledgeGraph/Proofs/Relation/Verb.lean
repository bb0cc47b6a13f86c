import Mathlib.Data.List.Nodup
import KnowledgeGraph.Proofs.Text.Casing
import KnowledgeGraph.Proofs.Text.Words
import KnowledgeGraph.Relation.Verb

/-!
# Canonical verbs

A canonical verb is a canonical verb of the table, or a token that the table does not know
(`IsCanonical`).  Both are left as they are, so canonicalizing is a normal form (`hasNormalForm`).
No alias is canonical, because no spelling occurs in the table twice (`nodup_spellings`).

The token of a verb is read off its words in lower case (`verbWords`).  A separator is neither cased
nor passed over by `Σ`, so the words before it and those after it can be had apart
(`verbWords_append_cons`), and it makes no difference which separators stand between words, how many
there are, and whether some stand around them (`IsAlike`).
-/

namespace KnowledgeGraph.Relation

open Character Text

/-! ## The words of a verb -/

/-- The words of a verb, in lower case. -/
def verbWords (cs : List Char) : List (List Char) := pieces isSeparator (lowerChars cs)

theorem token_eq (raw : String) :
    token raw = String.ofList (['_'].intercalate (verbWords raw.toList)) := rfl

/-- Separators end words for `Σ`, too. -/
theorem endsWord_of_isSeparator {b : Char} (h : isSeparator b = true) : EndsWord b := by
  have hyphen : isCaseIgnorable '-' = false ∧ isCased '-' = false ∧ isLower '-' = true := by
    decide +kernel
  have underscore : isCaseIgnorable '_' = false ∧ isCased '_' = false ∧ isLower '_' = true := by
    decide +kernel
  simp only [isSeparator, Bool.or_eq_true, beq_iff_eq] at h
  rcases h with (rfl | rfl) | blank
  · exact ⟨hyphen.1, hyphen.2.1, hyphen.2.2⟩
  · exact ⟨underscore.1, underscore.2.1, underscore.2.2⟩
  · exact endsWord_of_isBlank blank

/-- The words before a separator and those after it can be had apart. -/
theorem verbWords_append_cons {b : Char} (h : isSeparator b = true) (cs ds : List Char) :
    verbWords (cs ++ b :: ds) = verbWords cs ++ verbWords ds := by
  rw [verbWords, (endsWord_of_isSeparator h).lowerChars_append_cons, pieces_append_cons h,
    verbWords, verbWords]

/-- So can those before and after a run of separators. -/
theorem verbWords_run {run : List Char} (filled : run ≠ [])
    (separates : ∀ b ∈ run, isSeparator b = true) (cs ds : List Char) :
    verbWords (cs ++ run ++ ds) = verbWords cs ++ verbWords ds := by
  induction run generalizing cs with
  | nil => exact absurd rfl filled
  | cons b bs ih =>
    obtain ⟨first, rest⟩ := List.forall_mem_cons.1 separates
    cases bs with
    | nil => rw [List.append_assoc, List.singleton_append, verbWords_append_cons first]
    | cons b' bs =>
      rw [List.append_cons, ih (by simp) rest, verbWords_append_cons first]
      exact congrArg (· ++ verbWords ds) (List.append_nil _)

theorem of_mem_verbWords {w cs : List Char} (h : w ∈ verbWords cs) :
    w ≠ [] ∧ ∀ c ∈ w, isSeparator c = false ∧ isLower c = true := by
  obtain ⟨filled, within⟩ := of_mem_pieces h
  exact ⟨filled, fun c mem => ⟨(within c mem).1, isLower_of_mem_lowerAfter (within c mem).2⟩⟩

/-- A verb has the words of its lower case. -/
theorem verbWords_lowerChars (cs : List Char) : verbWords (lowerChars cs) = verbWords cs := by
  have lowered : lowerChars (lowerChars cs) = lowerChars cs :=
    lowerAfter_eq_self fun _ mem => isLower_of_mem_lowerAfter mem
  rw [verbWords, lowered, verbWords]

/-- The words of a token are read back. -/
theorem verbWords_token (raw : String) : verbWords (token raw).toList = verbWords raw.toList := by
  have lower : ∀ c ∈ ['_'].intercalate (verbWords raw.toList), isLower c = true := by
    intro c mem
    rcases mem_intercalate mem with rfl | ⟨w, within, here⟩
    · exact (endsWord_of_isSeparator (by decide)).lower
    · exact ((of_mem_verbWords within).2 c here).2
  rw [token_eq, String.toList_ofList, verbWords, lowerChars, lowerAfter_eq_self lower]
  refine pieces_intercalate (by decide) fun w mem => ?_
  obtain ⟨filled, within⟩ := of_mem_verbWords mem
  exact ⟨filled, fun c here => (within c here).1⟩

/-- A token is its own token. -/
theorem token_token (raw : String) : token (token raw) = token raw := by
  rw [token_eq (token raw), verbWords_token, ← token_eq]

/-! ## The table -/

/-- All spellings of a row. -/
def Entry.spellings (e : Entry) : List String := e.canonical :: e.aliases

/-- The bytes of a text as one number.  Numbers are compared at once, and texts letter by letter. -/
def byteCode (s : String) : Nat :=
  s.toByteArray.data.toList.foldl (fun n b => n * 256 + b.toNat) 1

/-- Whether no number occurs twice. -/
def noneTwice : List Nat → Bool
  | [] => true
  | n :: ns => ns.all (fun m => !n.beq m) && noneTwice ns

theorem nodup_of_noneTwice {ns : List Nat} (h : noneTwice ns = true) : ns.Nodup := by
  induction ns with
  | nil => exact .nil
  | cons n ns ih =>
    obtain ⟨here, later⟩ := Bool.and_eq_true_iff.1 h
    refine List.nodup_cons.2 ⟨fun mem => ?_, ih later⟩
    have other := List.all_eq_true.1 here n mem
    rw [Nat.beq_refl] at other
    cases other

/-- No spelling occurs in the table twice. -/
theorem nodup_spellings : (table.flatMap Entry.spellings).Nodup := by
  have codes : noneTwice ((table.flatMap Entry.spellings).map byteCode) = true := by
    decide +kernel
  exact .of_map byteCode (nodup_of_noneTwice codes)

/-- So a spelling belongs to one row, -/
theorem eq_of_mem_spellings {e e' : Entry} {t : String} (mem : e ∈ table) (mem' : e' ∈ table)
    (spelled : t ∈ e.spellings) (spelled' : t ∈ e'.spellings) : e = e' := by
  have symmetric : Std.Symm (Function.onFun List.Disjoint Entry.spellings) :=
    ⟨fun _ _ => List.disjoint_symm⟩
  have apart := (List.nodup_flatMap.1 nodup_spellings).2
  by_contra different
  exact apart.forall mem mem' different spelled spelled'

/-- and a canonical verb is an alias in no row. -/
theorem canonical_not_mem_aliases {e e' : Entry} (mem : e ∈ table) (mem' : e' ∈ table) :
    e.canonical ∉ e'.aliases := by
  intro listed
  obtain rfl := eq_of_mem_spellings mem mem' List.mem_cons_self (List.mem_cons_of_mem _ listed)
  exact (List.nodup_cons.1 ((List.nodup_flatMap.1 nodup_spellings).1 e mem)).1 listed

theorem Entry.knows_iff {e : Entry} {t : String} : e.knows t = true ↔ t ∈ e.spellings := by
  rw [knows, spellings, List.mem_cons, Bool.or_eq_true, beq_iff_eq, List.contains_iff_mem, eq_comm]

theorem of_entryOf?_eq_some {t : String} {e : Entry} (found : entryOf? t = some e) :
    e ∈ table ∧ t ∈ e.spellings := by
  rw [entryOf?] at found
  have knows : e.knows t = true := by simpa using List.find?_some found
  exact ⟨List.mem_of_find?_eq_some found, Entry.knows_iff.1 knows⟩

/-- The table has the row of every spelling, whatever the order of its rows. -/
theorem entryOf?_eq_some {t : String} {e : Entry} (mem : e ∈ table) (spelled : t ∈ e.spellings) :
    entryOf? t = some e := by
  have listed : (entryOf? t).isSome = true :=
    List.find?_isSome.2 ⟨e, mem, Entry.knows_iff.2 spelled⟩
  obtain ⟨e', found⟩ := Option.isSome_iff_exists.1 listed
  obtain ⟨mem', spelled'⟩ := of_entryOf?_eq_some found
  rw [found, eq_of_mem_spellings mem' mem spelled' spelled]

/-- A canonical verb leads to its own row. -/
theorem entryOf?_canonical {e : Entry} (mem : e ∈ table) : entryOf? e.canonical = some e :=
  entryOf?_eq_some mem List.mem_cons_self

/-- The canonical verbs of the table are tokens. -/
theorem token_canonical : ∀ e ∈ table, token e.canonical = e.canonical ∧ e.canonical ≠ "" := by
  decide +kernel

/-! ## Canonical verbs -/

/-- The verbs that are canonical. -/
inductive IsCanonical : String → Prop where
  /-- The canonical verb of a row. -/
  | known (e : Entry) : e ∈ table → IsCanonical e.canonical
  /-- A token that no row has. -/
  | free (t : String) : token t = t → t ≠ "" → entryOf? t = none → IsCanonical t

theorem isCanonical_unknownVerb : IsCanonical unknownVerb := by
  refine .free unknownVerb ?_ ?_ ?_ <;> decide +kernel

theorem isCanonical_canonicalVerb (raw : Option String) : IsCanonical (canonicalVerb raw) := by
  rw [canonicalVerb]
  split
  · exact isCanonical_unknownVerb
  · next filled =>
    split
    · next e found => exact .known e (of_entryOf?_eq_some found).1
    · next none =>
      exact .free _ (token_token _) (by simpa using filled) none

/-- A canonical verb is left as it is. -/
theorem IsCanonical.canonicalVerb_eq {verb : String} (h : IsCanonical verb) :
    canonicalVerb (some verb) = verb := by
  cases h with
  | known e mem =>
    obtain ⟨own, filled⟩ := token_canonical e mem
    simp [canonicalVerb, own, filled, entryOf?_canonical mem]
  | free _ own filled none => simp [canonicalVerb, own, filled, none]

/-- No alias is canonical. -/
theorem IsCanonical.not_mem_aliases {verb : String} (h : IsCanonical verb) {e : Entry}
    (mem : e ∈ table) : verb ∉ e.aliases := by
  cases h with
  | known e' mem' => exact canonical_not_mem_aliases mem' mem
  | free _ _ _ none =>
    intro listed
    rw [entryOf?_eq_some mem (List.mem_cons_of_mem _ listed)] at none
    cases none

/-! ## Spellings -/

/-- A run of separators. -/
structure IsRun (s : String) : Prop where
  /-- There is one at least. -/
  filled : s ≠ ""
  /-- There is nothing else. -/
  separates : ∀ c ∈ s.toList, isSeparator c = true

/-- Texts that differ in what does not count in a verb: in the separators between words, in the
separators around them, and in case. -/
inductive IsAlike : String → String → Prop where
  /-- One run of separators stands in place of another. -/
  | between {s t : String} (before after : String) : IsRun s → IsRun t →
      IsAlike (before ++ s ++ after) (before ++ t ++ after)
  /-- A run of separators stands in front. -/
  | front {s : String} (raw : String) : IsRun s → IsAlike (s ++ raw) raw
  /-- A run of separators stands at the end. -/
  | back {s : String} (raw : String) : IsRun s → IsAlike (raw ++ s) raw
  /-- The text is in lower case. -/
  | lowered (raw : String) : IsAlike (lower raw) raw
  /-- The two in the other order. -/
  | symm {raw raw' : String} : IsAlike raw raw' → IsAlike raw' raw
  /-- One after the other. -/
  | trans {raw raw' raw'' : String} : IsAlike raw raw' → IsAlike raw' raw'' → IsAlike raw raw''

theorem IsAlike.verbWords_eq {raw raw' : String} (h : IsAlike raw raw') :
    verbWords raw.toList = verbWords raw'.toList := by
  have run {s : String} (hs : IsRun s) (cs ds : List Char) :
      verbWords (cs ++ (s.toList ++ ds)) = verbWords cs ++ verbWords ds := by
    rw [← List.append_assoc]
    exact verbWords_run (by simpa using hs.filled) hs.separates cs ds
  induction h with
  | between before after hs ht =>
    simp only [String.toList_append, List.append_assoc, run hs, run ht]
  | front raw hs =>
    rw [String.toList_append]
    exact run hs [] raw.toList
  | back raw hs =>
    have ends := run hs raw.toList []
    rw [List.append_nil] at ends
    rw [String.toList_append, ends]
    exact List.append_nil _
  | lowered raw => rw [lower, String.toList_ofList, verbWords_lowerChars]
  | symm _ ih => exact ih.symm
  | trans _ _ first second => exact first.trans second

theorem IsAlike.canonicalVerb_eq {raw raw' : String} (h : IsAlike raw raw') :
    canonicalVerb (some raw) = canonicalVerb (some raw') := by
  have same : token raw = token raw' := by rw [token_eq, h.verbWords_eq, ← token_eq]
  simp only [canonicalVerb, Option.getD_some, same]

/-! ## The normal form -/

/-- What holds of a verb and its canonical form. -/
structure HasNormalForm (raw : Option String) : Prop where
  /-- The canonical form is its own canonical form. -/
  stable : canonicalVerb (some (canonicalVerb raw)) = canonicalVerb raw
  /-- It has the class of the verb. -/
  sameClass : verbClass (some (canonicalVerb raw)) = verbClass raw
  /-- The class of a verb that the table knows is the one in the table. -/
  known : ∀ e ∈ table, canonicalVerb raw = e.canonical → verbClass raw = e.relationClass
  /-- Every other verb is of the class `other`. -/
  other : (∀ e ∈ table, canonicalVerb raw ≠ e.canonical) → verbClass raw = .other
  /-- The canonical form is no alias. -/
  noAlias : ∀ e ∈ table, canonicalVerb raw ∉ e.aliases
  /-- It is the one of every text that differs in separators and case only. -/
  alike : ∀ text ∈ raw, ∀ text', IsAlike text text' →
    canonicalVerb (some text') = canonicalVerb raw

/-- Canonicalizing verbs is a normal form: it leaves canonical verbs and their classes as they are,
ends at no alias, and does not depend on separators and case. -/
theorem hasNormalForm (raw : Option String) : HasNormalForm raw := by
  have canonical := isCanonical_canonicalVerb raw
  have stable := canonical.canonicalVerb_eq
  refine ⟨stable, ?_, ?_, ?_, fun e mem => canonical.not_mem_aliases mem, ?_⟩
  · rw [verbClass, stable, ← verbClass]
  · intro e mem own
    rw [verbClass, own, entryOf?_canonical mem]
  · intro none
    rw [verbClass]
    cases eq : entryOf? (canonicalVerb raw) with
    | none => rfl
    | some e =>
      obtain ⟨mem, spelled⟩ := of_entryOf?_eq_some eq
      rcases List.mem_cons.1 spelled with own | listed
      · exact absurd own (none e mem)
      · exact absurd listed (canonical.not_mem_aliases mem)
  · intro text given text' alike
    rw [← alike.canonicalVerb_eq, Option.mem_def.1 given]

end KnowledgeGraph.Relation
