import KnowledgeGraph.Proofs.Graph.Corpus
import KnowledgeGraph.Proofs.Identity

/-!
# What the ends of statements stand for

A mention answers to a literal when one of its names has the normal form of the literal
(`Mention.answersTo`).  A literal of a document stands for the first of its mentions that answers
to it, and for an entity of its own if there is none (`PolicyDocument.entityOf`).  No index and no
other document takes part in that, and still it says what every relation edge of the graph of
policies joins (`Graph.relations_ofPolicies`).

While the statements are resolved, the index is only ever right (`Resolution.Follows`): what it
finds for a literal is what the literal stands for, and it finds every literal that a mention
answers to.  One literal keeps that (`Follows.resolve`), so the edges of all statements have the
ends they should (`Follows.relationEdges`).  The nodes that are made on the way are those of the
literals that nothing answers to, one for each normal form (`created_resolveAll`).

A document gives its edges kind by kind (`PolicyDocument.filter_edges_of_fragment?`), and the graph
has those of one kind document by document (`Graph.edgesOf_ofPolicies_eq`).
-/

namespace KnowledgeGraph

open KnowledgeGraph.Graph (Fragment)
open Text (normalize presence?)

/-! ## What literals stand for -/

/-- The names of a mention: its text, and the usual name if there is one. -/
def Mention.names (m : Mention) : List String := m.text :: m.canonicalName.toList

/-- Whether one of the names has the normal form of the literal, and that is not empty. -/
def Mention.answersTo (m : Mention) (literal : String) : Bool :=
  normalize literal != "" && m.names.any fun name => normalize literal == normalize name

/-- The literals of a statement, if neither of its ends is blank. -/
def Statement.literals (t : Statement) : List String :=
  match t.ends? with
  | some (subject, object) => [subject, object]
  | none => []

namespace PolicyDocument

/-- The first mention of the document that identifies an entity and answers to a literal. -/
def declared? (r : PolicyDocument) (literal : String) : Option Mention :=
  r.entities.find? fun m => m.identifiesEntity && m.answersTo literal

/-- The entity that a literal of the document stands for.  A literal that nothing answers to is
named like a mention of it without a type. -/
def entityOf (r : PolicyDocument) (literal : String) : Ref :=
  ⟨.entity, ((r.declared? literal).getD { text := literal }).identifier⟩

/-- The edges of the statements of a document, if it has an identifier. -/
def relationsOf (r : PolicyDocument) : List Edge :=
  match presence? r.docId with
  | none => []
  | some docId => r.relations.filterMap fun t => t.ends?.map fun (subject, object) =>
      t.edge docId (r.entityOf subject) (r.entityOf object)

/-- The literals that no mention answers to, one for each normal form. -/
def newLiterals (r : PolicyDocument) : List String :=
  ((r.relations.flatMap Statement.literals).filter fun x => (r.declared? x).isNone).eraseDupsBy
    fun x y => normalize x == normalize y

/-- Only the normal form of a literal decides what it stands for. -/
theorem declared?_congr (r : PolicyDocument) {x y : String} (same : normalize x = normalize y) :
    r.declared? x = r.declared? y := by
  simp only [declared?, Mention.answersTo, same]

theorem entityOf_congr (r : PolicyDocument) {x y : String} (same : normalize x = normalize y) :
    r.entityOf x = r.entityOf y := by
  rw [entityOf, entityOf, r.declared?_congr same]
  cases r.declared? y with
  | none => exact congrArg (Ref.mk .entity) (Mention.identifier_congr rfl rfl same rfl)
  | some m => rfl

end PolicyDocument

/-- The entity of a literal is named like a mention of it without a type. -/
theorem ref_literalNode (literal : String) :
    (literalNode literal).ref = ⟨.entity, ({ text := literal } : Mention).identifier⟩ := by
  let both : Mention := { text := literal, canonicalName := some literal }
  let plain : Mention := { text := literal }
  have same : both.identifier = plain.identifier :=
    Mention.identifier_congr rfl rfl (normalize_identifyingName literal) rfl
  exact congrArg (Ref.mk .entity) same

/-! ## The index of a document -/

/-- Among entries for one entity, a key is found if it is one of theirs and not empty. -/
theorem find?_entries (keys : List String) (r : Ref) (key : String) :
    ((keys.filterMap fun k => if k.isEmpty then none else some (k, r)).find?
        fun e => e.1 == key).map (·.2) =
      if key ≠ "" ∧ key ∈ keys then some r else none := by
  induction keys with
  | nil => simp
  | cons k keys ih =>
    by_cases blank : k = ""
    · subst blank
      by_cases same : key = ""
      · simpa [same] using ih
      · simpa [Ne.symm same, same] using ih
    · by_cases same : k = key
      · subst same
        simp [blank]
      · simpa [blank, same, Ne.symm same] using ih

namespace Mention

/-- A mention answers to a literal with its text or with its usual name. -/
theorem answersTo_iff (m : Mention) (literal : String) :
    m.answersTo literal = true ↔ normalize literal ≠ "" ∧
      normalize literal ∈ [some m.text, m.canonicalName].map Text.normalize? := by
  rw [answersTo, Bool.and_eq_true, bne_iff_ne, names]
  refine and_congr_right fun named => ?_
  cases m.canonicalName <;> simp [Text.normalize?, named]

end Mention

/-- A mention that identifies an entity comes with its node, and another one is left out. -/
theorem mentionedEntities_cons (m : Mention) (ms : List Mention) :
    (∃ n, n.ref = ⟨.entity, m.identifier⟩ ∧ m.identifiesEntity = true ∧
        mentionedEntities (m :: ms) = (n, m) :: mentionedEntities ms) ∨
      (m.identifiesEntity = false ∧ mentionedEntities (m :: ms) = mentionedEntities ms) := by
  rw [← m.isSome_node?]
  cases node : m.node? with
  | some n => exact .inl ⟨n, (Mention.ref_of_node? node).1, rfl, by simp [mentionedEntities, node]⟩
  | none => exact .inr ⟨rfl, by simp [mentionedEntities, node]⟩

/-- The index finds, for a literal, the first mention that answers to it. -/
theorem find?_nameIndex (ms : List Mention) (literal : String) :
    (nameIndex (mentionedEntities ms)).find? (normalize literal) =
      (ms.find? fun m => m.identifiesEntity && m.answersTo literal).map
        fun m => ⟨.entity, m.identifier⟩ := by
  rw [nameIndex, KeyedMap.find?_foldl_insertNew Prod.fst Prod.snd, KeyedMap.find?_empty,
    Option.none_or, List.find?_flatMap, List.map_findSome?]
  simp only [Function.comp_def, find?_entries, ← Mention.answersTo_iff]
  induction ms with
  | nil => rfl
  | cons m ms ih =>
    rw [List.find?_cons]
    rcases mentionedEntities_cons m ms with ⟨n, ref, identifies, eq⟩ | ⟨unnamed, eq⟩
    · rw [eq, List.findSome?_cons, identifies]
      cases m.answersTo literal with
      | true => simp [ref]
      | false => simpa using ih
    · rw [eq, unnamed]
      simpa using ih

/-! ## Resolving -/

namespace Resolution

/-- What has been found is right for a document: the index finds nothing but what a literal stands
for, and finds it whenever a mention answers to the literal. -/
structure Follows (r : PolicyDocument) (s : Resolution) : Prop where
  /-- A literal that is found is found to be what it stands for. -/
  right : ∀ x e, s.index.find? (normalize x) = some e → e = r.entityOf x
  /-- A literal that a mention answers to is found. -/
  declared : ∀ x, s.index.find? (normalize x) = none → r.declared? x = none

variable {r : PolicyDocument} {s : Resolution}

theorem follows_nameIndex (r : PolicyDocument) :
    Follows r ⟨nameIndex (mentionedEntities r.entities), []⟩ where
  right x e found := by
    rw [find?_nameIndex] at found
    obtain ⟨m, first, rfl⟩ := Option.map_eq_some_iff.1 found
    rw [PolicyDocument.entityOf, PolicyDocument.declared?, first]
    rfl
  declared x missing := by
    rwa [find?_nameIndex, Option.map_eq_none_iff] at missing

/-- A literal that is not found stands for an entity of its own. -/
theorem Follows.ref_literalNode (h : s.Follows r) {x : String}
    (missing : s.index.find? (normalize x) = none) : (literalNode x).ref = r.entityOf x := by
  rw [KnowledgeGraph.ref_literalNode, PolicyDocument.entityOf, h.declared x missing]
  rfl

/-- Resolving a literal gives what it stands for, and what has been found stays right. -/
theorem Follows.resolve (h : s.Follows r) (x : String) :
    (s.resolve x).1 = r.entityOf x ∧ (s.resolve x).2.Follows r := by
  rcases resolve_cases s x with ⟨e, found, eq⟩ | ⟨missing, eq⟩ <;> rw [eq]
  · exact ⟨h.right x e found, h⟩
  · have own := h.ref_literalNode missing
    refine ⟨own, fun y e found => ?_, fun y absent => ?_⟩
    · rw [KeyedMap.find?_insert] at found
      split at found
      · next same =>
        rw [← Option.some.inj found, own]
        exact (r.entityOf_congr same).symm
      · exact h.right y e found
    · rw [KeyedMap.find?_insert] at absent
      split at absent
      · cases absent
      · exact h.declared y absent

/-- The edges of statements have the ends that their literals stand for. -/
theorem Follows.relationEdges (h : s.Follows r) (docId : String) (ts : List Statement) :
    (relationEdges docId s ts).1 = ts.filterMap fun t => t.ends?.map fun (subject, object) =>
      t.edge docId (r.entityOf subject) (r.entityOf object) := by
  induction ts generalizing s with
  | nil => rfl
  | cons t ts ih =>
    rw [relationEdges_cons, List.filterMap_cons]
    cases t.ends? with
    | none => exact ih h
    | some ends =>
      obtain ⟨subject, object⟩ := ends
      have ⟨source, afterSource⟩ := h.resolve subject
      have ⟨target, afterTarget⟩ := afterSource.resolve object
      simp only [source, target, ih afterTarget, Option.map_some]

/-! ## New entities -/

/-- What has been found after the literals of a list. -/
def resolveAll (s : Resolution) (xs : List String) : Resolution :=
  xs.foldl (fun s x => (s.resolve x).2) s

/-- Statements find what their literals find, one after the other. -/
theorem found_relationEdges (docId : String) (s : Resolution) (ts : List Statement) :
    (KnowledgeGraph.relationEdges docId s ts).2 =
      s.resolveAll (ts.flatMap Statement.literals) := by
  induction ts generalizing s with
  | nil => rfl
  | cons t ts ih =>
    rw [relationEdges_cons, List.flatMap_cons, resolveAll, List.foldl_append, Statement.literals]
    cases t.ends? with
    | none => exact ih s
    | some ends => exact ih _

/-- The literals of a list that are not found, one for each normal form. -/
def unknown (s : Resolution) (xs : List String) : List String :=
  (xs.filter fun x => (s.index.find? (normalize x)).isNone).eraseDupsBy
    fun x y => normalize x == normalize y

/-- A literal that is found does not count, and one that is not counts once. -/
theorem unknown_cons (s : Resolution) (x : String) (xs : List String) :
    s.unknown (x :: xs) = (s.index.find? (normalize x)).elim [x] (fun _ => []) ++
      (s.resolve x).2.unknown xs := by
  rcases resolve_cases s x with ⟨e, found, eq⟩ | ⟨missing, eq⟩ <;> rw [eq]
  · simp [unknown, found]
  · have later (y : String) :
        ((s.index.insert (normalize x) (literalNode x).ref).find? (normalize y)).isNone =
          ((s.index.find? (normalize y)).isNone &&
            decide ((normalize y == normalize x) = false)) := by
      rw [KeyedMap.find?_insert]
      by_cases same : normalize y = normalize x <;> simp [same]
    simp only [unknown, missing, Option.isNone_none, List.filter_cons_of_pos, List.eraseDupsBy_cons,
      List.filter_filter, later, Option.elim_none, List.cons_append, List.nil_append, Bool.and_comm]

/-- Every literal that is not found makes an entity, once for each normal form. -/
theorem created_resolveAll (s : Resolution) (xs : List String) :
    (s.resolveAll xs).created = s.created ++ (s.unknown xs).map literalNode := by
  induction xs generalizing s with
  | nil => simp [resolveAll, unknown]
  | cons x xs ih =>
    have step : (s.resolve x).2.created = s.created ++
        ((s.index.find? (normalize x)).elim [x] (fun _ => [])).map literalNode := by
      rcases resolve_cases s x with ⟨e, found, eq⟩ | ⟨missing, eq⟩ <;> rw [eq]
      · simp [found]
      · simp [missing]
    have rest := ih (s.resolve x).2
    rw [resolveAll, List.foldl_cons, ← resolveAll, rest, step, unknown_cons, List.map_append,
      List.append_assoc]

end Resolution

/-! ## Nodes that stand for literals -/

/-- Whether a node was made for a literal that nothing answers to. -/
def Node.isAdHoc (n : Node) : Bool := n.properties.contains "adhoc"

namespace Node

variable {n : Node} {name : String}

@[simp] theorem isAdHoc_set (ne : "adhoc" ≠ name) (v : Json) :
    (n.set name v).isAdHoc = n.isAdHoc := by
  rw [isAdHoc, KeyedMap.contains, find?_set, if_neg ne]
  rfl

@[simp] theorem isAdHoc_setPresent (ne : "adhoc" ≠ name) (o : Option Json) :
    (n.setPresent name o).isAdHoc = n.isAdHoc := by
  rw [isAdHoc, KeyedMap.contains, find?_setPresent, if_neg ne]
  rfl

/-- A node without properties was not made for a literal. -/
@[simp] theorem isAdHoc_mk (kind : NodeKind) (id : String) :
    ({ kind, id } : Node).isAdHoc = false := rfl

end Node

@[simp] theorem isAdHoc_literalNode (literal : String) : (literalNode literal).isAdHoc = true := by
  simp [literalNode, Node.isAdHoc, KeyedMap.contains, Node.find?_set]

theorem not_isAdHoc_of_node? {m : Mention} {n : Node} (h : m.node? = some n) :
    n.isAdHoc = false := by
  unfold Mention.node? at h
  split at h
  · cases h
    simp
  · cases h

theorem not_isAdHoc_of_stateOf? {code : Option String} {n : Node} (h : stateOf? code = some n) :
    n.isAdHoc = false := by
  simp only [stateOf?, Option.map_eq_some_iff] at h
  obtain ⟨code, -, rfl⟩ := h
  simp

namespace PolicyDocument

theorem not_isAdHoc_policyNode (r : PolicyDocument) (docId : String) (state : Option Node)
    (keypoints : Nat) : (r.policyNode docId state keypoints).isAdHoc = false := by
  simp [policyNode]

variable {r : PolicyDocument} {docId : String} {f : Fragment}

/-- The new literals are those that the index does not find at the beginning. -/
theorem created_relationEdges (r : PolicyDocument) (docId : String) :
    (relationEdges docId ⟨nameIndex (mentionedEntities r.entities), []⟩ r.relations).2.created =
      r.newLiterals.map literalNode := by
  rw [Resolution.found_relationEdges, Resolution.created_resolveAll, Resolution.unknown]
  simp only [find?_nameIndex, Option.isNone_map, List.nil_append]
  rfl

/-- A document makes an entity for each of its new literals, and for nothing else. -/
theorem adHoc_of_fragment? (h : r.fragment? = some f) :
    f.nodes.filter Node.isAdHoc = r.newLiterals.map literalNode := by
  simp only [fragment?, Option.map_eq_some_iff] at h
  obtain ⟨docId, -, rfl⟩ := h
  rw [List.filter_append, created_relationEdges]
  have made : (r.newLiterals.map literalNode).filter Node.isAdHoc =
      r.newLiterals.map literalNode := by
    refine List.filter_eq_self.2 fun n mem => ?_
    obtain ⟨literal, -, rfl⟩ := List.mem_map.1 mem
    exact isAdHoc_literalNode literal
  rw [made]
  refine List.append_left_eq_self.2 (List.filter_eq_nil_iff.2 fun n mem => ?_)
  simp only [List.mem_append, Option.mem_toList, List.mem_singleton] at mem
  rcases mem with (((state | policyType) | keypoint) | entity) | rfl
  · simp [not_isAdHoc_of_stateOf? state]
  · obtain ⟨label, -, rfl⟩ := Option.map_eq_some_iff.1 policyType
    simp [labelNode]
  · obtain ⟨text, -, rfl⟩ := List.mem_map.1 keypoint
    simp [keypointNode]
  · obtain ⟨p, hp, rfl⟩ := List.mem_map.1 entity
    simp [not_isAdHoc_of_node? (mem_mentionedEntities.1 hp).2]
  · simp [not_isAdHoc_policyNode]

theorem kind_of_mem_keypointEdges {policy : Ref} {rs : List Ref} {order : Nat} {e : Edge}
    (he : e ∈ keypointEdges policy order rs) : e.kind = .hasKeypoint := by
  induction rs generalizing order with
  | nil => cases he
  | cons r rs ih =>
    rcases List.mem_cons.1 he with rfl | he
    · rfl
    · exact ih he

theorem kind_of_mem_relationEdges {e : Edge} (he : e ∈ (relationEdges docId
    ⟨nameIndex (mentionedEntities r.entities), []⟩ r.relations).1) : e.kind = .policyRelation := by
  rw [(Resolution.follows_nameIndex r).relationEdges] at he
  obtain ⟨t, -, eq⟩ := List.mem_filterMap.1 he
  obtain ⟨ends, -, rfl⟩ := Option.map_eq_some_iff.1 eq
  exact t.kind_edge docId _ _

/-- The edges of a document by their kind.  Each kind has a part of them for itself. -/
def edgesFor (r : PolicyDocument) (docId : String) : EdgeKind → List Edge
  | .appliesToState =>
      ((stateOf? r.state).map fun n => plainEdge .appliesToState ⟨.policy, docId⟩ n.ref).toList
  | .hasType => (((r.policyType.bind presence?).map (labelNode .policyType "label")).map fun n =>
      plainEdge .hasType ⟨.policy, docId⟩ n.ref).toList
  | .hasKeypoint => keypointEdges ⟨.policy, docId⟩ 1
      (distinct (((presentTexts r.keyPoints).map keypointNode).map Node.ref))
  | .mentionsEntity => entityEdges ⟨.policy, docId⟩ (mentionedEntities r.entities)
  | .policyRelation =>
      (relationEdges docId ⟨nameIndex (mentionedEntities r.entities), []⟩ r.relations).1
  | _ => []

theorem kind_of_mem_edgesFor {kind : EdgeKind} {e : Edge} (he : e ∈ r.edgesFor docId kind) :
    e.kind = kind := by
  cases kind
  case appliesToState => exact kind_of_mem_namedEdge he
  case hasType => exact kind_of_mem_namedEdge he
  case hasKeypoint => exact kind_of_mem_keypointEdges he
  case mentionsEntity =>
    obtain ⟨p, -, rfl⟩ := List.mem_map.1 he
    exact p.2.kind_edge _ _
  case policyRelation => exact kind_of_mem_relationEdges he
  all_goals cases he

/-- The edges of one kind are one part of the edges of a document, in its order. -/
theorem filter_edges_of_fragment? (named : presence? r.docId = some docId)
    (h : r.fragment? = some f) (kind : EdgeKind) :
    f.edges.filter (·.kind == kind) = r.edgesFor docId kind := by
  simp only [fragment?, named, Option.map_some, Option.some.injEq] at h
  have edges : f.edges = r.edgesFor docId .appliesToState ++ r.edgesFor docId .hasType ++
      r.edgesFor docId .hasKeypoint ++ r.edgesFor docId .mentionsEntity ++
      r.edgesFor docId .policyRelation := by
    subst h
    simp only [ref_policyNode]
    rfl
  have part (j : EdgeKind) : (r.edgesFor docId j).filter (·.kind == kind) =
      if j = kind then r.edgesFor docId j else [] :=
    PlannedPost.filter_kind (fun _ he => kind_of_mem_edgesFor he) kind
  simp only [edges, List.filter_append, part]
  cases kind <;> simp [edgesFor]

/-- A document with an identifier gives something. -/
theorem exists_fragment (r : PolicyDocument) (named : presence? r.docId = some docId) :
    ∃ f, r.fragment? = some f := by
  rw [fragment?, named]
  exact ⟨_, rfl⟩

/-- The edges of a kind that a document gives. -/
def edgesOf (r : PolicyDocument) (kind : EdgeKind) : List Edge :=
  r.fragment?.toList.flatMap fun f => f.edges.filter (·.kind == kind)

theorem edgesOf_of_named (named : presence? r.docId = some docId) (kind : EdgeKind) :
    r.edgesOf kind = r.edgesFor docId kind := by
  obtain ⟨f, given⟩ := r.exists_fragment named
  rw [edgesOf, given, Option.toList_some, List.flatMap_singleton,
    filter_edges_of_fragment? named given]

/-- The statements give the edges of their kind. -/
theorem edgesOf_policyRelation (r : PolicyDocument) :
    r.edgesOf .policyRelation = r.relationsOf := by
  cases named : presence? r.docId with
  | none =>
    rw [edgesOf, fragment?, relationsOf, named]
    rfl
  | some docId =>
    rw [edgesOf_of_named named, edgesFor, (Resolution.follows_nameIndex r).relationEdges,
      relationsOf, named]

/-- The ends of the edges are what the literals stand for. -/
theorem ends_relationsOf {docId : String} (named : presence? r.docId = some docId) :
    r.relationsOf.map (fun e => (e.source, e.target)) =
      (r.relations.filterMap Statement.ends?).map fun (subject, object) =>
        (r.entityOf subject, r.entityOf object) := by
  rw [relationsOf, named, List.map_filterMap, List.map_filterMap]
  simp [Function.comp_def]

/-- No two new literals of a document have one normal form. -/
theorem nodup_newLiterals (r : PolicyDocument) : (r.newLiterals.map normalize).Nodup :=
  nodup_map_eraseDupsBy normalize _

end PolicyDocument

/-- The edges of one kind come document by document. -/
theorem Graph.edgesOf_ofPolicies_eq (rs : List PolicyDocument) (kind : EdgeKind) :
    (ofPolicies rs).edgesOf kind = rs.flatMap (·.edgesOf kind) := by
  rw [ofPolicies, edgesOf, ofFragments, List.filter_flatMap, List.filterMap_eq_flatMap_toList,
    List.flatMap_assoc]
  rfl

/-- Every relation edge of the graph of policies comes from a statement of one document, and joins
what the two literals of the statement stand for in that document. -/
theorem Graph.edgesOf_ofPolicies (rs : List PolicyDocument) :
    (ofPolicies rs).edgesOf .policyRelation = rs.flatMap PolicyDocument.relationsOf := by
  rw [edgesOf_ofPolicies_eq]
  exact List.flatMap_congr fun r _ => r.edgesOf_policyRelation

/-- The graph of policies has one relation edge for each statement with two ends, in order, and its
ends are what the literals stand for in their own document.  Literals of one normal form stand for
one entity, and a document makes an entity for a literal at most once for each normal form. -/
theorem Graph.relations_ofPolicies (rs : List PolicyDocument) :
    (ofPolicies rs).edgesOf .policyRelation = rs.flatMap PolicyDocument.relationsOf ∧
    ∀ r ∈ rs,
      (∀ x y, normalize x = normalize y → r.entityOf x = r.entityOf y) ∧
      (presence? r.docId ≠ none → ∃ f, r.fragment? = some f ∧
        f.nodes.filter Node.isAdHoc = r.newLiterals.map literalNode ∧
        (r.newLiterals.map normalize).Nodup) := by
  refine ⟨edgesOf_ofPolicies rs, fun r _ => ⟨fun x y same => r.entityOf_congr same, ?_⟩⟩
  intro named
  obtain ⟨docId, named⟩ := Option.ne_none_iff_exists'.1 named
  obtain ⟨f, given⟩ : ∃ f, r.fragment? = some f := by simp [PolicyDocument.fragment?, named]
  exact ⟨f, given, PolicyDocument.adHoc_of_fragment? given, r.nodup_newLiterals⟩

/-- Two documents with the same literals.  The first one declares an entity, which the second one
does not see. -/
theorem Graph.relations_ofPolicies_secap :
    let first : PolicyDocument :=
      { docId := "d1"
        entities := [{ text := "the secretariat", canonicalName := some "SECAP",
                       kbId := some "Q1" }]
        relations := [{ subject := " Secap", object := "Loterj" },
                      { subject := "LOTERJ", object := " " },
                      { subject := "loterj ", object := "secap" }] }
    let second : PolicyDocument := { first with docId := "d2", entities := [] }
    let secap : Ref := ⟨.entity, ({ text := "Secap" } : Mention).identifier⟩
    let loterj : Ref := ⟨.entity, ({ text := "Loterj" } : Mention).identifier⟩
    ((ofPolicies [first, second]).edgesOf .policyRelation).map (fun e => (e.source, e.target)) =
        [(⟨.entity, "kb:Q1"⟩, loterj), (loterj, ⟨.entity, "kb:Q1"⟩),
          (secap, loterj), (loterj, secap)] ∧
      second.entityOf " Secap" = second.entityOf "secap" ∧
      (first.fragment?.map fun f => f.nodes.filter Node.isAdHoc) = some [literalNode "Loterj"] := by
  intro first second secap loterj
  have ⟨edges, resolved⟩ := relations_ofPolicies [first, second]
  refine ⟨?_, ?_, ?_⟩
  · have unseen : second.entityOf "Secap" = secap ∧ second.entityOf "Loterj" = loterj := ⟨rfl, rfl⟩
    have known : first.entityOf "Secap" = ⟨.entity, "kb:Q1"⟩ := by decide +kernel
    have unanswered : first.declared? "Loterj" = none := by decide +kernel
    have own : first.entityOf "Loterj" = loterj := by
      rw [PolicyDocument.entityOf, unanswered]
      rfl
    have named : presence? first.docId = some "d1" ∧ presence? second.docId = some "d2" := by
      decide +kernel
    have ends : first.relations.filterMap Statement.ends? =
        [("Secap", "Loterj"), ("loterj", "secap")] := by decide +kernel
    have same : normalize "loterj" = normalize "Loterj" ∧
        normalize "secap" = normalize "Secap" := by decide +kernel
    rw [edges, List.flatMap_cons, List.flatMap_singleton, List.map_append,
      PolicyDocument.ends_relationsOf named.1, PolicyDocument.ends_relationsOf named.2, ends]
    simp only [List.map_cons, List.map_nil, known, own, first.entityOf_congr same.1,
      first.entityOf_congr same.2, second.entityOf_congr same.1, second.entityOf_congr same.2,
      unseen, List.cons_append, List.nil_append]
  · exact (resolved second (by simp)).1 " Secap" "secap" (by decide +kernel)
  · obtain ⟨f, given, made, -⟩ := (resolved first (by simp)).2 (by decide +kernel)
    have new : first.newLiterals = ["Loterj"] := by decide +kernel
    rw [given, Option.map_some, made, new]
    rfl

end KnowledgeGraph
