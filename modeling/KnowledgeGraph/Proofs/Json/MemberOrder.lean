import Mathlib.Data.List.Pairwise
import Mathlib.Data.List.Perm.Basic
import Mathlib.Order.MinMax
import KnowledgeGraph.Json.Codec
import KnowledgeGraph.Proofs.KeyedMap
import KnowledgeGraph.Proofs.Json.Draft

/-!
# Records and the order of members

The canonical form of a value has the members of an object in another order, and only the last one
of each name.  A record is read alike from both, but that a value itself must not give a field
twice.  `Codec.ReadsCanonical` says this of a codec, with what a value must do besides: nothing in
the case of plain values (`Codec.IsFlat`), and for a record, give its fields once (`GivesOnce`).

The order does not matter, because what is read for one field changes that field alone
(`Field.Commutes`), and so the members may be read in any order (`Field.foldlM_takeMember?_perm`).
-/

namespace KnowledgeGraph.Json

variable {α β : Type}

/-! ## Canonical forms -/

/-- A member with the canonical form of its value. -/
def canonicalMember (e : String × Json) : String × Json := (e.1, e.2.canonical)

theorem canonicalItems_eq_map (items : List Json) : canonicalItems items = items.map canonical := by
  induction items with
  | nil => rfl
  | cons j js ih => rw [canonicalItems, ih, List.map_cons]

theorem canonicalMembers_eq_map (ms : List (String × Json)) :
    canonicalMembers ms = ms.map canonicalMember := by
  induction ms with
  | nil => rfl
  | cons e ms ih =>
    rw [canonicalMembers, ih, List.map_cons]
    rfl

mutual

/-- A canonical form does not nest deeper. -/
theorem depth_canonical_le : ∀ j : Json, j.canonical.depth ≤ j.depth
  | .null => Nat.le_refl _
  | .bool _ => Nat.le_refl _
  | .int _ => Nat.le_refl _
  | .float _ => Nat.le_refl _
  | .string _ => Nat.le_refl _
  | .array items => Nat.succ_le_succ (depthItems_canonicalItems_le items)
  | .object ms => by
      refine Nat.succ_le_succ (Nat.le_trans ?_ (depthMembers_canonicalMembers_le ms))
      refine depthMembers_le_iff.2 fun e mem => ?_
      exact depthMembers_le_iff.1 (Nat.le_refl _) e (KeyedMap.mem_of_mem_entries_ofList mem)

theorem depthItems_canonicalItems_le :
    ∀ items : List Json, depthItems (canonicalItems items) ≤ depthItems items
  | [] => Nat.le_refl _
  | j :: js => max_le_max (depth_canonical_le j) (depthItems_canonicalItems_le js)

theorem depthMembers_canonicalMembers_le :
    ∀ ms : List (String × Json), depthMembers (canonicalMembers ms) ≤ depthMembers ms
  | [] => Nat.le_refl _
  | (_, j) :: ms => max_le_max (depth_canonical_le j) (depthMembers_canonicalMembers_le ms)

end

/-! ## What a value gives for a record -/

/-- The items of a list. -/
def items : Json → List Json
  | .array js => js
  | _ => []

/-- The names of the members of an object. -/
def names : Json → List String
  | .object ms => ms.map (·.1)
  | _ => []

/-- What a value gives for fields in their order, under their names: the members of an object with
such names, or the items of a list. -/
def given (fields : List String) : Json → List (String × Json)
  | .object ms => ms.filter fun e => fields.contains e.1
  | .array items => fields.zip items
  | _ => []

/-- Whether a value gives each of some fields once at most. -/
def GivesOnce (fields : List String) (j : Json) : Prop := ((j.given fields).map (·.1)).Nodup

/-- The names of the fields of a record, as it is written. -/
def Codec.fieldNames (c : Codec α) [Inhabited α] : List String := (c.write default).names

theorem Codec.fieldNames_record [Inhabited α] (start : α) (fields : List (Field α)) :
    (Codec.record start fields).fieldNames = fields.map (·.name) := by
  simp [fieldNames, record, names]

/-- What an object gives once, its canonical form gives too, in another order. -/
theorem given_canonical_perm {fields : List String} {ms : List (String × Json)}
    (once : (object ms).GivesOnce fields) :
    ((object ms).canonical.given fields).Perm (((object ms).given fields).map canonicalMember) := by
  have same : ((object ms).given fields).map canonicalMember =
      (canonicalMembers ms).filter fun e => fields.contains e.1 := by
    rw [canonicalMembers_eq_map, List.filter_map]
    rfl
  have keys : (((object ms).given fields).map canonicalMember).map (·.1) =
      ((object ms).given fields).map (·.1) := by
    rw [List.map_map]
    rfl
  rw [canonical, given, KeyedMap.entries_ofList_filter, ← same]
  exact KeyedMap.entries_ofList_perm (keys ▸ once)

theorem givesOnce_canonical (fields : List String) (ms : List (String × Json)) :
    (object ms).canonical.GivesOnce fields :=
  (KeyedMap.ofList _).nodup_keys.sublist (List.filter_sublist.map _)

/-! ## Codecs and canonical forms -/

namespace Codec

/-- The value that is decoded, if there is one. -/
def decode? (c : Codec α) (j : Json) : Option α := (c.decode j).toOption

theorem decode?_eq_some_iff {c : Codec α} {j : Json} {a : α} :
    c.decode? j = some a ↔ c.decode j = .ok a := by
  rw [decode?]
  cases c.decode j <;> simp [Except.toOption]

/-- Whether a codec reads a value that does `once` as its canonical form, and no other value. -/
def ReadsCanonical (c : Codec α) (once : Json → Prop) : Prop :=
  ∀ j a, c.decode j = .ok a ↔ c.decode j.canonical = .ok a ∧ once j

theorem ReadsCanonical.map_eq_ok_iff {c : Codec α} {once : Json → Prop}
    (reads : c.ReadsCanonical once) (f : α → β) (j : Json) (b : β) :
    (c.decode j).map f = .ok b ↔ (c.decode j.canonical).map f = .ok b ∧ once j := by
  simp only [map_eq_ok, reads j]
  constructor
  · rintro ⟨a, ⟨read, once⟩, rfl⟩
    exact ⟨⟨a, read, rfl⟩, once⟩
  · rintro ⟨⟨a, read, rfl⟩, once⟩
    exact ⟨a, ⟨read, once⟩, rfl⟩

/-- Whether a codec reads nothing that has names. -/
def IsFlat (c : Codec α) : Prop := ∀ j, c.decode j.canonical = c.decode j

theorem IsFlat.readsCanonical {c : Codec α} (flat : c.IsFlat) {once : Json → Prop}
    (all : ∀ j, once j) : c.ReadsCanonical once := by
  intro j a
  rw [flat j]
  exact (and_iff_left (all j)).symm

theorem ReadsCanonical.congr {c : Codec α} {once once' : Json → Prop}
    (reads : c.ReadsCanonical once) (same : ∀ j, once j ↔ once' j) : c.ReadsCanonical once' :=
  fun j a => (reads j a).trans (and_congr_right fun _ => same j)

theorem isFlat_text : text.IsFlat := by
  intro j
  cases j <;> rfl

theorem isFlat_count : count.IsFlat := by
  intro j
  cases j <;> rfl

theorem isFlat_number : number.IsFlat := by
  intro j
  cases j <;> rfl

theorem IsFlat.optional {c : Codec α} (flat : c.IsFlat) : (Codec.optional c).IsFlat := by
  intro j
  cases j with
  | null => rfl
  | _ => exact congrArg (Except.map some) (flat _)

theorem IsFlat.readAll {c : Codec α} (flat : c.IsFlat) (items : List Json) :
    Codec.readAll c.read (draftItems (canonicalItems items)) =
      Codec.readAll c.read (draftItems items) := by
  induction items with
  | nil => rfl
  | cons j js ih =>
    have first : c.read j.canonical.draft = c.read j.draft := flat j
    simp only [canonicalItems, draftItems, Codec.readAll, first, ih]

theorem IsFlat.list {c : Codec α} (flat : c.IsFlat) : (Codec.list c).IsFlat := by
  intro j
  cases j with
  | array items =>
    simp only [canonical, decode, draft, Codec.list, flat.readAll]
  | _ => rfl

theorem IsFlat.pair {c : Codec α} {d : Codec β} (first : c.IsFlat) (second : d.IsFlat) :
    (Codec.pair c d).IsFlat := by
  have first (j : Json) : c.read j.canonical.draft = c.read j.draft := first j
  have second (j : Json) : d.read j.canonical.draft = d.read j.draft := second j
  intro j
  cases j with
  | array items =>
    cases items with
    | nil => rfl
    | cons x items =>
      cases items with
      | nil => simp [canonical, canonicalItems, decode, draft, draftItems, Codec.pair, first]
      | cons y items =>
        cases items <;>
          simp [canonical, canonicalItems, decode, draft, draftItems, Codec.pair, first, second]
  | _ => rfl

/-- A list of values is read item by item. -/
theorem readAll_draftItems_eq_ok {c : Codec α} {items : List Json} {as : List α} :
    readAll c.read (draftItems items) = .ok as ↔
      List.Forall₂ (fun j a => c.decode j = .ok a) items as := by
  induction items generalizing as with
  | nil => cases as <;> simp [draftItems, readAll]
  | cons j js ih =>
    simp only [draftItems, readAll, bind_eq_ok, pure_eq_ok, ih, List.forall₂_cons_left_iff]
    constructor
    · rintro ⟨a, first, as', rest, rfl⟩
      exact ⟨a, as', first, rest, rfl⟩
    · rintro ⟨a, as', first, rest, rfl⟩
      exact ⟨a, first, as', rest, rfl⟩

theorem decode_list_eq_ok {c : Codec α} {items : List Json} {as : List α} :
    (Codec.list c).decode (.array items) = .ok as ↔
      List.Forall₂ (fun j a => c.decode j = .ok a) items as := by
  rw [← readAll_draftItems_eq_ok]
  simp only [decode, draft, Codec.list, raise, bind_eq_ok, pure_eq_ok]
  simp

/-- A list is read as its canonical form if its items are. -/
theorem ReadsCanonical.list {c : Codec α} {once : Json → Prop} (reads : c.ReadsCanonical once) :
    (Codec.list c).ReadsCanonical fun j => ∀ i ∈ j.items, once i := by
  intro j as
  cases j with
  | array items =>
    have item : (fun i a => c.decode i = .ok a) =
        fun i a => once i ∧ c.decode i.canonical = .ok a :=
      funext₂ fun i a => propext ((reads i a).trans and_comm)
    rw [canonical, canonicalItems_eq_map, decode_list_eq_ok, decode_list_eq_ok,
      List.forall₂_map_left_iff, and_comm, item]
    exact List.forall₂_and_left ..
  | _ =>
    constructor
    · intro h
      cases h
    · rintro ⟨h, -⟩
      cases h

end Codec

/-! ## Fields -/

namespace Field

/-- A record with a field decoded from a value. -/
def take? (f : Field α) (a : α) (j : Json) : Option α := (f.read j.draft a).toOption

theorem take?_eq_some_iff {f : Field α} {a b : α} {j : Json} :
    f.take? a j = some b ↔ f.read j.draft a = .ok b := by
  rw [take?]
  cases f.read j.draft a <;> simp [Except.toOption]

/-- Whether a field reads a value that does `once` as its canonical form, and no other value. -/
def ReadsCanonical (f : Field α) (once : Json → Prop) : Prop :=
  ∀ a j b, f.take? a j = some b ↔ f.take? a j.canonical = some b ∧ once j

theorem take?_of {name : String} {c : Codec β} {get : α → β} {set : β → α → α} (a : α) (j : Json) :
    (Field.of name c get set).take? a j = (c.decode? j).map (set · a) := by
  show ((c.read j.draft).map (set · a)).toOption = ((c.read j.draft).toOption).map (set · a)
  cases c.read j.draft <;> rfl

theorem readsCanonical_of {name : String} {c : Codec β} {get : α → β} {set : β → α → α}
    {once : Json → Prop} (reads : c.ReadsCanonical once) :
    (Field.of name c get set).ReadsCanonical once := by
  intro a j b
  have value (v : β) : c.decode? j = some v ↔ c.decode? j.canonical = some v ∧ once j := by
    rw [Codec.decode?_eq_some_iff, Codec.decode?_eq_some_iff]
    exact reads j v
  simp only [take?_of, Option.map_eq_some_iff, value]
  constructor
  · rintro ⟨v, ⟨decoded, once⟩, rfl⟩
    exact ⟨⟨v, decoded, rfl⟩, once⟩
  · rintro ⟨⟨v, decoded, rfl⟩, once⟩
    exact ⟨v, ⟨decoded, once⟩, rfl⟩

theorem readsCanonical_of_isFlat {name : String} {c : Codec β} {get : α → β} {set : β → α → α}
    {once : Json → Prop} (flat : c.IsFlat) (all : ∀ j, once j) :
    (Field.of name c get set).ReadsCanonical once :=
  readsCanonical_of (flat.readsCanonical all)

/-- Whether what is read for two fields may be read in either order. -/
def Commutes (f g : Field α) : Prop :=
  ∀ a i j, (f.take? a i).bind (g.take? · j) = (g.take? a j).bind (f.take? · i)

instance : Std.Symm (@Commutes α) := ⟨fun _ _ comm a i j => (comm a j i).symm⟩

theorem commutes_of {γ : Type} {name name' : String} {c : Codec β} {c' : Codec γ} {get : α → β}
    {get' : α → γ} {set : β → α → α} {set' : γ → α → α}
    (comm : ∀ v w a, set' w (set v a) = set v (set' w a)) :
    (Field.of name c get set).Commutes (Field.of name' c' get' set') := by
  intro a i j
  simp only [take?_of]
  cases c.decode? i <;> cases c'.decode? j <;> simp [comm]

/-- Takes a member of an object into its field, if it has one. -/
def takeMember? (fields : List (Field α)) (a : α) (e : String × Json) : Option α :=
  match fields.find? (·.name == e.1) with
  | some f => f.take? a e.2
  | none => some a

variable {fields : List (Field α)}

/-- Members with different names may be read in any order. -/
theorem foldlM_takeMember?_perm (commute : fields.Pairwise Commutes)
    {es ds : List (String × Json)} (perm : es.Perm ds) (nodup : (es.map (·.1)).Nodup) (a : α) :
    es.foldlM (takeMember? fields) a = ds.foldlM (takeMember? fields) a := by
  rw [List.foldlM_eq_foldl, List.foldlM_eq_foldl]
  refine perm.foldl_eq' (fun x hx y hy z => ?_) _
  by_cases same : x = y
  · rw [same]
  cases z with
  | none => rfl
  | some z =>
    have names : x.1 ≠ y.1 := fun eq => same (List.inj_on_of_nodup_map nodup hx hy eq)
    show (takeMember? fields z x).bind (takeMember? fields · y) =
      (takeMember? fields z y).bind (takeMember? fields · x)
    cases hf : fields.find? (·.name == x.1) with
    | none => simp [takeMember?, hf]
    | some f =>
      cases hg : fields.find? (·.name == y.1) with
      | none => simp [takeMember?, hf, hg]
      | some g =>
        have nameF : f.name = x.1 := by simpa using List.find?_some hf
        have nameG : g.name = y.1 := by simpa using List.find?_some hg
        have ne : f ≠ g := by
          rintro rfl
          exact names (nameF.symm.trans nameG)
        have comm : f.Commutes g :=
          commute.forall (List.mem_of_find?_eq_some hf) (List.mem_of_find?_eq_some hg) ne
        simpa [takeMember?, hf, hg] using comm z x.2 y.2

/-- Conditions on what is read first and on the rest are put apart from reading both. -/
theorem exists_taken_iff {β : Type} {taken rest : β → Prop} {one all : Prop} :
    (∃ c, (taken c ∧ one) ∧ rest c ∧ all) ↔ (∃ c, taken c ∧ rest c) ∧ one ∧ all := by
  constructor
  · rintro ⟨c, ⟨taken, one⟩, rest, all⟩
    exact ⟨⟨c, taken, rest⟩, one, all⟩
  · rintro ⟨⟨c, taken, rest⟩, one, all⟩
    exact ⟨c, ⟨taken, one⟩, rest, all⟩

/-- Members with names of fields are read as their canonical forms if their values are. -/
theorem foldlM_takeMember?_canonical {once : String → Json → Prop}
    (each : ∀ f ∈ fields, f.ReadsCanonical (once f.name)) {es : List (String × Json)}
    (known : ∀ e ∈ es, e.1 ∈ fields.map (·.name)) (a b : α) :
    es.foldlM (takeMember? fields) a = some b ↔
      (es.map canonicalMember).foldlM (takeMember? fields) a = some b ∧
        ∀ e ∈ es, once e.1 e.2 := by
  induction es generalizing a with
  | nil => simp
  | cons e es ih =>
    obtain ⟨first, others⟩ := List.forall_mem_cons.1 known
    obtain ⟨f, found⟩ : ∃ f, fields.find? (·.name == e.1) = some f := by
      obtain ⟨f, mem, name⟩ := List.mem_map.1 first
      exact Option.isSome_iff_exists.1 (List.find?_isSome.2 ⟨f, mem, by simpa using name⟩)
    have name : f.name = e.1 := by simpa using List.find?_some found
    have read (c : α) := each f (List.mem_of_find?_eq_some found) a e.2 c
    simp only [List.foldlM_cons, List.map_cons, List.forall_mem_cons, Option.bind_eq_bind,
      Option.bind_eq_some_iff, takeMember?, canonicalMember, found, read, ih others, name]
    exact exists_taken_iff

theorem contains_names (fields : List (Field α)) (k : String) :
    (fields.map (·.name)).contains k = (fields.find? (·.name == k)).isSome := by
  rw [Bool.eq_iff_iff, List.contains_iff_mem, List.mem_map, List.find?_isSome]
  simp only [beq_iff_eq]

/-- A member without a field is left out. -/
theorem readMembers_unknown {seen : List String} {a : α} {k : String} {j : Json}
    {ms : List (String × Json)} (unknown : fields.find? (·.name == k) = none) :
    readMembers fields none seen a (draftMembers ((k, j) :: ms)) =
      readMembers fields none seen a (draftMembers ms) := by
  simp only [draftMembers, readMembers, ok_bind, unknown, Draft.pass_of_whole (whole_draft j)]

/-- A member with a field is read into it, unless the field was given before. -/
theorem readMembers_known_eq_ok {seen : List String} {a b : α} {k : String} {j : Json}
    {ms : List (String × Json)} {f : Field α} (known : fields.find? (·.name == k) = some f) :
    readMembers fields none seen a (draftMembers ((k, j) :: ms)) = .ok b ↔
      k ∉ seen ∧ ∃ c, f.take? a j = some c ∧
        readMembers fields none (k :: seen) c (draftMembers ms) = .ok b := by
  have step : readMembers fields none seen a (draftMembers ((k, j) :: ms)) =
      if seen.contains k then .error .mismatch
      else f.read j.draft a >>= fun c =>
        readMembers fields none (k :: seen) c (draftMembers ms) := by
    simp only [draftMembers, readMembers, ok_bind, known]
  rw [step]
  split
  · next before => simp [List.contains_iff_mem.1 before]
  · next fresh =>
    have fresh : k ∉ seen := fun mem => fresh (List.contains_iff_mem.2 mem)
    simp only [bind_eq_ok, take?_eq_some_iff, fresh, not_false_iff, true_and]

/-- An object is read into a record when it gives no field twice, nor one that was given before,
and each of them is read. -/
theorem readMembers_draftMembers_eq_ok {seen : List String} (nodup : seen.Nodup) {a b : α}
    {ms : List (String × Json)} :
    readMembers fields none seen a (draftMembers ms) = .ok b ↔
      (((object ms).given (fields.map (·.name))).map (·.1) ++ seen).Nodup ∧
      ((object ms).given (fields.map (·.name))).foldlM (takeMember? fields) a = some b := by
  induction ms generalizing seen a with
  | nil =>
    simp only [given, List.filter_nil, List.map_nil, List.nil_append, nodup, true_and]
    simp [draftMembers, readMembers, raise, bind, Except.bind, pure, Except.pure]
  | cons e ms ih =>
    obtain ⟨k, j⟩ := e
    have names := contains_names fields k
    cases found : fields.find? (·.name == k) with
    | none =>
      rw [found] at names
      rw [readMembers_unknown found, ih nodup]
      simp only [given, List.filter_cons, names]
      rfl
    | some f =>
      rw [found] at names
      rw [readMembers_known_eq_ok found]
      simp only [given, List.filter_cons, names, Option.isSome_some, if_true, List.map_cons,
        List.foldlM_cons, takeMember?, found, Option.bind_eq_bind, Option.bind_eq_some_iff]
      have shift : (k :: (((object ms).given (fields.map (·.name))).map (·.1) ++ seen)).Nodup ↔
          (((object ms).given (fields.map (·.name))).map (·.1) ++ k :: seen).Nodup :=
        List.nodup_middle.symm
      constructor
      · rintro ⟨fresh, c, taken, rest⟩
        obtain ⟨once, read⟩ := (ih (List.nodup_cons.2 ⟨fresh, nodup⟩)).1 rest
        exact ⟨shift.2 once, c, taken, read⟩
      · rintro ⟨once, c, taken, read⟩
        have fresh : k ∉ seen :=
          fun mem => (List.nodup_cons.1 once).1 (List.mem_append_right _ mem)
        exact ⟨fresh, c, taken, (ih (List.nodup_cons.2 ⟨fresh, nodup⟩)).2 ⟨shift.1 once, read⟩⟩

/-- Items of a list are read into fields as their canonical forms if their values are. -/
theorem readItems_draftItems_eq_ok {once : String → Json → Prop}
    (each : ∀ f ∈ fields, f.ReadsCanonical (once f.name)) (surplus : Fault) (items : List Json)
    (a b : α) :
    readItems none surplus a fields (draftItems items) = .ok b ↔
      readItems none surplus a fields (draftItems (canonicalItems items)) = .ok b ∧
        ∀ e ∈ (fields.map (·.name)).zip items, once e.1 e.2 := by
  induction fields generalizing items a with
  | nil => cases items <;> simp [canonicalItems, draftItems, readItems]
  | cons f fs ih =>
    cases items with
    | nil => simp [canonicalItems, draftItems]
    | cons j js =>
      obtain ⟨first, others⟩ := List.forall_mem_cons.1 each
      have read (c : α) : f.read j.draft a = .ok c ↔ f.read j.canonical.draft a = .ok c ∧
          once f.name j := by
        rw [← take?_eq_some_iff, ← take?_eq_some_iff]
        exact first a j c
      have rest (c : α) := ih others js c
      simp only [canonicalItems, draftItems, readItems, bind_eq_ok, List.map_cons,
        List.zip_cons_cons, List.forall_mem_cons, read, rest]
      exact exists_taken_iff

end Field

/-! ## Records -/

/-- A list gives no field twice. -/
theorem givesOnce_array {fields : List String} (distinct : fields.Nodup) (items : List Json) :
    (array items).GivesOnce fields := by
  rw [GivesOnce, given, List.zip_eq_zip_take_min, List.map_fst_zip (by simp)]
  exact distinct.sublist (List.take_sublist ..)

namespace Codec

variable {fields : List (Field α)} {start : α}

/-- An object is read into a record when it gives its fields once and each of them is read. -/
theorem decode_record_object_eq_ok {ms : List (String × Json)} {b : α} :
    (record start fields).decode (object ms) = .ok b ↔
      (object ms).GivesOnce (fields.map (·.name)) ∧
      ((object ms).given (fields.map (·.name))).foldlM (Field.takeMember? fields) start
        = some b := by
  refine (Field.readMembers_draftMembers_eq_ok List.nodup_nil).trans ?_
  rw [List.append_nil]
  rfl

/-- A record is read from a value that gives its fields once as from the canonical form of the
value, and from no other value. -/
theorem ReadsCanonical.record [Inhabited α] (once : String → Json → Prop)
    (distinct : (fields.map (·.name)).Nodup) (commute : fields.Pairwise Field.Commutes)
    (each : ∀ f ∈ fields, f.ReadsCanonical (once f.name)) :
    (Codec.record start fields).ReadsCanonical fun j =>
      j.GivesOnce (Codec.record start fields).fieldNames ∧
        ∀ e ∈ j.given (Codec.record start fields).fieldNames, once e.1 e.2 := by
  rw [fieldNames_record]
  intro j b
  cases j with
  | array items =>
    have read := Field.readItems_draftItems_eq_ok each .mismatch items start b
    have once := givesOnce_array distinct items
    exact read.trans (and_congr_right fun _ => (and_iff_right once).symm)
  | object ms =>
    have known : ∀ e ∈ (object ms).given (fields.map (·.name)), e.1 ∈ fields.map (·.name) :=
      fun e mem => List.contains_iff_mem.1 (List.mem_filter.1 mem).2
    have order (once : (object ms).GivesOnce (fields.map (·.name))) :=
      Field.foldlM_takeMember?_perm commute (given_canonical_perm once)
        (givesOnce_canonical _ ms) start
    rw [canonical, decode_record_object_eq_ok, decode_record_object_eq_ok, ← canonical,
      Field.foldlM_takeMember?_canonical each known, and_iff_right (givesOnce_canonical _ ms)]
    constructor
    · rintro ⟨once, read, all⟩
      exact ⟨(order once).trans read, once, all⟩
    · rintro ⟨read, once, all⟩
      exact ⟨once, (order once).symm.trans read, all⟩
  | _ =>
    constructor
    · intro h
      cases h
    · rintro ⟨h, -⟩
      cases h

end Codec

end KnowledgeGraph.Json
