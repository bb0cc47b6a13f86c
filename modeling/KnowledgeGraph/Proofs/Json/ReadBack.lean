import KnowledgeGraph.Proofs.Json.MemberOrder

/-!
# What is written reads back

A codec restores a value when it reads the value from what it writes for it, and still does when
members that are `null` are left out of the objects in it (`Codec.Restores`, `Thinned`).  Plain
values are restored as far as they are written at all, and lists and pairs if their items are.

A record is restored field by field.  Reading a field carries its value over from the record that
was written to the one that is read (`Field.Carries`), and a missing field is not carried over, but
there is nothing to carry over where `null` was written: the field has its default, which is the
missing value.
-/

namespace KnowledgeGraph.Json

variable {α β : Type}

/-! ## Leaving out members -/

mutual

/-- A value, and what is left of it without some of the members that are `null`. -/
inductive Thinned : Json → Json → Prop where
  /-- All is left. -/
  | same (j : Json) : Thinned j j
  /-- Members of the items are left out. -/
  | array {items left : List Json} (thinned : ThinnedItems items left) :
      Thinned (.array items) (.array left)
  /-- Members are left out, or members of their values. -/
  | object {ms left : List (String × Json)} (thinned : ThinnedMembers ms left) :
      Thinned (.object ms) (.object left)

/-- Items, and what is left of them. -/
inductive ThinnedItems : List Json → List Json → Prop where
  /-- There are none. -/
  | nil : ThinnedItems [] []
  /-- An item stays, with what is left of it. -/
  | cons {j i : Json} {js is : List Json} (first : Thinned j i) (rest : ThinnedItems js is) :
      ThinnedItems (j :: js) (i :: is)

/-- Members, and what is left of them. -/
inductive ThinnedMembers : List (String × Json) → List (String × Json) → Prop where
  /-- There are none. -/
  | nil : ThinnedMembers [] []
  /-- A member stays, with what is left of its value. -/
  | keep {e : String × Json} {j : Json} {ms left : List (String × Json)} (value : Thinned e.2 j)
      (rest : ThinnedMembers ms left) : ThinnedMembers (e :: ms) ((e.1, j) :: left)
  /-- A member that is `null` is left out. -/
  | drop {e : String × Json} {ms left : List (String × Json)} (null : e.2 = .null)
      (rest : ThinnedMembers ms left) : ThinnedMembers (e :: ms) left

end

theorem ThinnedMembers.same (ms : List (String × Json)) : ThinnedMembers ms ms := by
  induction ms with
  | nil => exact .nil
  | cons e ms ih => exact .keep (.same e.2) ih

theorem ThinnedItems.same (items : List Json) : ThinnedItems items items := by
  induction items with
  | nil => exact .nil
  | cons j js ih => exact .cons (.same j) ih

/-- What is left of an object has no other names. -/
theorem ThinnedMembers.names_sublist {ms left : List (String × Json)}
    (h : ThinnedMembers ms left) : (left.map (·.1)).Sublist (ms.map (·.1)) := by
  induction ms generalizing left with
  | nil =>
    cases h
    exact .slnil
  | cons e ms ih =>
    cases h with
    | keep value rest => exact (ih rest).cons_cons _
    | drop null rest => exact (ih rest).cons _

/-! ## Codecs -/

namespace Codec

/-- Whether a codec reads values that are `good` from what it writes, less members that are
`null`. -/
def Restores (c : Codec α) (good : α → Prop) : Prop :=
  ∀ a, good a → ∀ j, Thinned (c.write a) j → c.decode j = .ok a

variable {c : Codec α} {d : Codec β} {good : α → Prop} {good' : β → Prop}

theorem restores_text : text.Restores fun _ => True := by
  intro s _ j thinned
  cases thinned
  rfl

theorem restores_bool : bool.Restores fun _ => True := by
  intro b _ j thinned
  cases thinned
  rfl

/-- A count is restored if it has 64 bits. -/
theorem restores_count : count.Restores fun n => Number.IsUnsigned n := by
  intro n unsigned j thinned
  cases thinned
  have read (i : Int) : count.decode (.int i) =
      if Number.IsUnsigned i then .ok i.toNat else .error .mismatch := rfl
  exact (read n).trans (if_pos unsigned)

/-- A double is restored if it is finite. -/
theorem restores_number : number.Restores fun x => Number.isFinite x = true := by
  intro x finite j thinned
  have write : number.write x = .float x := if_pos finite
  rw [write] at thinned
  cases thinned
  rfl

/-- A codec that does not read `null` writes none for what it restores. -/
theorem Restores.write_ne_null (restores : c.Restores good)
    (strict : c.decode .null = .error .mismatch) {a : α} (h : good a) : c.write a ≠ .null := by
  intro null
  have read := restores a h .null (null ▸ .same _)
  rw [strict] at read
  cases read

theorem Restores.optional (restores : c.Restores good)
    (strict : c.decode .null = .error .mismatch) :
    (Codec.optional c).Restores fun o => ∀ a ∈ o, good a := by
  intro o h j thinned
  cases o with
  | none =>
    cases thinned
    rfl
  | some a =>
    have read : c.decode j = .ok a := restores a (h a rfl) j thinned
    cases j with
    | null =>
      rw [strict] at read
      cases read
    | _ => exact congrArg (Except.map some) read

theorem Restores.items (restores : c.Restores good) {as : List α} (h : ∀ a ∈ as, good a)
    {left : List Json} (thinned : ThinnedItems (as.map c.write) left) :
    List.Forall₂ (fun j a => c.decode j = .ok a) left as := by
  induction as generalizing left with
  | nil =>
    cases thinned
    exact .nil
  | cons a as ih =>
    obtain ⟨first, others⟩ := List.forall_mem_cons.1 h
    cases thinned with
    | cons item rest => exact .cons (restores a first _ item) (ih others rest)

theorem Restores.list (restores : c.Restores good) :
    (Codec.list c).Restores fun as => ∀ a ∈ as, good a := by
  intro as h j thinned
  cases thinned with
  | same => exact decode_list_eq_ok.2 (restores.items h (.same _))
  | array thinned => exact decode_list_eq_ok.2 (restores.items h thinned)

theorem Restores.pair (first : c.Restores good) (second : d.Restores good') :
    (Codec.pair c d).Restores fun ab => good ab.1 ∧ good' ab.2 := by
  intro ab h j thinned
  have items {i j : Json} (left : Thinned (c.write ab.1) i) (right : Thinned (d.write ab.2) j) :
      (Codec.pair c d).decode (.array [i, j]) = .ok ab := by
    have readFirst : c.read i.draft = .ok ab.1 := first _ h.1 _ left
    have readSecond : d.read j.draft = .ok ab.2 := second _ h.2 _ right
    simp [decode, draft, draftItems, Codec.pair, readFirst, readSecond, raise, ok_bind]
  cases thinned with
  | same => exact items (.same _) (.same _)
  | array thinned =>
    cases thinned with
    | cons left rest =>
      cases rest with
      | cons right none =>
        cases none
        exact items left right

end Codec

/-! ## Records -/

namespace Field

variable {f : Field α} {fields : List (Field α)} {a b b' : α}

/-- Whether a field of one record is carried over to another record, which becomes a third one. -/
structure Carries (f : Field α) (a b b' : α) : Prop where
  /-- Reading what is written carries it over. -/
  reads : ∀ j, Thinned (f.write a) j → f.take? b j = some b'
  /-- Where `null` is written, nothing needs to be read. -/
  skips : f.write a = .null → b' = b

/-- A field that is not optional is carried over. -/
theorem carries_plain {name : String} {c : Codec β} {get : α → β} {set : β → α → α}
    {good : β → Prop} (restores : c.Restores good) (strict : c.decode .null = .error .mismatch)
    (h : good (get a)) : (Field.of name c get set).Carries a b (set (get a) b) where
  reads j thinned := by
    rw [take?_of, Codec.decode?_eq_some_iff.2 (restores _ h j thinned)]
    rfl
  skips null := absurd null (restores.write_ne_null strict h)

/-- An optional field is carried over to a record that has it missing. -/
theorem carries_optional {name : String} {c : Codec β} {get : α → Option β}
    {set : Option β → α → α} {good : β → Prop} (restores : c.Restores good)
    (strict : c.decode .null = .error .mismatch) (h : ∀ v ∈ get a, good v)
    (missing : set none b = b) :
    (Field.of name (.optional c) get set).Carries a b (set (get a) b) where
  reads j thinned := by
    rw [take?_of, Codec.decode?_eq_some_iff.2 (restores.optional strict _ h j thinned)]
    rfl
  skips null := by
    cases value : get a with
    | none => exact missing
    | some v =>
      have write : c.write v = .null := by
        simpa [Field.of, Codec.optional, value, ofOption] using null
      exact absurd write (restores.write_ne_null strict (h v value))

section Kinds

variable {name : String}

theorem carries_text {get : α → String} {set : String → α → α} :
    (Field.of name .text get set).Carries a b (set (get a) b) :=
  carries_plain Codec.restores_text rfl trivial

theorem carries_bool {get : α → Bool} {set : Bool → α → α} :
    (Field.of name .bool get set).Carries a b (set (get a) b) :=
  carries_plain Codec.restores_bool rfl trivial

theorem carries_count {get : α → Nat} {set : Nat → α → α} (h : Number.IsUnsigned (get a)) :
    (Field.of name .count get set).Carries a b (set (get a) b) :=
  carries_plain Codec.restores_count rfl h

theorem carries_texts {get : α → List String} {set : List String → α → α} :
    (Field.of name (.list .text) get set).Carries a b (set (get a) b) :=
  carries_plain Codec.restores_text.list rfl fun _ _ => trivial

theorem carries_list {c : Codec β} {get : α → List β} {set : List β → α → α} {good : β → Prop}
    (restores : c.Restores good) (h : ∀ v ∈ get a, good v) :
    (Field.of name (.list c) get set).Carries a b (set (get a) b) :=
  carries_plain restores.list rfl h

theorem carries_optionalText {get : α → Option String} {set : Option String → α → α}
    (missing : set none b = b) :
    (Field.of name (.optional .text) get set).Carries a b (set (get a) b) :=
  carries_optional Codec.restores_text rfl (fun _ _ => trivial) missing

theorem carries_optionalNumber {get : α → Option Float} {set : Option Float → α → α}
    (finite : ∀ v ∈ get a, Number.isFinite v = true) (missing : set none b = b) :
    (Field.of name (.optional .number) get set).Carries a b (set (get a) b) :=
  carries_optional Codec.restores_number rfl finite missing

end Kinds

/-- Whether carrying over fields of one record one after another to another record makes the
one out of the other. -/
inductive CarryAll (a : α) : List (Field α) → α → Prop where
  /-- The record is made. -/
  | done : CarryAll a [] a
  /-- A field is carried over, and then the others. -/
  | field {f : Field α} {fields : List (Field α)} {b b' : α} (carries : f.Carries a b b')
      (rest : CarryAll a fields b') : CarryAll a (f :: fields) b

/-- What is left of a written record makes the record out of the one it is read into. -/
theorem CarryAll.foldlM_takeMember? {all : List (Field α)} (carry : CarryAll a fields b)
    (found : ∀ f ∈ fields, all.find? (·.name == f.name) = some f) {left : List (String × Json)}
    (thinned : ThinnedMembers (fields.map fun f => (f.name, f.write a)) left) :
    left.foldlM (takeMember? all) b = some a := by
  induction carry generalizing left with
  | done =>
    cases thinned
    rfl
  | @field f fields b b' carries rest ih =>
    obtain ⟨first, others⟩ := List.forall_mem_cons.1 found
    cases thinned with
    | @keep _ j _ _ value thinned =>
      have taken : takeMember? all b (f.name, j) = some b' := by
        simp only [takeMember?, first]
        exact carries.reads j value
      rw [List.foldlM_cons, taken]
      exact ih others thinned
    | drop null thinned =>
      rw [← carries.skips null]
      exact ih others thinned

end Field

theorem find?_name_of_mem {fields : List (Field α)} (distinct : (fields.map (·.name)).Nodup)
    {f : Field α} (mem : f ∈ fields) : fields.find? (·.name == f.name) = some f := by
  induction fields with
  | nil => cases mem
  | cons g gs ih =>
    obtain ⟨fresh, distinct⟩ := List.nodup_cons.1 distinct
    rcases List.mem_cons.1 mem with rfl | later
    · simp
    · have other : g.name ≠ f.name := fun eq => fresh (List.mem_map.2 ⟨f, later, eq.symm⟩)
      rw [List.find?_cons_of_neg (by simpa using other), ih distinct later]

/-- A record is restored if its fields can be carried over to the default. -/
theorem Codec.restores_record {fields : List (Field α)} {start : α} {good : α → Prop}
    (distinct : (fields.map (·.name)).Nodup)
    (carry : ∀ a, good a → Field.CarryAll a fields start) :
    (Codec.record start fields).Restores good := by
  intro a h j thinned
  have members {left : List (String × Json)}
      (thinned : ThinnedMembers (fields.map fun f => (f.name, f.write a)) left) :
      (Codec.record start fields).decode (.object left) = .ok a := by
    have names := thinned.names_sublist
    rw [List.map_map] at names
    have known : (object left).given (fields.map (·.name)) = left := by
      refine List.filter_eq_self.2 fun e mem => List.contains_iff_mem.2 ?_
      exact names.subset (List.mem_map_of_mem mem)
    rw [decode_record_object_eq_ok, GivesOnce, known]
    exact ⟨distinct.sublist names,
      (carry a h).foldlM_takeMember? (fun f mem => find?_name_of_mem distinct mem) thinned⟩
  cases thinned with
  | same => exact members (.same _)
  | object thinned => exact members thinned

end KnowledgeGraph.Json
