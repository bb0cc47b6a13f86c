import KnowledgeGraph.Json.Draft

/-!
# Values of drafts

How deep a value nests is a number of its own (`depth`).  The room in which a draft is kept
decides whether it has a value, and not which one: a draft with a value has it wherever the value
fits (`Draft.keep_of_depth_le`), and a value is kept as itself (`keep_draft`).

A draft is whole (`Draft.Whole`) when no fault cuts it short and what stands for a number is one.
Whole drafts are walked past (`Draft.pass_of_whole`), and what is kept of them fits into the room
(`Draft.depth_le_of_keep`).
-/

namespace KnowledgeGraph.Json

/-! ## Steps that succeed -/

/-- Two steps succeed when both do. -/
theorem bind_eq_ok {ε α β : Type} {x : Except ε α} {f : α → Except ε β} {b : β} :
    (x >>= f) = .ok b ↔ ∃ a, x = .ok a ∧ f a = .ok b := by
  cases x <;> simp [bind, Except.bind]

theorem ok_bind {ε α β : Type} (a : α) (f : α → Except ε β) : (.ok a >>= f) = f a := rfl

theorem map_eq_ok {ε α β : Type} {x : Except ε α} {f : α → β} {b : β} :
    x.map f = .ok b ↔ ∃ a, x = .ok a ∧ f a = b := by
  cases x <;> simp [Except.map]

theorem pure_eq_ok {ε α : Type} {a b : α} : (pure a : Except ε α) = .ok b ↔ a = b := by
  simp [pure, Except.pure]

theorem raise_eq_ok {cut : Option Fault} {u : Unit} : raise cut = .ok u ↔ cut = none := by
  cases cut <;> simp [raise]

/-! ## Depth -/

mutual

/-- How deep the lists and objects of a value nest. -/
def depth : Json → Nat
  | .array items => depthItems items + 1
  | .object ms => depthMembers ms + 1
  | _ => 0

/-- How deep the items of a list nest. -/
def depthItems : List Json → Nat
  | [] => 0
  | j :: js => max (depth j) (depthItems js)

/-- How deep the members of an object nest. -/
def depthMembers : List (String × Json) → Nat
  | [] => 0
  | (_, j) :: ms => max (depth j) (depthMembers ms)

end

theorem depthMembers_le_iff {ms : List (String × Json)} {n : Nat} :
    depthMembers ms ≤ n ↔ ∀ e ∈ ms, e.2.depth ≤ n := by
  induction ms with
  | nil => simp [depthMembers]
  | cons e ms ih => rw [depthMembers, Nat.max_le, ih, List.forall_mem_cons]

/-! ## Whole drafts -/

namespace Draft

mutual

/-- Whether a draft stops nowhere.  The value of a number or a text may still have a fault. -/
def Whole : Draft → Prop
  | .null => True
  | .bool _ => True
  | .number value passing => (∀ j, value = .ok j → j.number?.isSome) ∧ passing = none
  | .string _ passing => passing = none
  | .array items cut _ => WholeItems items ∧ cut = none
  | .object members cut => WholeMembers members ∧ cut = none
  | .broken _ => False

/-- Whether the items of a list stop nowhere. -/
def WholeItems : List Draft → Prop
  | [] => True
  | d :: ds => Whole d ∧ WholeItems ds

/-- Whether the members of an object stop nowhere. -/
def WholeMembers : List (Label × Draft) → Prop
  | [] => True
  | (label, d) :: ms => label.passing = none ∧ Whole d ∧ WholeMembers ms

end

/-! ## Walking past -/

mutual

/-- A whole draft is walked past. -/
theorem pass_of_whole : ∀ {d : Draft}, d.Whole → d.pass = .ok ()
  | .null, _ => rfl
  | .bool _, _ => rfl
  | .number _ _, whole => raise_eq_ok.2 whole.2
  | .string _ _, whole => raise_eq_ok.2 whole
  | .array _ _ _, whole =>
      bind_eq_ok.2 ⟨(), passItems_of_whole whole.1, raise_eq_ok.2 whole.2⟩
  | .object _ _, whole =>
      bind_eq_ok.2 ⟨(), passMembers_of_whole whole.1, raise_eq_ok.2 whole.2⟩

theorem passItems_of_whole : ∀ {ds : List Draft}, WholeItems ds → passItems ds = .ok ()
  | [], _ => rfl
  | _ :: _, whole => bind_eq_ok.2 ⟨(), pass_of_whole whole.1, passItems_of_whole whole.2⟩

theorem passMembers_of_whole :
    ∀ {members : List (Label × Draft)}, WholeMembers members → passMembers members = .ok ()
  | [], _ => rfl
  | (_, _) :: _, whole => bind_eq_ok.2 ⟨(), raise_eq_ok.2 whole.1,
      bind_eq_ok.2 ⟨(), pass_of_whole whole.2.1, passMembers_of_whole whole.2.2⟩⟩

end

/-! ## Keeping -/

variable {room : Nat}

theorem keep_array_eq_ok {items : List Draft} {cut : Option Fault} {surplus : Fault} {j : Json} :
    (array items cut surplus).keep (room + 1) = .ok j ↔
      ∃ js, keepItems room items = .ok js ∧ cut = none ∧ .array js = j := by
  simp only [keep, bind_eq_ok, raise_eq_ok, pure_eq_ok, exists_const]

theorem keep_object_eq_ok {members : List (Label × Draft)} {cut : Option Fault} {j : Json} :
    (object members cut).keep (room + 1) = .ok j ↔
      ∃ ms, keepMembers room members = .ok ms ∧ cut = none ∧ .object ms = j := by
  simp only [keep, bind_eq_ok, raise_eq_ok, pure_eq_ok, exists_const]

theorem keepItems_cons_eq_ok {d : Draft} {ds : List Draft} {js : List Json} :
    keepItems room (d :: ds) = .ok js ↔
      ∃ j js', d.keep room = .ok j ∧ keepItems room ds = .ok js' ∧ j :: js' = js := by
  simp only [keepItems, bind_eq_ok, pure_eq_ok, exists_and_left]

theorem keepMembers_cons_eq_ok {label : Label} {d : Draft} {members : List (Label × Draft)}
    {ms : List (String × Json)} : keepMembers room ((label, d) :: members) = .ok ms ↔
      ∃ name j ms', label.name = .ok name ∧ d.keep room = .ok j ∧
        keepMembers room members = .ok ms' ∧ (name, j) :: ms' = ms := by
  simp only [keepMembers, bind_eq_ok, pure_eq_ok, exists_and_left]

mutual

/-- A kept value fits into the room. -/
theorem depth_le_of_keep {room : Nat} {j : Json} :
    ∀ {d : Draft}, d.Whole → d.keep room = .ok j → j.depth ≤ room
  | .null, _, h => by cases h; exact Nat.zero_le _
  | .bool _, _, h => by cases h; exact Nat.zero_le _
  | .number value _, whole, h => by
      have number := whole.1 j h
      cases j <;> first | exact Nat.zero_le _ | cases number
  | .string value _, _, h => by
      obtain ⟨s, -, rfl⟩ := map_eq_ok.1 h
      exact Nat.zero_le _
  | .array items _ _, whole, h => by
      cases room with
      | zero => cases h
      | succ room =>
        obtain ⟨js, kept, -, rfl⟩ := keep_array_eq_ok.1 h
        exact Nat.succ_le_succ (depthItems_le_of_keepItems whole.1 kept)
  | .object members _, whole, h => by
      cases room with
      | zero => cases h
      | succ room =>
        obtain ⟨ms, kept, -, rfl⟩ := keep_object_eq_ok.1 h
        exact Nat.succ_le_succ (depthMembers_le_of_keepMembers whole.1 kept)

theorem depthItems_le_of_keepItems {room : Nat} {js : List Json} :
    ∀ {ds : List Draft}, WholeItems ds → keepItems room ds = .ok js → depthItems js ≤ room
  | [], _, h => by cases h; exact Nat.zero_le _
  | d :: ds, whole, h => by
      obtain ⟨j, js', kept, rest, rfl⟩ := keepItems_cons_eq_ok.1 h
      exact Nat.max_le.2 ⟨depth_le_of_keep whole.1 kept, depthItems_le_of_keepItems whole.2 rest⟩

theorem depthMembers_le_of_keepMembers {room : Nat} {ms : List (String × Json)} :
    ∀ {members : List (Label × Draft)}, WholeMembers members →
      keepMembers room members = .ok ms → depthMembers ms ≤ room
  | [], _, h => by cases h; exact Nat.zero_le _
  | (label, d) :: members, whole, h => by
      obtain ⟨name, j, ms', -, kept, rest, rfl⟩ := keepMembers_cons_eq_ok.1 h
      exact Nat.max_le.2
        ⟨depth_le_of_keep whole.2.1 kept, depthMembers_le_of_keepMembers whole.2.2 rest⟩

end

mutual

/-- A draft with a value has it in every room that the value fits into. -/
theorem keep_of_depth_le {room room' : Nat} {j : Json} :
    ∀ {d : Draft}, d.keep room = .ok j → j.depth ≤ room' → d.keep room' = .ok j
  | .null, h, _ => h
  | .bool _, h, _ => h
  | .number _ _, h, _ => h
  | .string _ _, h, _ => h
  | .array items _ _, h, fits => by
      cases room with
      | zero => cases h
      | succ room =>
        obtain ⟨js, kept, rfl, rfl⟩ := keep_array_eq_ok.1 h
        cases room' with
        | zero => cases fits
        | succ room' =>
          have inner := keepItems_of_depthItems_le kept (Nat.le_of_succ_le_succ fits)
          exact keep_array_eq_ok.2 ⟨js, inner, rfl, rfl⟩
  | .object members _, h, fits => by
      cases room with
      | zero => cases h
      | succ room =>
        obtain ⟨ms, kept, rfl, rfl⟩ := keep_object_eq_ok.1 h
        cases room' with
        | zero => cases fits
        | succ room' =>
          have inner := keepMembers_of_depthMembers_le kept (Nat.le_of_succ_le_succ fits)
          exact keep_object_eq_ok.2 ⟨ms, inner, rfl, rfl⟩
  | .broken _, h, _ => by cases h

theorem keepItems_of_depthItems_le {room room' : Nat} {js : List Json} :
    ∀ {ds : List Draft}, keepItems room ds = .ok js → depthItems js ≤ room' →
      keepItems room' ds = .ok js
  | [], h, _ => h
  | d :: ds, h, fits => by
      obtain ⟨j, js', kept, rest, rfl⟩ := keepItems_cons_eq_ok.1 h
      have ⟨first, others⟩ := Nat.max_le.1 fits
      exact keepItems_cons_eq_ok.2 ⟨j, js', keep_of_depth_le kept first,
        keepItems_of_depthItems_le rest others, rfl⟩

theorem keepMembers_of_depthMembers_le {room room' : Nat} {ms : List (String × Json)} :
    ∀ {members : List (Label × Draft)}, keepMembers room members = .ok ms →
      depthMembers ms ≤ room' → keepMembers room' members = .ok ms
  | [], h, _ => h
  | (label, d) :: members, h, fits => by
      obtain ⟨name, j, ms', named, kept, rest, rfl⟩ := keepMembers_cons_eq_ok.1 h
      have ⟨first, others⟩ := Nat.max_le.1 fits
      exact keepMembers_cons_eq_ok.2 ⟨name, j, ms', named, keep_of_depth_le kept first,
        keepMembers_of_depthMembers_le rest others, rfl⟩

end

end Draft

/-! ## Values as drafts -/

mutual

/-- A value is kept as itself where it fits. -/
theorem keep_draft : ∀ {j : Json} {room : Nat}, j.depth ≤ room → j.draft.keep room = .ok j
  | .null, _, _ => rfl
  | .bool _, _, _ => rfl
  | .int _, _, _ => rfl
  | .float _, _, _ => rfl
  | .string _, _, _ => rfl
  | .array items, _ + 1, fits => Draft.keep_array_eq_ok.2
      ⟨items, keepItems_draftItems (Nat.le_of_succ_le_succ fits), rfl, rfl⟩
  | .object ms, _ + 1, fits => Draft.keep_object_eq_ok.2
      ⟨ms, keepMembers_draftMembers (Nat.le_of_succ_le_succ fits), rfl, rfl⟩

theorem keepItems_draftItems : ∀ {items : List Json} {room : Nat}, depthItems items ≤ room →
    Draft.keepItems room (draftItems items) = .ok items
  | [], _, _ => rfl
  | j :: js, _, fits =>
      have parts := Nat.max_le.1 fits
      Draft.keepItems_cons_eq_ok.2
        ⟨j, js, keep_draft parts.1, keepItems_draftItems parts.2, rfl⟩

theorem keepMembers_draftMembers : ∀ {ms : List (String × Json)} {room : Nat},
    depthMembers ms ≤ room → Draft.keepMembers room (draftMembers ms) = .ok ms
  | [], _, _ => rfl
  | (k, j) :: ms, _, fits =>
      have parts := Nat.max_le.1 fits
      Draft.keepMembers_cons_eq_ok.2
        ⟨k, j, ms, rfl, keep_draft parts.1, keepMembers_draftMembers parts.2, rfl⟩

end

mutual

/-- A value has a whole draft. -/
theorem whole_draft : ∀ j : Json, j.draft.Whole
  | .null => trivial
  | .bool _ => trivial
  | .int _ => ⟨by rintro _ ⟨⟩; rfl, rfl⟩
  | .float _ => ⟨by rintro _ ⟨⟩; rfl, rfl⟩
  | .string _ => rfl
  | .array items => ⟨wholeItems_draftItems items, rfl⟩
  | .object ms => ⟨wholeMembers_draftMembers ms, rfl⟩

theorem wholeItems_draftItems : ∀ items : List Json, Draft.WholeItems (draftItems items)
  | [] => trivial
  | j :: js => ⟨whole_draft j, wholeItems_draftItems js⟩

theorem wholeMembers_draftMembers :
    ∀ ms : List (String × Json), Draft.WholeMembers (draftMembers ms)
  | [] => trivial
  | (_, j) :: ms => ⟨rfl, whole_draft j, wholeMembers_draftMembers ms⟩

end

end KnowledgeGraph.Json
