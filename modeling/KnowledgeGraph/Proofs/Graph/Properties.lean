import KnowledgeGraph.Graph.Edge
import KnowledgeGraph.Proofs.KeyedMap

/-!
# Setting properties

Setting a property changes the answer at its name and nothing else: kind, identifier and ends
stay.  A node is bare when no property has a value, so one property with a value is enough for a
node not to be (`isBare_eq_false_iff`), and setting more of them does not undo that.
-/

namespace KnowledgeGraph

/-! ## Nodes -/

namespace Node

variable {n : Node} {name k : String} {v : Json} {o : Option Json}

@[simp] theorem ref_set : (n.set name v).ref = n.ref := rfl

@[simp] theorem key_set : (n.set name v).key = n.key := rfl

@[simp] theorem kind_set : (n.set name v).kind = n.kind := rfl

@[simp] theorem id_set : (n.set name v).id = n.id := rfl

/-- Setting a property that may be missing either sets it or changes nothing. -/
theorem setPresent_eq (n : Node) (name : String) (o : Option Json) :
    (∃ v, isPresent v = true ∧ o = some v ∧ n.setPresent name o = n.set name v) ∨
      n.setPresent name o = n := by
  cases o with
  | none => exact .inr rfl
  | some v =>
    cases present : isPresent v with
    | false => exact .inr (by simp [setPresent, Option.filter, present])
    | true => exact .inl ⟨v, present, rfl, by simp [setPresent, Option.filter, present]⟩

@[simp] theorem ref_setPresent : (n.setPresent name o).ref = n.ref := by
  rcases setPresent_eq n name o with ⟨v, -, -, eq⟩ | eq <;> rw [eq]
  rfl

@[simp] theorem kind_setPresent : (n.setPresent name o).kind = n.kind :=
  congrArg Ref.kind ref_setPresent

@[simp] theorem id_setPresent : (n.setPresent name o).id = n.id :=
  congrArg Ref.id ref_setPresent

/-- A property that is set answers with its value. -/
theorem find?_set (n : Node) (name : String) (v : Json) (k : String) :
    (n.set name v).properties.find? k = if k = name then some v else n.properties.find? k :=
  KeyedMap.find?_insert _ _ _ _

/-- A property that may be missing answers with its value where it is worth one, and as before
otherwise. -/
theorem find?_setPresent (n : Node) (name : String) (o : Option Json) (k : String) :
    (n.setPresent name o).properties.find? k =
      if k = name then (o.filter isPresent).or (n.properties.find? k)
      else n.properties.find? k := by
  cases worth : o.filter isPresent with
  | none => simp [setPresent, worth]
  | some v => simp [setPresent, worth, find?_set]

/-- The text of a property that is set is the text of its value. -/
theorem propertyText?_set (n : Node) (name : String) (v : Json) (k : String) :
    (n.set name v).propertyText? k = if k = name then v.string? else n.propertyText? k := by
  rw [propertyText?, find?_set]
  split <;> rfl

/-- Setting one property that may be missing does not change the text of another one. -/
theorem propertyText?_setPresent_of_ne (n : Node) (name : String) (o : Option Json) {k : String}
    (ne : k ≠ name) : (n.setPresent name o).propertyText? k = n.propertyText? k := by
  rw [propertyText?, find?_setPresent, if_neg ne, propertyText?]

/-- A text is worth a property unless it is blank. -/
theorem isPresent_string (s : String) : isPresent (.string s) = (Text.presence? s).isSome := rfl

/-! ### Bare nodes -/

/-- A node is bare exactly if every property that it has is `null`. -/
theorem isBare_eq_false_iff :
    n.isBare = false ↔ ∃ k v, n.properties.find? k = some v ∧ v.isNull = false := by
  rw [isBare, List.all_eq_false]
  constructor
  · rintro ⟨v, mem, null⟩
    obtain ⟨k, found⟩ := KeyedMap.mem_values_iff.1 mem
    exact ⟨k, v, found, by simpa using null⟩
  · rintro ⟨k, v, found, null⟩
    exact ⟨v, KeyedMap.mem_values_iff.2 ⟨k, found⟩, by simpa using null⟩

/-- A node with a property that has a value is not bare. -/
theorem isBare_set (h : v.isNull = false) : (n.set name v).isBare = false :=
  isBare_eq_false_iff.2 ⟨name, v, by simp [find?_set], h⟩

/-- A value that is worth a property is not `null`. -/
theorem isNull_of_isPresent (h : isPresent v = true) : v.isNull = false := by
  cases v <;> simp_all [isPresent, Json.isNull]

/-- A node that is not bare does not become so. -/
theorem isBare_setPresent (h : n.isBare = false) : (n.setPresent name o).isBare = false := by
  rcases setPresent_eq n name o with ⟨v, present, -, eq⟩ | eq
  · rw [eq]
    exact isBare_set (isNull_of_isPresent present)
  · rw [eq]
    exact h

end Node

/-! ## Edges -/

namespace Edge

variable {e : Edge} {name : String} {v : Json} {o : Option Json} {w : Float}

@[simp] theorem kind_set : (e.set name v).kind = e.kind := rfl

@[simp] theorem source_set : (e.set name v).source = e.source := rfl

@[simp] theorem target_set : (e.set name v).target = e.target := rfl

/-- A property that is set answers with its value. -/
theorem find?_set (e : Edge) (name : String) (v : Json) (k : String) :
    (e.set name v).properties.find? k = if k = name then some v else e.properties.find? k :=
  KeyedMap.find?_insert _ _ _ _

@[simp] theorem kind_setWeight : (e.setWeight w).kind = e.kind := rfl

@[simp] theorem source_setWeight : (e.setWeight w).source = e.source := rfl

@[simp] theorem target_setWeight : (e.setWeight w).target = e.target := rfl

/-- Setting a property that may be missing either sets it or changes nothing. -/
theorem setPresent_eq (e : Edge) (name : String) (o : Option Json) :
    (∃ v, e.setPresent name o = e.set name v) ∨ e.setPresent name o = e := by
  unfold setPresent
  split
  · next v _ => exact .inl ⟨v, rfl⟩
  · exact .inr rfl

@[simp] theorem kind_setPresent : (e.setPresent name o).kind = e.kind := by
  rcases setPresent_eq e name o with ⟨v, eq⟩ | eq <;> rw [eq]
  rfl

@[simp] theorem source_setPresent : (e.setPresent name o).source = e.source := by
  rcases setPresent_eq e name o with ⟨v, eq⟩ | eq <;> rw [eq]
  rfl

@[simp] theorem target_setPresent : (e.setPresent name o).target = e.target := by
  rcases setPresent_eq e name o with ⟨v, eq⟩ | eq <;> rw [eq]
  rfl

end Edge

end KnowledgeGraph
