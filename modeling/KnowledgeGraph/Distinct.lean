/-!
# Distinct elements

`distinct` keeps the first occurrence of every element of a list, in order.  Where elements are told
apart by a key only, `List.eraseDupsBy` keeps the first element of every key.
-/

namespace KnowledgeGraph

variable {α : Type} [DecidableEq α]

/-- The elements of a list without repetitions, each where it occurs first. -/
def distinct : List α → List α
  | [] => []
  | a :: as => a :: (distinct as).filter (· ≠ a)

/-- An element occurs among the distinct ones exactly if it occurs in the list. -/
@[simp] theorem mem_distinct {a : α} {as : List α} : a ∈ distinct as ↔ a ∈ as := by
  induction as with
  | nil => simp [distinct]
  | cons b bs ih => by_cases h : a = b <;> simp [distinct, h, ih]

/-- No element occurs twice. -/
theorem nodup_distinct (as : List α) : (distinct as).Nodup := by
  induction as with
  | nil => simp [distinct]
  | cons b bs ih =>
    exact List.nodup_cons.2 ⟨by simp, List.Pairwise.filter _ ih⟩

/-- An element after a list is distinct if the list does not have it. -/
theorem distinct_concat (as : List α) (a : α) :
    distinct (as ++ [a]) = if a ∈ as then distinct as else distinct as ++ [a] := by
  induction as with
  | nil => simp [distinct]
  | cons b bs ih =>
    rw [List.cons_append, distinct, ih, distinct]
    by_cases same : a = b
    · subst same
      split <;> simp
    · by_cases within : a ∈ bs <;> simp [same, within]

/-- Where a function tells the elements of a list apart, it does not matter if they are made
distinct before or after it. -/
theorem distinct_map {β : Type} [DecidableEq β] {f : α → β} {as : List α}
    (inj : ∀ a ∈ as, ∀ b ∈ as, f a = f b → a = b) : distinct (as.map f) = (distinct as).map f := by
  induction as with
  | nil => rfl
  | cons a as ih =>
    have tail := ih fun b hb c hc => inj b (List.mem_cons_of_mem a hb) c (List.mem_cons_of_mem a hc)
    rw [List.map_cons, distinct, distinct, tail, List.map_cons, List.filter_map]
    congr 2
    refine List.filter_congr fun b hb => ?_
    have apart : f b = f a ↔ b = a :=
      ⟨inj b (List.mem_cons_of_mem a (mem_distinct.1 hb)) a List.mem_cons_self, congrArg f⟩
    simp [apart]

example : distinct [1, 2, 1, 3, 2] = [1, 2, 3] := by decide

/-! ## Distinct keys -/

/-- Nothing is added. -/
theorem mem_of_mem_eraseDupsBy {β : Type} {same : β → β → Bool} {b : β} :
    ∀ {bs : List β}, b ∈ bs.eraseDupsBy same → b ∈ bs
  | [], h => h
  | c :: cs, h => by
    rw [List.eraseDupsBy_cons] at h
    rcases List.mem_cons.1 h with rfl | h
    · exact List.mem_cons_self
    · exact List.mem_cons_of_mem _ (List.mem_filter.1 (mem_of_mem_eraseDupsBy h)).1
termination_by bs => bs.length
decreasing_by exact Nat.lt_succ_of_le (List.length_filter_le _ _)

/-- No key occurs twice. -/
theorem nodup_map_eraseDupsBy {β : Type} (key : β → α) :
    ∀ bs : List β, ((bs.eraseDupsBy fun b c => key b == key c).map key).Nodup
  | [] => List.nodup_nil
  | b :: bs => by
    rw [List.eraseDupsBy_cons, List.map_cons, List.nodup_cons]
    refine ⟨fun again => ?_, nodup_map_eraseDupsBy key _⟩
    obtain ⟨c, mem, same⟩ := List.mem_map.1 again
    have other := (List.mem_filter.1 (mem_of_mem_eraseDupsBy mem)).2
    simp [same] at other
termination_by bs => bs.length
decreasing_by exact Nat.lt_succ_of_le (List.length_filter_le _ _)

end KnowledgeGraph
