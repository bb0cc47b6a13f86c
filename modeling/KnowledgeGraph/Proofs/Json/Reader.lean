import KnowledgeGraph.Proofs.Json.Lexeme

/-!
# What a reader takes

The readers of values call each other with less fuel, and so what each of them does is said once,
for one step: a value, the items of a list and the members of an object are read in one of a few
ways, which their first character tells apart (`TakesValue`, `TakesItems`, `TakesMembers`).

From this it follows by induction on the fuel that what is read is read with more fuel too, and
alike whatever stands behind it (`extends_of_le`), and that nothing in it stops short
(`readsWhole`).  A text that is one value is then, between brackets, a list of that one value
(`Draft.ofText_brackets`).
-/

namespace KnowledgeGraph.Json

variable {x : List Char}

/-! ## Values -/

/-- The ways in which a value is read, from its first character on. -/
inductive TakesValue (f : Nat) : List Char → Draft → List Char → Prop where
  | null {cs r} : readWord ['u', 'l', 'l'] cs = .ok r → TakesValue f ('n' :: cs) .null r
  | true {cs r} : readWord ['r', 'u', 'e'] cs = .ok r → TakesValue f ('t' :: cs) (.bool true) r
  | false {cs r} :
      readWord ['a', 'l', 's', 'e'] cs = .ok r → TakesValue f ('f' :: cs) (.bool false) r
  | string {cs label r} : readLabel cs = (label, .ok r) →
      TakesValue f ('"' :: cs) (.string label.name label.passing) r
  | array {cs items cut r} : readItems f true cs = (items, cut, some r) →
      TakesValue f ('[' :: cs) (.array items cut .malformed) r
  | object {cs members cut r} : readMembers f true cs = (members, cut, some r) →
      TakesValue f ('\x7b' :: cs) (.object members cut) r
  | number {c cs d r} : c = '-' ∨ c.isDigit = true → readNumber (c :: cs) = (d, some r) →
      TakesValue f (c :: cs) d r

theorem readValue_eq_some_iff {f : Nat} {cs r : List Char} {d : Draft} :
    readValue (f + 1) cs = (d, some r) ↔ TakesValue f (dropSpace cs) d r := by
  rw [readValue]
  generalize dropSpace cs = start
  constructor
  · intro h
    split at h
    · cases h
    · obtain ⟨word, rfl⟩ := wordDraft_eq_some_iff.1 h
      exact .null word
    · obtain ⟨word, rfl⟩ := wordDraft_eq_some_iff.1 h
      exact .true word
    · obtain ⟨word, rfl⟩ := wordDraft_eq_some_iff.1 h
      exact .false word
    · next cs =>
      cases read : readLabel cs with
      | mk label rest =>
      cases rest with
      | error f => simp [read, Except.toOption] at h
      | ok rest =>
        simp only [read, Except.toOption, Prod.mk.injEq, Option.some.injEq] at h
        obtain ⟨rfl, rfl⟩ := h
        exact .string read
    · next cs =>
      cases read : readItems f true cs with
      | mk items tail =>
        obtain ⟨cut, rest⟩ := tail
        simp only [read, Prod.mk.injEq] at h
        obtain ⟨rfl, rfl⟩ := h
        exact .array read
    · next cs =>
      cases read : readMembers f true cs with
      | mk items tail =>
        obtain ⟨cut, rest⟩ := tail
        simp only [read, Prod.mk.injEq] at h
        obtain ⟨rfl, rfl⟩ := h
        exact .object read
    · split at h
      · next number => exact .number number h
      · cases h
  · intro h
    cases h with
    | null word => simp only [word, wordDraft]
    | true word => simp only [word, wordDraft]
    | false word => simp only [word, wordDraft]
    | string read => simp only [read, Except.toOption]
    | array read => simp only [read]
    | object read => simp only [read]
    | @number c cs _ _ number read =>
      -- No other value begins with a sign or a digit.
      split
      case h_1 eq => cases eq
      case h_8 eq => cases eq; rw [if_pos number, read]
      all_goals next eq => cases eq; exact absurd number (by decide)

/-- The ways in which the items of a list are read, from the first character on. -/
inductive TakesItems (f : Nat) : Bool → List Char → List Draft → Option Fault → List Char → Prop
    where
  | close {first cs} : TakesItems f first (']' :: cs) [] none cs
  | first {c cs items cut r} : c ≠ ']' → readItem f (c :: cs) = (items, cut, some r) →
      TakesItems f true (c :: cs) items cut r
  | next {c cs cs' items cut r} : dropSpace cs = c :: cs' → c ≠ ']' →
      readItem f (c :: cs') = (items, cut, some r) → TakesItems f false (',' :: cs) items cut r

theorem readItems_eq_some_iff {f : Nat} {first : Bool} {cs r : List Char} {items : List Draft}
    {cut : Option Fault} : readItems (f + 1) first cs = (items, cut, some r) ↔
      TakesItems f first (dropSpace cs) items cut r := by
  rw [readItems]
  generalize dropSpace cs = start
  constructor
  · intro h
    split at h
    · cases h
    · cases h
      exact .close
    · next c cs notClose =>
      split at h
      · next isFirst =>
        subst isFirst
        exact .first notClose h
      · next notFirst =>
        obtain rfl := Bool.not_eq_true _ ▸ notFirst
        split at h
        · next comma =>
          subst comma
          split at h
          · cases h
          · cases h
          · next nonempty notClose =>
            obtain ⟨d, ds, start⟩ := List.exists_cons_of_ne_nil nonempty
            rw [start] at h
            exact .next start (fun eq => notClose ds (by rw [start, eq])) h
        · cases h
  · intro h
    cases h with
    | close => rfl
    | first notClose read =>
      split
      case h_1 eq => cases eq
      case h_2 eq => cases eq; exact absurd rfl notClose
      case h_3 eq => cases eq; exact read
    | next start notClose read =>
      split
      case h_1 eq => cases eq
      case h_2 eq => cases eq
      case h_3 eq =>
        cases eq
        rw [if_neg Bool.false_ne_true, if_pos rfl, start]
        split
        case h_1 eq => cases eq
        case h_2 eq => cases eq; exact absurd rfl notClose
        case h_3 => exact read

/-- One part stands in front of others. -/
theorem Parts.cons_eq_iff {α : Type} {a : α} {parts : Parts α} {as : List α} {cut : Option Fault}
    {rest : Option (List Char)} :
    (match parts with | (as, cut, rest) => (a :: as, cut, rest)) = (as, cut, rest) ↔
      ∃ as', parts = (as', cut, rest) ∧ as = a :: as' := by
  obtain ⟨as', cut', rest'⟩ := parts
  simp only [Prod.mk.injEq]
  constructor
  · rintro ⟨rfl, rfl, rfl⟩
    exact ⟨as', ⟨rfl, rfl, rfl⟩, rfl⟩
  · rintro ⟨as'', ⟨rfl, rfl, rfl⟩, rfl⟩
    exact ⟨rfl, rfl, rfl⟩

/-- One item is a value, and the others come after it. -/
theorem readItem_eq_some_iff {f : Nat} {cs r : List Char} {items : List Draft}
    {cut : Option Fault} : readItem (f + 1) cs = (items, cut, some r) ↔
      ∃ d rest ds, readValue f cs = (d, some rest) ∧
        readItems f false rest = (ds, cut, some r) ∧ items = d :: ds := by
  rw [readItem]
  constructor
  · intro h
    split at h
    · cases h
    · next d rest read =>
      obtain ⟨ds, more, rfl⟩ := Parts.cons_eq_iff.1 h
      exact ⟨d, rest, ds, read, more, rfl⟩
  · rintro ⟨d, rest, ds, read, more, rfl⟩
    simp only [read, more]

/-- The ways in which the members of an object are read, from the first character on. -/
inductive TakesMembers (f : Nat) : Bool → List Char → List (Label × Draft) → Option Fault →
    List Char → Prop where
  | close {first cs} : TakesMembers f first ('\x7d' :: cs) [] none cs
  | first {c cs members cut r} : c ≠ '\x7d' → readMember f (c :: cs) = (members, cut, some r) →
      TakesMembers f true (c :: cs) members cut r
  | next {c cs cs' members cut r} : dropSpace cs = c :: cs' →
      readMember f (c :: cs') = (members, cut, some r) →
      TakesMembers f false (',' :: cs) members cut r

theorem readMembers_eq_some_iff {f : Nat} {first : Bool} {cs r : List Char}
    {members : List (Label × Draft)} {cut : Option Fault} :
    readMembers (f + 1) first cs = (members, cut, some r) ↔
      TakesMembers f first (dropSpace cs) members cut r := by
  rw [readMembers]
  generalize dropSpace cs = start
  constructor
  · intro h
    split at h
    · cases h
    · cases h
      exact .close
    · next c cs notClose =>
      split at h
      · next isFirst =>
        subst isFirst
        exact .first notClose h
      · next notFirst =>
        obtain rfl := Bool.not_eq_true _ ▸ notFirst
        split at h
        · next comma =>
          subst comma
          split at h
          · cases h
          · next nonempty =>
            obtain ⟨d, ds, start⟩ := List.exists_cons_of_ne_nil nonempty
            rw [start] at h
            exact .next start h
        · cases h
  · intro h
    cases h with
    | close => rfl
    | first notClose read =>
      split
      case h_1 eq => cases eq
      case h_2 eq => cases eq; exact absurd rfl notClose
      case h_3 eq => cases eq; exact read
    | next start read =>
      split
      case h_1 eq => cases eq
      case h_2 eq => cases eq
      case h_3 eq =>
        cases eq
        rw [if_neg Bool.false_ne_true, if_pos rfl, start]
        exact read

/-- One member is a name, a colon and a value, and the others come after it. -/
theorem readMember_eq_some_iff {f : Nat} {cs r : List Char} {members : List (Label × Draft)}
    {cut : Option Fault} : readMember (f + 1) cs = (members, cut, some r) ↔
      ∃ cs' label rest value d rest' ms, cs = '"' :: cs' ∧ readLabel cs' = (label, .ok rest) ∧
        dropSpace rest = ':' :: value ∧ readValue f value = (d, some rest') ∧
        readMembers f false rest' = (ms, cut, some r) ∧ members = (label, d) :: ms := by
  unfold readMember
  constructor
  · intro h
    split at h
    · next cs' =>
      split at h
      · cases h
      · next label rest name =>
        split at h
        · cases h
        · next value colon =>
          split at h
          · cases h
          · next d rest' read =>
            obtain ⟨ms, more, rfl⟩ := Parts.cons_eq_iff.1 h
            exact ⟨cs', label, rest, value, d, rest', ms, rfl, name, colon, read, more, rfl⟩
        · cases h
    · cases h
  · rintro ⟨cs', label, rest, value, d, rest', ms, rfl, name, colon, read, more, rfl⟩
    simp only [name, colon, read, more]

/-! ## More fuel and more text -/

/-- What is read with some fuel is read with other fuel when something follows. -/
structure Extends (x : List Char) (f f' : Nat) : Prop where
  /-- A value is read alike. -/
  value : ∀ {cs d r}, readValue f cs = (d, some r) → readValue f' (cs ++ x) = (d, some (r ++ x))
  /-- The items of a list are read alike. -/
  items : ∀ {first cs ds cut r}, readItems f first cs = (ds, cut, some r) →
    readItems f' first (cs ++ x) = (ds, cut, some (r ++ x))
  /-- One item and those after it are read alike. -/
  item : ∀ {cs ds cut r}, readItem f cs = (ds, cut, some r) →
    readItem f' (cs ++ x) = (ds, cut, some (r ++ x))
  /-- The members of an object are read alike. -/
  members : ∀ {first cs ms cut r}, readMembers f first cs = (ms, cut, some r) →
    readMembers f' first (cs ++ x) = (ms, cut, some (r ++ x))
  /-- One member and those after it are read alike. -/
  member : ∀ {cs ms cut r}, readMember f cs = (ms, cut, some r) →
    readMember f' (cs ++ x) = (ms, cut, some (r ++ x))

/-- No value begins with a closing bracket. -/
theorem TakesValue.start_ne {f : Nat} {c : Char} {cs r : List Char} {d : Draft}
    (h : TakesValue f (c :: cs) d r) : c ≠ ']' := by
  cases h with
  | number number => rintro rfl; exact absurd number (by decide)
  | _ => decide

/-- One more unit of fuel on both sides. -/
theorem Extends.succ {f f' : Nat} (ends : EndsNumber x) (ext : Extends x f f') :
    Extends x (f + 1) (f' + 1) where
  value {cs d r} h := by
    have takes := readValue_eq_some_iff.1 h
    refine readValue_eq_some_iff.2 ?_
    generalize start : dropSpace cs = ds at takes
    cases takes with
    | null word => rw [dropSpace_append start]; exact .null (readWord_append word x)
    | true word => rw [dropSpace_append start]; exact .true (readWord_append word x)
    | false word => rw [dropSpace_append start]; exact .false (readWord_append word x)
    | string read => rw [dropSpace_append start]; exact .string (readLabel_append read x)
    | array read => rw [dropSpace_append start]; exact .array (ext.items read)
    | object read => rw [dropSpace_append start]; exact .object (ext.members read)
    | number number read =>
      rw [dropSpace_append start]
      exact .number number (readNumber_append ends read)
  items {first cs ds cut r} h := by
    have takes := readItems_eq_some_iff.1 h
    refine readItems_eq_some_iff.2 ?_
    generalize start : dropSpace cs = ds at takes
    cases takes with
    | close => rw [dropSpace_append start]; exact .close
    | first notClose read => rw [dropSpace_append start]; exact .first notClose (ext.item read)
    | next inner notClose read =>
      rw [dropSpace_append start]
      exact .next (dropSpace_append inner x) notClose (ext.item read)
  item {cs ds cut r} h := by
    obtain ⟨d, rest, ds, read, more, rfl⟩ := readItem_eq_some_iff.1 h
    exact readItem_eq_some_iff.2 ⟨d, rest ++ x, ds, ext.value read, ext.items more, rfl⟩
  members {first cs ms cut r} h := by
    have takes := readMembers_eq_some_iff.1 h
    refine readMembers_eq_some_iff.2 ?_
    generalize start : dropSpace cs = ds at takes
    cases takes with
    | close => rw [dropSpace_append start]; exact .close
    | first notClose read => rw [dropSpace_append start]; exact .first notClose (ext.member read)
    | next inner read =>
      rw [dropSpace_append start]
      exact .next (dropSpace_append inner x) (ext.member read)
  member {cs ms cut r} h := by
    obtain ⟨cs', label, rest, value, d, rest', ms, rfl, name, colon, read, more, rfl⟩ :=
      readMember_eq_some_iff.1 h
    exact readMember_eq_some_iff.2 ⟨cs' ++ x, label, rest ++ x, value ++ x, d, rest' ++ x, ms, rfl,
      readLabel_append name x, dropSpace_append colon x, ext.value read, ext.members more, rfl⟩

/-- What is read is read with more fuel too, whatever follows. -/
theorem extends_of_le (ends : EndsNumber x) {f f' : Nat} (le : f ≤ f') : Extends x f f' := by
  induction f generalizing f' with
  | zero =>
    constructor
    all_goals
      intros
      rename_i h
      cases h
  | succ f ih =>
    cases f' with
    | zero => exact absurd le (Nat.not_succ_le_zero f)
    | succ f' => exact (ih (Nat.le_of_succ_le_succ le)).succ ends

/-! ## Freedom from faults -/

/-- What is read with some fuel and leaves a rest is whole. -/
structure ReadsWhole (f : Nat) : Prop where
  /-- A value is whole. -/
  value : ∀ {cs d r}, readValue f cs = (d, some r) → d.Whole
  /-- The items of a list are whole. -/
  items : ∀ {first cs ds cut r}, readItems f first cs = (ds, cut, some r) →
    Draft.WholeItems ds ∧ cut = none
  /-- One item and those after it are whole. -/
  item : ∀ {cs ds cut r}, readItem f cs = (ds, cut, some r) → Draft.WholeItems ds ∧ cut = none
  /-- The members of an object are whole. -/
  members : ∀ {first cs ms cut r}, readMembers f first cs = (ms, cut, some r) →
    Draft.WholeMembers ms ∧ cut = none
  /-- One member and those after it are whole. -/
  member : ∀ {cs ms cut r}, readMember f cs = (ms, cut, some r) →
    Draft.WholeMembers ms ∧ cut = none

theorem readsWhole (f : Nat) : ReadsWhole f := by
  induction f with
  | zero =>
    constructor
    all_goals
      intros
      rename_i h
      cases h
  | succ f ih =>
    constructor
    case value =>
      intro cs d r h
      have takes := readValue_eq_some_iff.1 h
      generalize dropSpace cs = start at takes
      cases takes with
      | string read => exact readLabel_passing read
      | array read => exact ih.items read
      | object read => exact ih.members read
      | number _ read => exact readNumber_whole read
      | _ => trivial
    case items =>
      intro first cs ds cut r h
      have takes := readItems_eq_some_iff.1 h
      generalize dropSpace cs = start at takes
      cases takes with
      | close => exact ⟨trivial, rfl⟩
      | first _ read => exact ih.item read
      | next _ _ read => exact ih.item read
    case item =>
      intro cs ds cut r h
      obtain ⟨d, rest, ds, read, more, rfl⟩ := readItem_eq_some_iff.1 h
      obtain ⟨whole, cut⟩ := ih.items more
      exact ⟨⟨ih.value read, whole⟩, cut⟩
    case members =>
      intro first cs ms cut r h
      have takes := readMembers_eq_some_iff.1 h
      generalize dropSpace cs = start at takes
      cases takes with
      | close => exact ⟨trivial, rfl⟩
      | first _ read => exact ih.member read
      | next _ read => exact ih.member read
    case member =>
      intro cs ms cut r h
      obtain ⟨cs', label, rest, value, d, rest', ms, rfl, name, -, read, more, rfl⟩ :=
        readMember_eq_some_iff.1 h
      obtain ⟨whole, cut⟩ := ih.members more
      exact ⟨⟨readLabel_passing name, ih.value read, whole⟩, cut⟩

/-! ## One value and nothing else -/

/-- A list or an object whose reading leaves no rest is cut short. -/
structure CutsWithoutRest (f : Nat) : Prop where
  /-- The items of a list are cut. -/
  items : ∀ {first cs ds cut}, readItems f first cs = (ds, cut, none) → cut ≠ none
  /-- One item and those after it are cut. -/
  item : ∀ {cs ds cut}, readItem f cs = (ds, cut, none) → cut ≠ none
  /-- The members of an object are cut. -/
  members : ∀ {first cs ms cut}, readMembers f first cs = (ms, cut, none) → cut ≠ none
  /-- One member and those after it are cut. -/
  member : ∀ {cs ms cut}, readMember f cs = (ms, cut, none) → cut ≠ none

theorem cutsWithoutRest (f : Nat) : CutsWithoutRest f := by
  induction f with
  | zero => constructor <;> (intros; rename_i h; cases h; simp)
  | succ f ih =>
    constructor
    case items =>
      intro first cs ds cut h
      rw [readItems] at h
      split at h
      · cases h; simp
      · cases h
      · split at h
        · exact ih.item h
        · split at h
          · split at h
            · cases h; simp
            · cases h; simp
            · exact ih.item h
          · cases h; simp
    case item =>
      intro cs ds cut h
      rw [readItem] at h
      split at h
      · cases h; simp
      · obtain ⟨ds, more, -⟩ := Parts.cons_eq_iff.1 h
        exact ih.items more
    case members =>
      intro first cs ms cut h
      rw [readMembers] at h
      split at h
      · cases h; simp
      · cases h
      · split at h
        · exact ih.member h
        · split at h
          · split at h
            · cases h; simp
            · exact ih.member h
          · cases h; simp
    case member =>
      intro cs ms cut h
      unfold readMember at h
      split at h
      · split at h
        · cases h; simp
        · split at h
          · cases h; simp
          · split at h
            · cases h; simp
            · obtain ⟨ms, more, -⟩ := Parts.cons_eq_iff.1 h
              exact ih.members more
          · cases h; simp
      · cases h; simp

/-- What is read without a rest cannot be walked past. -/
theorem pass_readValue_ne_ok {f : Nat} {cs : List Char} {d : Draft}
    (h : readValue f cs = (d, none)) : d.pass ≠ .ok () := by
  cases f with
  | zero =>
    cases h
    exact pass_broken_ne_ok _
  | succ f =>
    rw [readValue] at h
    generalize dropSpace cs = start at h
    split at h
    · cases h
      exact pass_broken_ne_ok _
    · exact pass_wordDraft_ne_ok h
    · exact pass_wordDraft_ne_ok h
    · exact pass_wordDraft_ne_ok h
    · next cs =>
      cases read : readLabel cs with
      | mk label rest =>
        simp only [read, Prod.mk.injEq] at h
        obtain ⟨rfl, h⟩ := h
        exact pass_readLabel_ne_ok read h
    · next cs =>
      cases parts : readItems f true cs with
      | mk items tail =>
        obtain ⟨cut, rest⟩ := tail
        simp only [parts, Prod.mk.injEq] at h
        obtain ⟨rfl, rfl⟩ := h
        intro pass
        obtain ⟨-, -, uncut⟩ := bind_eq_ok.1 pass
        exact (cutsWithoutRest f).items parts (raise_eq_ok.1 uncut)
    · next cs =>
      cases parts : readMembers f true cs with
      | mk members tail =>
        obtain ⟨cut, rest⟩ := tail
        simp only [parts, Prod.mk.injEq] at h
        obtain ⟨rfl, rfl⟩ := h
        intro pass
        obtain ⟨-, -, uncut⟩ := bind_eq_ok.1 pass
        exact (cutsWithoutRest f).members parts (raise_eq_ok.1 uncut)
    · split at h
      · exact pass_readNumber_ne_ok h
      · cases h
        exact pass_broken_ne_ok _

/-- Whether a text is one value and nothing else. -/
def IsValueText (t : String) : Prop :=
  (Draft.ofText t).1.pass = .ok () ∧ (Draft.ofText t).2 = false

/-- The reading of a text that is one value leaves blanks only. -/
theorem IsValueText.readValue {t : String} (one : IsValueText t) :
    ∃ rest, readValue (3 * t.toList.length + 3) t.toList = ((Draft.ofText t).1, some rest) ∧
      dropSpace rest = [] := by
  obtain ⟨pass, alone⟩ := one
  cases read : Json.readValue (3 * t.toList.length + 3) t.toList with
  | mk d rest =>
    cases rest with
    | none =>
      simp only [Draft.ofText, read] at pass
      exact absurd pass (pass_readValue_ne_ok read)
    | some rest =>
      simp only [Draft.ofText, read, Bool.not_eq_false'] at alone
      simp only [Draft.ofText, read]
      exact ⟨rest, rfl, List.isEmpty_iff.1 alone⟩

/-- A text that is one value has a whole draft. -/
theorem IsValueText.whole {t : String} (one : IsValueText t) : (Draft.ofText t).1.Whole := by
  obtain ⟨rest, read, -⟩ := one.readValue
  exact (readsWhole _).value read

theorem readValue_dropSpace (f : Nat) (cs : List Char) :
    readValue f (dropSpace cs) = readValue f cs := by
  cases f with
  | zero => rfl
  | succ f => rw [readValue, readValue, dropSpace_dropSpace]

/-- A text that is one value is, between brackets, the list of that value. -/
theorem Draft.ofText_brackets {t : String} (one : IsValueText t) :
    Draft.ofText ("[" ++ t ++ "]") = (.array [(Draft.ofText t).1] none .malformed, false) := by
  obtain ⟨rest, read, blank⟩ := one.readValue
  generalize (Draft.ofText t).1 = d at read ⊢
  have text : ("[" ++ t ++ "]").toList = '[' :: (t.toList ++ [']']) := by simp
  generalize t.toList = cs at read text
  have ends : EndsNumber [']'] := by
    intro c head
    cases head
    decide
  have takes := readValue_eq_some_iff.1 read
  generalize start : dropSpace cs = ds at takes
  obtain ⟨c, ds, rfl⟩ : ∃ c ds', ds = c :: ds' := by cases takes <;> exact ⟨_, _, rfl⟩
  have inner : readValue (3 * cs.length + 6) (c :: (ds ++ [']'])) = (d, some (rest ++ [']'])) := by
    rw [← readValue_dropSpace, start] at read
    exact (extends_of_le ends (by omega)).value read
  have close : readItems (3 * cs.length + 6) false (rest ++ [']']) = ([], none, some []) := by
    refine readItems_eq_some_iff.2 ?_
    rw [dropSpace, List.dropWhile_append, ← dropSpace, blank]
    exact .close
  have items : readItems (3 * cs.length + 8) true (cs ++ [']']) = ([d], none, some []) := by
    refine readItems_eq_some_iff.2 ?_
    rw [dropSpace_append start]
    exact .first takes.start_ne (readItem_eq_some_iff.2 ⟨d, _, [], inner, close, rfl⟩)
  have list : readValue (3 * (cs.length + 2) + 3) ('[' :: (cs ++ [']'])) =
      (.array [d] none .malformed, some []) := readValue_eq_some_iff.2 (.array items)
  have length : ('[' :: (cs ++ [']'])).length = cs.length + 2 := by simp
  simp only [Draft.ofText, text, length, list]
  rfl

end KnowledgeGraph.Json
