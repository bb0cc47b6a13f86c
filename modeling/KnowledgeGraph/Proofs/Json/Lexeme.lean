import Mathlib.Data.List.DropRight
import KnowledgeGraph.Json.Reader
import KnowledgeGraph.Proofs.Json.Draft

/-!
# What a lexeme takes

A reader that comes to the end of a lexeme does not look further.  So a lexeme is read alike
whatever stands behind it, and what stands behind it comes after the rest (`readPieces_append`,
`readWord_append`).  Only a number goes on as long as it can, so it must be ended by a character
that no number goes on with (`EndsNumber`, `readNumber_append`).

A lexeme that leaves a rest has a whole draft (`readNumber_whole`), and one that leaves none cannot
be walked past (`pass_readNumber_ne_ok`).
-/

namespace KnowledgeGraph.Json

/-! ## Blanks, words and texts -/

theorem dropSpace_dropSpace (cs : List Char) : dropSpace (dropSpace cs) = dropSpace cs :=
  List.dropWhile_idempotent isSpace cs

theorem dropSpace_append {cs ds : List Char} {c : Char} (h : dropSpace cs = c :: ds)
    (x : List Char) : dropSpace (cs ++ x) = c :: (ds ++ x) := by
  rw [dropSpace, List.dropWhile_append, ← dropSpace, h]
  rfl

/-- A text in quotes that ends does so whatever follows. -/
theorem readPieces_append {cs r : List Char} {ps : List Piece} (h : readPieces cs = (ps, .ok r))
    (x : List Char) : readPieces (cs ++ x) = (ps, .ok (r ++ x)) := by
  fun_induction readPieces cs generalizing ps r with
  | case2 cs =>
    cases h
    rfl
  | case4 a b c d cs u unit ps' rest read ih =>
    cases h
    simp [readPieces, unit, ih read]
  | case7 c cs _ notUnit e short ps' rest read ih =>
    cases h
    have unit : ∀ a b d f ds, c = 'u' → cs ++ x = a :: b :: d :: f :: ds → False :=
      fun _ _ _ _ _ eq _ => notUnit eq
    rw [List.cons_append, List.cons_append, readPieces]
    · simp [short, ih read]
    · exact unit
    · exact notUnit
  | case10 c cs notQuote _ _ _ notEscape printable ps' rest read ih =>
    cases h
    have plain : c ≠ '\\' := by
      rintro rfl
      cases cs with
      | nil => cases read
      | cons d ds => exact notEscape d ds rfl rfl
    simp [readPieces, plain, printable, ih read]
  | _ => cases h

theorem readWord_append {es cs r : List Char} (h : readWord es cs = .ok r) (x : List Char) :
    readWord es (cs ++ x) = .ok (r ++ x) := by
  induction es generalizing cs with
  | nil =>
    cases h
    rfl
  | cons e es ih =>
    cases cs with
    | nil => cases h
    | cons c cs =>
      rw [readWord] at h
      rw [List.cons_append, readWord]
      split at h
      · next same => rw [if_pos same, ih h]
      · cases h

theorem readLabel_append {cs r : List Char} {label : Label} (h : readLabel cs = (label, .ok r))
    (x : List Char) : readLabel (cs ++ x) = (label, .ok (r ++ x)) := by
  rw [readLabel] at h ⊢
  obtain ⟨eq, rest⟩ := Prod.mk.inj h
  have read : readPieces cs = ((readPieces cs).1, .ok r) := Prod.ext rfl rest
  rw [readPieces_append read x, ← eq]
  simp only [rest]
  rfl

/-! ## Numbers -/

variable {x : List Char}

theorem spanDigits_append (ends : ∀ c ∈ x.head?, c.isDigit = false) (cs : List Char) :
    spanDigits (cs ++ x) = ((spanDigits cs).1, (spanDigits cs).2 ++ x) := by
  induction cs with
  | nil =>
    cases x with
    | nil => rfl
    | cons c x => simp [spanDigits, ends c rfl]
  | cons c cs ih =>
    simp only [spanDigits, Prod.mk.injEq] at ih
    cases digit : c.isDigit <;> simp [spanDigits, digit, ih]

/-- What ends a number: a character that no number goes on with. -/
def EndsNumber (x : List Char) : Prop :=
  ∀ c ∈ x.head?, c.isDigit = false ∧ c ∉ ['.', 'e', 'E', '+', '-']

theorem EndsNumber.digits (ends : EndsNumber x) : ∀ c ∈ x.head?, c.isDigit = false :=
  fun c head => (ends c head).1

/-- The digits of an exponent. -/
def exponentDigits (n : Numeral) (negative : Bool) (cs : List Char) :
    Except Fault (Numeral × List Char) :=
  match spanDigits cs with
  | ([], rest) => cutNumber rest
  | (ds, rest) => .ok ({ n with exponent := some (negative, ds) }, rest)

/-- The sign and the digits of an exponent. -/
def signedExponent (n : Numeral) (cs : List Char) : Except Fault (Numeral × List Char) :=
  match cs with
  | '+' :: cs => exponentDigits n false cs
  | '-' :: cs => exponentDigits n true cs
  | cs => exponentDigits n false cs

theorem exponentDigits_append (ends : EndsNumber x) {n m : Numeral} {negative : Bool}
    {cs r : List Char} (h : exponentDigits n negative cs = .ok (m, r)) :
    exponentDigits n negative (cs ++ x) = .ok (m, r ++ x) := by
  rw [exponentDigits] at h ⊢
  rw [spanDigits_append ends.digits]
  generalize spanDigits cs = split at h ⊢
  obtain ⟨ds, rest⟩ := split
  cases ds with
  | nil => cases h
  | cons d ds =>
    cases h
    rfl

theorem signedExponent_cons (n : Numeral) (c : Char) (cs : List Char) :
    signedExponent n (c :: cs) = if c = '+' then exponentDigits n false cs
      else if c = '-' then exponentDigits n true cs else exponentDigits n false (c :: cs) := by
  by_cases plus : c = '+'
  · subst plus; rfl
  · by_cases minus : c = '-'
    · subst minus; rfl
    · simp [signedExponent, plus, minus]

theorem readExponent_cons (n : Numeral) (c : Char) (cs : List Char) :
    readExponent n (c :: cs) = if c = 'e' ∨ c = 'E' then signedExponent n cs
      else .ok (n, c :: cs) := by
  by_cases small : c = 'e'
  · subst small; rfl
  · by_cases capital : c = 'E'
    · subst capital; rfl
    · simp [readExponent, small, capital]

theorem readFraction_cons (n : Numeral) (c : Char) (cs : List Char) :
    readFraction n (c :: cs) = if c = '.' then
        match spanDigits cs with
        | ([], rest) => cutNumber rest
        | (ds, rest) => readExponent { n with fraction := some ds } rest
      else readExponent n (c :: cs) := by
  by_cases point : c = '.'
  · subst point; rfl
  · simp [readFraction, point]

theorem signedExponent_append (ends : EndsNumber x) {n m : Numeral} {cs r : List Char}
    (h : signedExponent n cs = .ok (m, r)) : signedExponent n (cs ++ x) = .ok (m, r ++ x) := by
  cases cs with
  | nil => cases h
  | cons c cs =>
    rw [signedExponent_cons] at h
    rw [List.cons_append, signedExponent_cons]
    split at h
    · next plus => rw [if_pos plus, exponentDigits_append ends h]
    · next plus =>
      rw [if_neg plus]
      split at h
      · next minus => rw [if_pos minus, exponentDigits_append ends h]
      · next minus => rw [if_neg minus, ← List.cons_append, exponentDigits_append ends h]

theorem readExponent_append (ends : EndsNumber x) {n m : Numeral} {cs r : List Char}
    (h : readExponent n cs = .ok (m, r)) : readExponent n (cs ++ x) = .ok (m, r ++ x) := by
  cases cs with
  | nil =>
    cases h
    cases x with
    | nil => rfl
    | cons c x =>
      have other := (ends c rfl).2
      simp only [List.mem_cons, not_or] at other
      rw [List.nil_append, readExponent_cons, if_neg (by simp [other])]
  | cons c cs =>
    rw [readExponent_cons] at h
    rw [List.cons_append, readExponent_cons]
    split at h
    · next exponent => rw [if_pos exponent, signedExponent_append ends h]
    · next exponent =>
      cases h
      rw [if_neg exponent]
      rfl

theorem readFraction_append (ends : EndsNumber x) {n m : Numeral} {cs r : List Char}
    (h : readFraction n cs = .ok (m, r)) : readFraction n (cs ++ x) = .ok (m, r ++ x) := by
  cases cs with
  | nil =>
    cases h
    cases x with
    | nil => rfl
    | cons c x =>
      have other := (ends c rfl).2
      simp only [List.mem_cons, not_or] at other
      rw [List.nil_append, readFraction_cons, if_neg other.1, readExponent_cons,
        if_neg (by simp [other])]
  | cons c cs =>
    rw [readFraction_cons] at h
    rw [List.cons_append, readFraction_cons]
    split at h
    · next point =>
      rw [if_pos point, spanDigits_append ends.digits]
      generalize spanDigits cs = split at h ⊢
      obtain ⟨ds, rest⟩ := split
      cases ds with
      | nil => cases h
      | cons d ds => exact readExponent_append ends h
    · next point => rw [if_neg point, ← List.cons_append, readExponent_append ends h]

theorem readNumeral_append (ends : EndsNumber x) {n : Numeral} {negative : Bool}
    {cs r : List Char} (h : readNumeral negative cs = .ok (n, r)) :
    readNumeral negative (cs ++ x) = .ok (n, r ++ x) := by
  rw [readNumeral] at h ⊢
  rw [spanDigits_append ends.digits]
  generalize spanDigits cs = split at h ⊢
  obtain ⟨ds, rest⟩ := split
  cases ds with
  | nil => cases h
  | cons d ds =>
    cases d with
    | succ d => exact readFraction_append ends h
    | zero =>
      cases ds with
      | nil => exact readFraction_append ends h
      | cons => cases h

/-- The draft of a number, and the rest after it. -/
def numberDraft : Except Fault (Numeral × List Char) → Draft × Option (List Char)
  | .ok (n, rest) => (.number n.value none, some rest)
  | .error f => (.number (.error f) (some .malformed), none)

theorem readNumber_cons (c : Char) (cs : List Char) : readNumber (c :: cs) =
    numberDraft (if c = '-' then readNumeral true cs else readNumeral false (c :: cs)) := by
  by_cases minus : c = '-'
  · subst minus
    rfl
  · simp [readNumber, minus]
    rfl

theorem numberDraft_eq_some_iff {read : Except Fault (Numeral × List Char)} {d : Draft}
    {r : List Char} :
    numberDraft read = (d, some r) ↔ ∃ n, read = .ok (n, r) ∧ d = .number n.value none := by
  cases read with
  | error f => simp [numberDraft]
  | ok p =>
    obtain ⟨n, rest⟩ := p
    simp only [numberDraft, Prod.mk.injEq, Option.some.injEq, Except.ok.injEq]
    constructor
    · rintro ⟨rfl, rfl⟩
      exact ⟨n, ⟨rfl, rfl⟩, rfl⟩
    · rintro ⟨m, ⟨rfl, rfl⟩, rfl⟩
      exact ⟨rfl, rfl⟩

theorem readNumber_append (ends : EndsNumber x) {d : Draft} {c : Char} {cs r : List Char}
    (h : readNumber (c :: cs) = (d, some r)) :
    readNumber (c :: (cs ++ x)) = (d, some (r ++ x)) := by
  rw [readNumber_cons] at h ⊢
  obtain ⟨n, read, rfl⟩ := numberDraft_eq_some_iff.1 h
  refine numberDraft_eq_some_iff.2 ⟨n, ?_, rfl⟩
  split at read
  · next minus => rw [if_pos minus, readNumeral_append ends read]
  · next minus => rw [if_neg minus, ← List.cons_append, readNumeral_append ends read]

/-! ## Lexemes as drafts -/

theorem wordDraft_eq_some_iff {d e : Draft} {rest : Rest} {r : List Char} :
    wordDraft d rest = (e, some r) ↔ rest = .ok r ∧ d = e := by
  cases rest <;> simp [wordDraft, and_comm]

theorem readLabel_passing {cs r : List Char} {label : Label} (h : readLabel cs = (label, .ok r)) :
    label.passing = none := by
  rw [readLabel] at h
  obtain ⟨rfl, rest⟩ := Prod.mk.inj h
  rw [rest]
  rfl

/-- The value of a number is a number. -/
theorem Numeral.isSome_number?_of_value {n : Numeral} {j : Json} (h : n.value = .ok j) :
    j.number?.isSome := by
  unfold Numeral.value at h
  dsimp only at h
  split at h
  · cases h
    unfold wholeValue
    split
    · rfl
    · split <;> rfl
  · obtain ⟨x, -, value⟩ := bind_eq_ok.1 h
    cases value
    rfl

theorem readNumber_whole {cs r : List Char} {c : Char} {d : Draft}
    (h : readNumber (c :: cs) = (d, some r)) : d.Whole := by
  rw [readNumber_cons] at h
  obtain ⟨n, -, rfl⟩ := numberDraft_eq_some_iff.1 h
  exact ⟨fun j value => Numeral.isSome_number?_of_value value, rfl⟩

theorem pass_broken_ne_ok (f : Fault) : (Draft.broken f).pass ≠ .ok () := by
  intro pass
  cases pass

theorem pass_wordDraft_ne_ok {d e : Draft} {rest : Rest} (h : wordDraft d rest = (e, none)) :
    e.pass ≠ .ok () := by
  cases rest with
  | ok cs => cases h
  | error f =>
    cases h
    exact pass_broken_ne_ok f

theorem pass_readLabel_ne_ok {cs : List Char} {label : Label} {rest : Rest}
    (read : readLabel cs = (label, rest)) (h : rest.toOption = none) :
    (Draft.string label.name label.passing).pass ≠ .ok () := by
  rw [readLabel] at read
  obtain ⟨rfl, rfl⟩ := Prod.mk.inj read
  intro pass
  have passing : (readPieces cs).2.fault? = none := raise_eq_ok.1 pass
  generalize (readPieces cs).2 = rest at h passing
  cases rest with
  | ok cs => cases h
  | error f => cases passing

theorem pass_readNumber_ne_ok {c : Char} {cs : List Char} {d : Draft}
    (h : readNumber (c :: cs) = (d, none)) : d.pass ≠ .ok () := by
  rw [readNumber_cons] at h
  generalize (if c = '-' then readNumeral true cs else readNumeral false (c :: cs)) = read at h
  cases read with
  | ok p => cases h
  | error f =>
    cases h
    intro pass
    cases pass

end KnowledgeGraph.Json
