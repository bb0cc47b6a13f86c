import KnowledgeGraph.Keyword.FromText
import KnowledgeGraph.Proofs.Character.Letters
import KnowledgeGraph.Proofs.Text.Pattern
import KnowledgeGraph.Proofs.Text.Words

/-!
# Scans for quoted spans and names

Quoted spans and names are what two patterns find in a text (`quotePattern`, `namePattern`).  The
scans look at every character once and never go back.  They find the same, because what comes after
a repetition in these patterns matches nowhere within the repeated run.

The scan for quoted spans is between spans or within one, and what it has collected since the
opening quote is what the pattern goes over (`quotedSpans_foundAfter`).  The scan for names has the
words of a name so far, and adds those that the pattern goes over from there (`isDecided`).  Every
segment of a text is one step of the scan and of the search (`findsNames`).
-/

namespace KnowledgeGraph.Keyword

open Character (isWord isBlank)
open Text (Pattern Place beginsWord words)
open Text.Pattern

/-! ## Characters -/

variable {c : Char} {cs before rest : List Char}

/-- An ASCII letter or digit belongs to a word. -/
theorem isWord_of_isAlphanum (h : c.isAlphanum = true) : isWord c = true := by
  have small : c.toNat < 123 := by
    have classes : ((decide (65 ≤ c.val ∧ c.val ≤ 90) || decide (97 ≤ c.val) &&
        decide (c.val ≤ 122)) || decide (48 ≤ c.val) && decide (c.val ≤ 57)) = true := h
    simp only [Bool.or_eq_true, Bool.and_eq_true, decide_eq_true_eq,
      UInt32.le_iff_toNat_le, UInt32.reduceToNat] at classes
    rw [Char.toNat]
    omega
  have table : ∀ n < 123, (Char.ofNat n).isAlphanum = true → isWord (Char.ofNat n) = true := by
    decide +kernel
  have own := table c.toNat small
  rw [Char.ofNat_toNat] at own
  exact own h

/-- A blank is no letter and no digit, and belongs to no word. -/
theorem classes_of_isBlank (h : isBlank c = true) : c.isAlphanum = false ∧ isWord c = false := by
  have table : ∀ n ∈ Text.blankCodes,
      (Char.ofNat n).isAlphanum = false ∧ isWord (Char.ofNat n) = false := by decide +kernel
  have own := table _ (Text.toNat_mem_blankCodes h)
  rwa [Char.ofNat_toNat] at own

theorem not_isBlank_of_isAlphanum (h : c.isAlphanum = true) : isBlank c = false := by
  by_contra blank
  rw [(classes_of_isBlank (by simpa using blank)).1] at h
  cases h

theorem isAlphanum_of_isUpper (h : c.isUpper = true) : c.isAlphanum = true := by
  show (c.isUpper || c.isLower || c.isDigit) = true
  rw [h]
  rfl

theorem not_isUpper_of_not_isAlphanum (h : c.isAlphanum = false) : c.isUpper = false := by
  by_contra upper
  rw [isAlphanum_of_isUpper (by simpa using upper)] at h
  cases h

/-- The last character of some decides if a word goes on behind them. -/
theorem exists_beginsWord (filled : cs ≠ []) (before : List Char) :
    ∃ c ∈ cs, beginsWord (cs.reverse ++ before) = isWord c := by
  obtain ⟨c, others, eq⟩ := List.exists_cons_of_ne_nil (List.reverse_ne_nil_iff.2 filled)
  refine ⟨c, List.mem_reverse.1 (by simp [eq]), ?_⟩
  rw [eq]
  rfl

/-- Behind letters and digits, a word goes on. -/
theorem beginsWord_alphanum (filled : cs ≠ []) (all : ∀ c ∈ cs, c.isAlphanum = true)
    (before : List Char) : beginsWord (cs.reverse ++ before) = true := by
  obtain ⟨c, hc, eq⟩ := exists_beginsWord filled before
  rw [eq, isWord_of_isAlphanum (all c hc)]

/-! ## Quoted spans -/

/-- A quote, 2 to 60 characters that are no quotes, and a quote. -/
def quotePattern : Pattern :=
  .next (.one isQuote) (.next (.times 2 (some 60) (.one (!isQuote ·))) (.one isQuote))

/-- What stands between the first and the last character of a match. -/
def inside (m : List Char) : List Char := (m.drop 1).dropLast

theorem inside_quoted (q q' : Char) (span : List Char) : inside (q :: (span ++ [q'])) = span := by
  simp [inside]

/-- No quoted span begins but at a quote. -/
theorem ends_quotePattern_of_other (other : isQuote c = false) :
    quotePattern.ends ⟨before, c :: cs⟩ = [] := by
  rw [quotePattern, ends, ends_one_of_stop (by simpa using other), List.flatMap_nil]

/-- From a quote, a span goes on to the next one. -/
theorem ends_quotePattern {q : Char} {span : List Char} (opens : isQuote q = true)
    (is : IsRun (!isQuote ·) span rest) :
    quotePattern.ends ⟨before, q :: (span ++ rest)⟩ =
      if 2 ≤ span.length ∧ span.length ≤ 60 then
        (one isQuote).ends ⟨span.reverse ++ q :: before, rest⟩
      else [] := by
  have fails : Within span rest (q :: before) fun here => (one isQuote).ends here = [] := by
    rintro xs y ys rfl
    have other : isQuote y = false := by simpa using is.all y (by simp)
    exact ends_one_of_stop (by simpa using other)
  rw [quotePattern, ends, ends_one_of_pass opens, List.flatMap_singleton, ends,
    flatMap_ends_run (by simp) is fails]
  simp

/-- Where no span begins at a quote, none begins before the next one. -/
theorem foundAfter_unquoted {q : Char} {span : List Char} (plain : ∀ c ∈ span, isQuote c = false)
    (none : quotePattern.ends ⟨before, q :: (span ++ rest)⟩ = []) :
    quotePattern.foundAfter 0 before (q :: (span ++ rest)) =
      quotePattern.foundAfter 0 (span.reverse ++ q :: before) rest := by
  have nowhere : Within (q :: span) rest before fun here => quotePattern.ends here = [] := by
    intro xs y ys eq
    cases xs with
    | nil =>
      obtain ⟨rfl, rfl⟩ := List.cons.inj eq
      exact none
    | cons x xs =>
      obtain ⟨rfl, rfl⟩ := List.cons.inj eq
      exact ends_quotePattern_of_other (plain y (by simp))
  have passed := foundAfter_none nowhere
  rwa [List.reverse_cons, List.append_assoc] at passed

/-- From a quote to the next one, there is a span if it is neither too short nor too long.  If there
is none, the second quote may open one. -/
theorem foundAfter_quoted {q q' : Char} {span : List Char} (opens : isQuote q = true)
    (plain : ∀ c ∈ span, isQuote c = false) (closes : isQuote q' = true) :
    quotePattern.foundAfter 0 before (q :: (span ++ q' :: rest)) =
      if 2 ≤ span.length ∧ span.length ≤ 60 then
        (q :: (span ++ [q'])) ::
          quotePattern.foundAfter 0 (q' :: (span.reverse ++ q :: before)) rest
      else quotePattern.foundAfter 0 (span.reverse ++ q :: before) (q' :: rest) := by
  have is : IsRun (!isQuote ·) span (q' :: rest) :=
    ⟨by simpa using plain, by simpa using closes⟩
  have ends : quotePattern.ends ⟨before, q :: (span ++ q' :: rest)⟩ = _ :=
    ends_quotePattern opens is
  split at ends
  · next fits =>
    have text : q :: (span ++ q' :: rest) = (q :: (span ++ [q'])) ++ rest := by simp
    have first : (quotePattern.ends ⟨before, (q :: (span ++ [q'])) ++ rest⟩).head? =
        some ⟨(q :: (span ++ [q'])).reverse ++ before, rest⟩ := by
      rw [← text, ends, ends_one_of_pass closes]
      simp
    rw [if_pos fits, text, foundAfter_some (by simp) first]
    simp
  · next misfit => rw [if_neg misfit, foundAfter_unquoted plain ends]

/-- The scan finds what the pattern finds, between spans and within one. -/
theorem quotedSpans_foundAfter (cs : List Char) :
    (∀ before, quotedSpans none cs = (quotePattern.foundAfter 0 before cs).map inside) ∧
      ∀ before q span, isQuote q = true → (∀ c ∈ span, isQuote c = false) →
        quotedSpans (some span.reverse) cs =
          (quotePattern.foundAfter 0 before (q :: (span ++ cs))).map inside := by
  induction cs with
  | nil =>
    refine ⟨fun before => rfl, fun before q span opens plain => ?_⟩
    have is : IsRun (!isQuote ·) span [] := ⟨by simpa using plain, by simp⟩
    have unclosed : quotePattern.ends ⟨before, q :: (span ++ [])⟩ = [] := by
      rw [ends_quotePattern opens is, ends]
      exact ite_self []
    rw [foundAfter_unquoted plain unclosed]
    rfl
  | cons c cs ih =>
    obtain ⟨between, within⟩ := ih
    cases quote : isQuote c with
    | true =>
      constructor
      · intro before
        rw [quotedSpans, if_pos quote]
        exact within before c [] quote (by simp)
      · intro before q span opens plain
        rw [quotedSpans, if_pos quote, foundAfter_quoted opens plain quote]
        simp only [List.length_reverse, List.reverse_reverse]
        split
        · rw [List.map_cons, inside_quoted, ← between]
        · exact within _ c [] quote (by simp)
    | false =>
      constructor
      · intro before
        rw [quotedSpans, quote, foundAfter, ends_quotePattern_of_other quote]
        exact between (c :: before)
      · intro before q span opens plain
        have longer : ∀ d ∈ span ++ [c], isQuote d = false := by
          simpa [or_imp, forall_and, quote] using plain
        rw [quotedSpans, quote]
        simpa using within before q (span ++ [c]) opens longer

/-- The scan for quoted spans finds what stands between the quotes of the matches. -/
theorem quotedSpans_eq (cs : List Char) :
    quotedSpans none cs = (quotePattern.found cs).map inside :=
  (quotedSpans_foundAfter cs).1 []

/-! ## Names -/

/-- A capital letter and at least two more letters or digits. -/
def wordPattern : Pattern := .next (.one Char.isUpper) (.times 2 none (.one Char.isAlphanum))

/-- Blanks, and a capitalized word. -/
def furtherPattern : Pattern := .next (.times 1 none (.one isBlank)) wordPattern

/-- Capitalized words with nothing but blanks between them, and no other word character next to
them. -/
def namePattern : Pattern :=
  .next .edge (.next wordPattern (.next (.times 0 none furtherPattern) .edge))

theorem isCapitalized_cons (c : Char) (w : List Char) :
    isCapitalized (c :: w) = (c.isUpper && decide (2 ≤ w.length)) := by
  match w with
  | [] => simp [isCapitalized]
  | [d] => simp [isCapitalized]
  | d :: e :: w => simp [isCapitalized]

theorem ends_wordPattern_of_stop (stop : ∀ c ∈ rest.head?, c.isUpper = false) :
    wordPattern.ends ⟨before, rest⟩ = [] := by
  rw [wordPattern, ends, ends_one_of_stop stop, List.flatMap_nil]

variable {w gap : List Char} {k : Place → List Place}

/-- A capitalized word is a whole run of letters and digits, if what comes after it fails between
two of them. -/
theorem flatMap_ends_wordPattern (is : IsRun Char.isAlphanum w rest)
    (fails : ∀ before c cs, beginsWord before = true → c.isAlphanum = true →
      k ⟨before, c :: cs⟩ = []) :
    (wordPattern.ends ⟨before, w ++ rest⟩).flatMap k =
      if isCapitalized w then k ⟨w.reverse ++ before, rest⟩ else [] := by
  cases w with
  | nil =>
    rw [List.nil_append, ends_wordPattern_of_stop fun c head =>
      not_isUpper_of_not_isAlphanum (is.stop c head)]
    rfl
  | cons c w =>
    rw [isCapitalized_cons, List.cons_append]
    cases upper : c.isUpper with
    | false =>
      rw [ends_wordPattern_of_stop (by simpa using upper)]
      rfl
    | true =>
      have within : Within w rest (c :: before) fun here => k here = [] := by
        rintro xs y ys rfl
        have letters : ∀ d ∈ c :: xs, d.isAlphanum = true := fun d hd =>
          is.all d (List.mem_append_left _ hd)
        have begins := beginsWord_alphanum (by simp) letters before
        exact fails _ y _ (by simpa using begins) (is.tail.all y (by simp))
      rw [wordPattern, ends, ends_one_of_pass upper, List.flatMap_singleton,
        flatMap_ends_run (by simp) is.tail within]
      simp

/-- From a capitalized word on, a name goes on over further words, and ends at the edge of a
word. -/
def restOfName (n : Nat) (here : Place) : List Place :=
  (upTo furtherPattern.ends n here).flatMap edge.ends

theorem restOfName_zero (here : Place) : restOfName 0 here = edge.ends here :=
  List.flatMap_singleton _ _

theorem restOfName_succ (n : Nat) (here : Place) :
    restOfName (n + 1) here =
      (furtherPattern.ends here).flatMap (restOfName n) ++ edge.ends here := by
  rw [restOfName, upTo, List.flatMap_append, List.flatMap_assoc, List.flatMap_singleton]
  rfl

/-- Between two characters of a word, a name neither goes on nor ends. -/
theorem restOfName_within (n : Nat) (begins : beginsWord before = true)
    (goesOn : c.isAlphanum = true) : restOfName n ⟨before, c :: cs⟩ = [] := by
  have noEdge : edge.ends ⟨before, c :: cs⟩ = [] := by
    have word : beginsWord (c :: cs) = true := isWord_of_isAlphanum goesOn
    rw [ends, Place.isEdge, begins, word]
    rfl
  cases n with
  | zero => rw [restOfName_zero, noEdge]
  | succ n =>
    rw [restOfName_succ, noEdge, furtherPattern, ends, ends]
    simp [exactly, ends, not_isBlank_of_isAlphanum goesOn]

/-- Where a further word comes after blanks, a name may go on behind it. -/
theorem flatMap_ends_furtherPattern (blanks : IsRun isBlank gap (w ++ rest))
    (is : IsRun Char.isAlphanum w rest) (n : Nat) :
    (furtherPattern.ends ⟨before, gap ++ (w ++ rest)⟩).flatMap (restOfName n) =
      if gap ≠ [] ∧ isCapitalized w = true then
        restOfName n ⟨w.reverse ++ (gap.reverse ++ before), rest⟩
      else [] := by
  have fails : Within gap (w ++ rest) before fun here =>
      (wordPattern.ends here).flatMap (restOfName n) = [] := by
    rintro xs y ys rfl
    have lower : y.isUpper = false :=
      not_isUpper_of_not_isAlphanum (classes_of_isBlank (blanks.all y (by simp))).1
    rw [ends_wordPattern_of_stop (by simpa using lower), List.flatMap_nil]
  rw [furtherPattern, ends, List.flatMap_assoc, flatMap_ends_run (by simp) blanks fails,
    flatMap_ends_wordPattern is fun before c cs begins goesOn => restOfName_within n begins goesOn]
  have filled : 1 ≤ gap.length ↔ gap ≠ [] := List.length_pos_iff
  by_cases blank : gap = [] <;> simp [filled, blank]

/-! ### Segments -/

/-- A letter or digit goes on with a run, or begins one. -/
def pushRun (c : Char) : List Segment → List Segment
  | .run w :: segs => .run (c :: w) :: segs
  | segs => .run [c] :: segs

/-- A blank goes on with a run of blanks, or begins one. -/
def pushGap : List Segment → List Segment
  | .gap :: segs => .gap :: segs
  | segs => .gap :: segs

theorem segments_cons (c : Char) (cs : List Char) :
    segments (c :: cs) =
      if c.isAlphanum then pushRun c (segments cs)
      else if isBlank c then pushGap (segments cs)
      else .other c :: segments cs := rfl

theorem exists_pushRun (c : Char) (segs : List Segment) :
    ∃ w rest, pushRun c segs = .run w :: rest := by
  cases segs with
  | nil => exact ⟨_, _, rfl⟩
  | cons s segs => cases s <;> exact ⟨_, _, rfl⟩

theorem exists_pushGap (segs : List Segment) : ∃ rest, pushGap segs = .gap :: rest := by
  cases segs with
  | nil => exact ⟨_, rfl⟩
  | cons s segs => cases s <;> exact ⟨_, rfl⟩

/-- A letter or digit begins a run, if none follows. -/
theorem pushRun_segments (c : Char) (stop : ∀ d ∈ cs.head?, d.isAlphanum = false) :
    pushRun c (segments cs) = .run [c] :: segments cs := by
  cases cs with
  | nil => rfl
  | cons d cs =>
    rw [segments_cons, if_neg (by simp [stop d rfl])]
    split
    · obtain ⟨rest, eq⟩ := exists_pushGap (segments cs)
      rw [eq]
      rfl
    · rfl

/-- A blank begins a run of blanks, if none follows. -/
theorem pushGap_segments (stop : ∀ d ∈ cs.head?, isBlank d = false) :
    pushGap (segments cs) = .gap :: segments cs := by
  cases cs with
  | nil => rfl
  | cons d cs =>
    have solid : ¬ isBlank d = true := by simp [stop d rfl]
    rw [segments_cons, if_neg solid]
    split
    · obtain ⟨w, rest, eq⟩ := exists_pushRun d (segments cs)
      rw [eq]
      rfl
    · rfl

/-- A run of letters and digits is a segment. -/
theorem segments_run (filled : w ≠ []) (is : IsRun Char.isAlphanum w rest) :
    segments (w ++ rest) = .run w :: segments rest := by
  induction w with
  | nil => exact absurd rfl filled
  | cons c w ih =>
    rw [List.cons_append, segments_cons, if_pos (is.all c List.mem_cons_self)]
    cases w with
    | nil => exact pushRun_segments c is.stop
    | cons d w =>
      rw [ih (by simp) is.tail]
      rfl

/-- A run of blanks is a segment. -/
theorem segments_gap (filled : gap ≠ []) (is : IsRun isBlank gap rest) :
    segments (gap ++ rest) = .gap :: segments rest := by
  induction gap with
  | nil => exact absurd rfl filled
  | cons c gap ih =>
    have blank := is.all c List.mem_cons_self
    have other : ¬ c.isAlphanum = true := by simp [(classes_of_isBlank blank).1]
    rw [List.cons_append, segments_cons, if_neg other, if_pos blank]
    cases gap with
    | nil => exact pushGap_segments is.stop
    | cons d gap =>
      rw [ih (by simp) is.tail]
      rfl

theorem segments_other (other : c.isAlphanum = false) (solid : isBlank c = false)
    (cs : List Char) : segments (c :: cs) = .other c :: segments cs := by
  rw [segments_cons, other, solid]
  rfl

/-- A word may end before characters that go on no word. -/
theorem endsBefore_segments (stop : ∀ c ∈ cs.head?, c.isAlphanum = false) :
    endsBefore (segments cs) = !beginsWord cs := by
  cases cs with
  | nil => rfl
  | cons c cs =>
    cases blank : isBlank c with
    | true =>
      have noWord : beginsWord (c :: cs) = false := (classes_of_isBlank blank).2
      obtain ⟨rest, eq⟩ := exists_pushGap (segments cs)
      rw [segments_cons, if_neg (by simp [stop c rfl]), if_pos blank, noWord, eq]
      rfl
    | false =>
      rw [segments_other (stop c rfl) blank]
      rfl

theorem names_run (mayStart : Bool) (name : List (List Char)) (w : List Char)
    (segs : List Segment) :
    names mayStart name (.run w :: segs) =
      if mayStart && isCapitalized w && endsBefore segs then names false (w :: name) segs
      else finishName name ++ names false [] segs := rfl

theorem names_gap (mayStart : Bool) (name : List (List Char)) (segs : List Segment) :
    names mayStart name (.gap :: segs) = names true name segs := rfl

theorem names_other (mayStart : Bool) (name : List (List Char)) (c : Char)
    (segs : List Segment) :
    names mayStart name (.other c :: segs) = finishName name ++ names (!isWord c) [] segs := rfl

/-! ### The end of a name -/

/-- Where no word goes on a name, the name is finished first, and the scan begins anew. -/
def Refuses (mayStart : Bool) (segs : List Segment) : Prop :=
  ∀ name, names mayStart name segs = finishName name ++ names mayStart [] segs

theorem refuses_run {mayStart : Bool} {segs : List Segment}
    (refused : (mayStart && isCapitalized w && endsBefore segs) = false) :
    Refuses mayStart (.run w :: segs) := by
  intro name
  rw [names_run, names_run, refused]
  rfl

theorem refuses_gap {segs : List Segment} (h : Refuses true segs) (mayStart : Bool) :
    Refuses mayStart (.gap :: segs) := h

/-- Only letters, digits and blanks go on a name. -/
theorem refuses_segments (other : ∀ c ∈ cs.head?, c.isAlphanum = false)
    (solid : ∀ c ∈ cs.head?, isBlank c = false) (mayStart : Bool) :
    Refuses mayStart (segments cs) := by
  intro name
  cases cs with
  | nil => exact (List.append_nil _).symm
  | cons c cs =>
    rw [segments_other (other c rfl) (solid c rfl)]
    rw [names_other, names_other]
    rfl

/-- How far a name goes on.  It takes the next characters `taken`, which begin with a blank if there
are any, and their words are added to it. -/
structure GoesOn (n : Nat) (before cs taken rest : List Char) : Prop where
  /-- The characters stand before the rest. -/
  split : cs = taken ++ rest
  /-- The preferred match ends behind them. -/
  ends : (restOfName n ⟨before, cs⟩).head? = some ⟨taken.reverse ++ before, rest⟩
  /-- They begin with a blank. -/
  blank : ∀ c ∈ taken.head?, isBlank c = true
  /-- They end with a word. -/
  word : beginsWord (taken.reverse ++ before) = true
  /-- The scan adds their words to the name, and then begins anew. -/
  scan : ∀ name, name ≠ [] → names false name (segments cs) =
    (name.reverse ++ words taken) :: names false [] (segments rest)

/-- What becomes of a name from the end of one of its words on. -/
structure IsDecided (n : Nat) (before cs : List Char) : Prop where
  /-- If a word character follows, it does not end here and does not go on. -/
  fails : beginsWord cs = true → restOfName n ⟨before, cs⟩ = []
  /-- Otherwise it goes on, and be it over nothing. -/
  goesOn : beginsWord cs = false → ∃ taken rest, GoesOn n before cs taken rest

theorem words_nil : words [] = [] := rfl

/-- Where neither the pattern nor the scan finds a further word, the name ends if it may. -/
theorem isDecided_of_refuses {n : Nat} (begins : beginsWord before = true)
    (ends : restOfName n ⟨before, cs⟩ = edge.ends ⟨before, cs⟩)
    (refuses : Refuses false (segments cs)) : IsDecided n before cs where
  fails word := by
    rw [ends, Pattern.ends, Place.isEdge, begins, word]
    rfl
  goesOn free := by
    refine ⟨[], cs, rfl, ?_, by simp, begins, fun name filled => ?_⟩
    · rw [ends, Pattern.ends, Place.isEdge, begins, free]
      rfl
    · rw [refuses name, finishName, if_neg (by simpa using filled), words_nil, List.append_nil]
      rfl

/-- Blanks and a word, before what is empty or begins with a blank. -/
theorem words_further {taken : List Char} (blanks : ∀ c ∈ gap, isBlank c = true)
    (word : Text.IsWord w) (apart : ∀ c ∈ taken.head?, isBlank c = true) :
    words (gap ++ (w ++ taken)) = w :: words taken := by
  induction gap with
  | nil =>
    cases taken with
    | nil => rw [List.nil_append, List.append_nil, word.words_eq, words_nil]
    | cons c taken =>
      have blank := apart c rfl
      rw [List.nil_append, Text.words_append_cons blank, word.words_eq, Text.words_cons blank]
      rfl
  | cons c gap ih =>
    rw [List.cons_append, Text.words_cons (blanks c List.mem_cons_self)]
    exact ih fun d hd => blanks d (List.mem_cons_of_mem c hd)

/-- A capitalized run is a word. -/
theorem isWord_of_isCapitalized (is : IsRun Char.isAlphanum w rest) (h : isCapitalized w = true) :
    Text.IsWord w := by
  refine ⟨?_, fun c hc => not_isBlank_of_isAlphanum (is.all c hc)⟩
  rintro rfl
  cases h

/-- A name that goes on behind a further word goes on over that word. -/
theorem GoesOn.further {n : Nat} {taken last : List Char} (filled : gap ≠ [])
    (blanks : IsRun isBlank gap (w ++ rest)) (is : IsRun Char.isAlphanum w rest)
    (capital : isCapitalized w = true) (free : beginsWord rest = false)
    (h : GoesOn n (w.reverse ++ (gap.reverse ++ before)) rest taken last) :
    GoesOn (n + 1) before (gap ++ (w ++ rest)) (gap ++ (w ++ taken)) last where
  split := by simp [h.split]
  ends := by
    rw [restOfName_succ, flatMap_ends_furtherPattern blanks is, if_pos ⟨filled, capital⟩,
      List.head?_append, h.ends]
    simp
  blank c head := by
    obtain ⟨d, gap, rfl⟩ := List.exists_cons_of_ne_nil filled
    have first : c = d := by simpa using head.symm
    exact blanks.all c (by simp [first])
  word := by simpa using h.word
  scan name named := by
    have word := isWord_of_isCapitalized is capital
    have accepted : (true && isCapitalized w && endsBefore (segments rest)) = true := by
      rw [capital, endsBefore_segments is.stop, free]
      rfl
    rw [segments_gap filled blanks, segments_run word.filled is, names, names, if_pos accepted,
      h.scan (w :: name) (by simp), words_further blanks.all word h.blank]
    simp

/-- Where a further word follows, what becomes of the name is decided behind it.  If the name fails
there, it ends before the blanks. -/
theorem IsDecided.further {n : Nat} (begins : beginsWord before = true) (filled : gap ≠ [])
    (blanks : IsRun isBlank gap (w ++ rest)) (is : IsRun Char.isAlphanum w rest)
    (capital : isCapitalized w = true)
    (h : IsDecided n (w.reverse ++ (gap.reverse ++ before)) rest) :
    IsDecided (n + 1) before (gap ++ (w ++ rest)) := by
  have word := isWord_of_isCapitalized is capital
  cases free : beginsWord rest with
  | true =>
    refine isDecided_of_refuses begins ?_ ?_
    · rw [restOfName_succ, flatMap_ends_furtherPattern blanks is, h.fails free, ite_self,
        List.nil_append]
    · rw [segments_gap filled blanks, segments_run word.filled is]
      refine refuses_gap (refuses_run ?_) false
      rw [endsBefore_segments is.stop, free]
      simp
  | false =>
    obtain ⟨taken, last, goes⟩ := h.goesOn free
    refine ⟨fun goesOn => ?_, fun _ => ⟨_, last, goes.further filled blanks is capital free⟩⟩
    obtain ⟨c, gap, rfl⟩ := List.exists_cons_of_ne_nil filled
    have noWord : beginsWord (c :: gap ++ (w ++ rest)) = false :=
      (classes_of_isBlank (blanks.all c List.mem_cons_self)).2
    rw [noWord] at goesOn
    cases goesOn

/-- Where no further word follows, the scan refuses the name. -/
theorem refuses_of_not_further (stop : ∀ c ∈ (gap ++ (w ++ rest)).head?, c.isAlphanum = false)
    (blanks : IsRun isBlank gap (w ++ rest)) (is : IsRun Char.isAlphanum w rest)
    (none : ¬ (gap ≠ [] ∧ isCapitalized w = true)) :
    Refuses false (segments (gap ++ (w ++ rest))) := by
  by_cases filled : gap = []
  · subst filled
    exact refuses_segments stop blanks.stop false
  · rw [segments_gap filled blanks]
    refine refuses_gap ?_ false
    by_cases run : w = []
    · subst run
      exact refuses_segments is.stop blanks.stop true
    · have lower : isCapitalized w = false := by simpa [filled] using none
      rw [segments_run run is]
      exact refuses_run (by simp [lower])

/-- What becomes of a name is decided behind each of its words. -/
theorem isDecided (n : Nat) : ∀ {before cs : List Char}, cs.length ≤ n →
    beginsWord before = true → (∀ c ∈ cs.head?, c.isAlphanum = false) → IsDecided n before cs := by
  induction n with
  | zero =>
    intro before cs short begins stop
    obtain rfl := List.length_eq_zero_iff.1 (Nat.le_zero.1 short)
    exact isDecided_of_refuses begins (restOfName_zero _) (refuses_segments stop (by simp) false)
  | succ n ih =>
    intro before cs short begins stop
    obtain ⟨gap, after, rfl, blanks⟩ := exists_isRun isBlank cs
    obtain ⟨w, rest, rfl, is⟩ := exists_isRun Char.isAlphanum after
    by_cases further : gap ≠ [] ∧ isCapitalized w = true
    · have word := isWord_of_isCapitalized is further.2
      have shorter : rest.length ≤ n := by
        have := List.length_pos_iff.2 further.1
        simp only [List.length_append] at short
        omega
      exact .further begins further.1 blanks is further.2
        (ih shorter (beginsWord_alphanum word.filled is.all _) is.stop)
    · refine isDecided_of_refuses begins ?_ (refuses_of_not_further stop blanks is further)
      rw [restOfName_succ, flatMap_ends_furtherPattern blanks is, if_neg further, List.nil_append]

/-! ### Names of a text -/

/-- A name begins at the edge of a word, with a capitalized word. -/
theorem ends_namePattern (before cs : List Char) :
    namePattern.ends ⟨before, cs⟩ =
      if beginsWord before = beginsWord cs then []
      else (wordPattern.ends ⟨before, cs⟩).flatMap fun there =>
        restOfName there.after.length there := by
  have rest (there : Place) : (next (times 0 none furtherPattern) .edge).ends there =
      restOfName there.after.length there := by
    rw [ends, ends, exactly, List.flatMap_singleton]
    rfl
  have begin : edge.ends ⟨before, cs⟩ =
      if beginsWord before = beginsWord cs then [] else [⟨before, cs⟩] := by
    rw [ends, Place.isEdge]
    by_cases same : beginsWord before = beginsWord cs <;> simp [same]
  rw [namePattern, ends, begin]
  split
  · rfl
  · rw [List.flatMap_singleton, ends]
    exact List.flatMap_congr fun there _ => rest there

theorem ends_namePattern_of_lower (lower : ∀ c ∈ cs.head?, c.isUpper = false) :
    namePattern.ends ⟨before, cs⟩ = [] := by
  rw [ends_namePattern, ends_wordPattern_of_stop lower, List.flatMap_nil, ite_self]

/-- No name begins within a word. -/
theorem ends_namePattern_within (begins : beginsWord before = true) (goesOn : c.isAlphanum = true) :
    namePattern.ends ⟨before, c :: cs⟩ = [] := by
  have word : beginsWord (c :: cs) = true := isWord_of_isAlphanum goesOn
  rw [ends_namePattern, if_pos (begins.trans word.symm)]

/-- From a run of letters and digits on, a name begins with the whole run, or there is none. -/
theorem ends_namePattern_run (free : beginsWord before = false) (filled : w ≠ [])
    (is : IsRun Char.isAlphanum w rest) :
    namePattern.ends ⟨before, w ++ rest⟩ =
      if isCapitalized w then restOfName rest.length ⟨w.reverse ++ before, rest⟩ else [] := by
  have word : beginsWord (w ++ rest) = true := by
    obtain ⟨c, w, rfl⟩ := List.exists_cons_of_ne_nil filled
    exact isWord_of_isAlphanum (is.all c List.mem_cons_self)
  rw [ends_namePattern, if_neg (by simp [free, word]), flatMap_ends_wordPattern is]
  intro before c cs begins goesOn
  exact restOfName_within _ begins goesOn

/-- Where no name begins with a run of letters and digits, none begins within it. -/
theorem foundAfter_run (is : IsRun Char.isAlphanum w rest)
    (none : namePattern.ends ⟨before, w ++ rest⟩ = []) :
    namePattern.foundAfter 0 before (w ++ rest) =
      namePattern.foundAfter 0 (w.reverse ++ before) rest := by
  refine foundAfter_none ?_
  rintro xs y ys rfl
  by_cases first : xs = []
  · subst first
    exact none
  · have begins := beginsWord_alphanum first (fun c hc => is.all c (by simp [hc])) before
    exact ends_namePattern_within begins (is.all y (by simp))

/-- The scan of the rest of a text finds the words of what the pattern finds there.  It may start a
word where the characters before do not belong to one. -/
def FindsNames (before cs : List Char) : Prop :=
  names (!beginsWord before) [] (segments cs) = (namePattern.foundAfter 0 before cs).map words

/-- No name begins at a character that is no letter and no digit. -/
theorem FindsNames.other (other : c.isAlphanum = false) (solid : isBlank c = false)
    (h : FindsNames (c :: before) cs) : FindsNames before (c :: cs) := by
  have lower : ∀ d ∈ (c :: cs).head?, d.isUpper = false := by
    simpa using not_isUpper_of_not_isAlphanum other
  rw [FindsNames, segments_other other solid, names_other, foundAfter,
    ends_namePattern_of_lower lower]
  exact h

/-- No name begins at a blank, but one may begin behind it. -/
theorem FindsNames.blanks (filled : gap ≠ []) (blanks : IsRun isBlank gap rest)
    (h : FindsNames (gap.reverse ++ before) rest) : FindsNames before (gap ++ rest) := by
  have nowhere : Within gap rest before fun here => namePattern.ends here = [] := by
    rintro xs y ys rfl
    have blank := classes_of_isBlank (blanks.all y (by simp))
    exact ends_namePattern_of_lower (by simpa using not_isUpper_of_not_isAlphanum blank.1)
  have free : beginsWord (gap.reverse ++ before) = false := by
    obtain ⟨c, hc, eq⟩ := exists_beginsWord filled before
    rw [eq, (classes_of_isBlank (blanks.all c hc)).2]
  rw [FindsNames, segments_gap filled blanks, foundAfter_none nowhere, names_gap, ← h, free]
  rfl

/-- A run of letters and digits that begins no name is passed over. -/
theorem FindsNames.refused (filled : w ≠ []) (is : IsRun Char.isAlphanum w rest)
    (refused : (!beginsWord before && isCapitalized w && endsBefore (segments rest)) = false)
    (none : namePattern.ends ⟨before, w ++ rest⟩ = [])
    (h : FindsNames (w.reverse ++ before) rest) : FindsNames before (w ++ rest) := by
  have scan : names (!beginsWord before) [] (.run w :: segments rest) =
      names false [] (segments rest) := by
    rw [names_run, refused]
    rfl
  rw [FindsNames, beginsWord_alphanum filled is.all] at h
  rw [FindsNames, segments_run filled is, foundAfter_run is none, scan]
  exact h

/-- A run of letters and digits that begins a name is found with all that goes on the name. -/
theorem FindsNames.accepted {taken last : List Char} (filled : w ≠ [])
    (is : IsRun Char.isAlphanum w rest) (free : beginsWord before = false)
    (capital : isCapitalized w = true) (apart : beginsWord rest = false)
    (goes : GoesOn rest.length (w.reverse ++ before) rest taken last)
    (h : FindsNames (taken.reverse ++ (w.reverse ++ before)) last) :
    FindsNames before (w ++ rest) := by
  have text : w ++ rest = (w ++ taken) ++ last := by rw [goes.split, List.append_assoc]
  have first : (namePattern.ends ⟨before, (w ++ taken) ++ last⟩).head? =
      some ⟨(w ++ taken).reverse ++ before, last⟩ := by
    rw [← text, ends_namePattern_run free filled is, if_pos capital, goes.ends,
      List.reverse_append, List.append_assoc]
  have own := words_further (List.forall_mem_nil (isBlank · = true))
    (isWord_of_isCapitalized is capital) goes.blank
  rw [List.nil_append] at own
  have scan : names true [] (.run w :: segments rest) = names false [w] (segments rest) := by
    rw [names_run, capital, endsBefore_segments is.stop, apart]
    rfl
  rw [FindsNames, goes.word] at h
  rw [FindsNames, segments_run filled is, free, Bool.not_false, scan, goes.scan [w] (by simp), text,
    foundAfter_some (by simp [filled]) first, List.map_cons, own, List.reverse_append,
    List.append_assoc, ← h]
  rfl

/-- Behind a run of letters and digits, the scan goes on with what a name leaves. -/
theorem FindsNames.run (filled : w ≠ []) (is : IsRun Char.isAlphanum w rest)
    (h : ∀ taken last, rest = taken ++ last →
      FindsNames (taken.reverse ++ (w.reverse ++ before)) last) :
    FindsNames before (w ++ rest) := by
  have anew : FindsNames (w.reverse ++ before) rest := h [] rest rfl
  have decided := isDecided rest.length le_rfl (beginsWord_alphanum filled is.all before) is.stop
  cases begins : beginsWord before with
  | true =>
    obtain ⟨c, w, rfl⟩ := List.exists_cons_of_ne_nil filled
    exact .refused filled is (by simp [begins])
      (ends_namePattern_within begins (is.all c List.mem_cons_self)) anew
  | false =>
    have ends := ends_namePattern_run begins filled is
    cases capital : isCapitalized w with
    | false => exact .refused filled is (by simp [capital]) (by simpa [capital] using ends) anew
    | true =>
      cases apart : beginsWord rest with
      | true =>
        have closed := endsBefore_segments is.stop
        exact .refused filled is (by simp [closed, apart])
          (by rw [ends, decided.fails apart, ite_self]) anew
      | false =>
        obtain ⟨taken, last, goes⟩ := decided.goesOn apart
        exact .accepted filled is begins capital apart goes (h taken last goes.split)

/-- The scan finds the words of what the pattern finds, wherever it is in a text. -/
theorem findsNames (cs : List Char) : ∀ before, FindsNames before cs := by
  induction length : cs.length using Nat.strong_induction_on generalizing cs with
  | _ n ih =>
  subst length
  intro before
  obtain ⟨w, after, rfl, is⟩ := exists_isRun Char.isAlphanum cs
  by_cases run : w = []
  · subst run
    obtain ⟨gap, rest, rfl, blanks⟩ := exists_isRun isBlank after
    by_cases blank : gap = []
    · subst blank
      cases rest with
      | nil => rfl
      | cons c cs =>
        have anew := ih cs.length (by simp) cs rfl (c :: before)
        exact .other (is.stop c rfl) (blanks.stop c rfl) anew
    · have shorter : rest.length < (gap ++ rest).length := by simp [List.length_pos_iff, blank]
      have anew := ih rest.length shorter rest rfl (gap.reverse ++ before)
      show FindsNames before (gap ++ rest)
      exact .blanks blank blanks anew
  · refine .run run is fun taken last split => ih last.length ?_ last rfl _
    have := List.length_pos_iff.2 run
    rw [split, List.length_append, List.length_append]
    omega

/-- The scan for names finds the words of the matches. -/
theorem names_eq (cs : List Char) :
    names true [] (segments cs) = (namePattern.found cs).map words :=
  findsNames cs []

/-- A word is given up if a word character follows that is no ASCII letter or digit. -/
example : namePattern.found "Mega  Millions of McX Jackpot_1".toList =
    ["Mega  Millions".toList, "McX".toList] := by
  decide +kernel

end KnowledgeGraph.Keyword
