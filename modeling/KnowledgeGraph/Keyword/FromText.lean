import KnowledgeGraph.Character.Alphabetic
import KnowledgeGraph.Character.Numeric
import KnowledgeGraph.Character.Word
import KnowledgeGraph.Text.Normal

/-!
# Keywords from a text

Keywords of a text that comes without any.  There are four kinds of candidates, taken in this
order.

* Quoted spans: 2 to 60 characters between quotes, straight or curly.  A quote that closes a
  span opens none.
* Names: runs of capitalized words with nothing but blanks between them.  A capitalized word
  is a capital letter and at least two more letters or digits, all of them ASCII, with no
  other word character next to it.  Function words at the front of a name are dropped.
* Pairs of neighbouring content words.
* Single content words.

The words of the last two are the stretches between blanks, without what is neither letter
nor digit nor apostrophe at their ends, in lower case.  A content word is long enough, is no
function word, does not end like a verb and does not consist of digits.

A candidate becomes a keyword in its normal form, unless that is empty, there already, or one
more than is asked for.
-/

namespace KnowledgeGraph.Keyword

open Character
open Text (lowerChars normalChars unwords words)

/-! ## Content words -/

/-- Words without content of their own. -/
def functionWords : List String :=
  [
    "a", "an", "the", "and", "or", "but", "if", "then", "else", "of", "to", "in", "on", "at",
    "by", "for", "with", "from", "into", "onto", "over", "under", "about", "after", "before",
    "is", "are", "was", "were", "be", "been", "being", "am", "do", "does", "did", "have", "has",
    "had", "it", "its", "this", "that", "these", "those", "there", "here", "i", "me", "my",
    "we", "our", "you", "your", "he", "she", "him", "her", "his", "they", "them", "their",
    "what", "which", "who", "whom", "when", "where", "why", "how", "all", "any", "some", "each",
    "every", "no", "not", "nor", "only", "just", "so", "than", "too", "very", "can", "could",
    "will", "would", "should", "shall", "may", "might", "must", "also", "still", "even", "more",
    "most", "much", "many", "such", "other", "same", "own", "again", "ever", "never", "always",
    "now", "today", "really", "like", "get", "got", "going", "gonna", "know", "think", "said",
    "says", "thing", "things", "lol", "yeah", "okay", "anyone", "someone", "everyone",
    "because", "while", "what's", "it's", "i'm", "don't", "doesn't", "can't", "won't", "isn't",
    "aren't"]

/-- Whether a word is a function word. -/
def isFunctionWord (w : List Char) : Bool := functionWords.contains (String.ofList w)

/-- Whether a word ends like a verb form.  The ending and at least four bytes before it are
needed. -/
def endsLikeVerb (w : List Char) : Bool :=
  let bytes := (String.ofList w).utf8ByteSize
  (6 < bytes && ['i', 'n', 'g'].isSuffixOf w) || (5 < bytes && ['e', 'd'].isSuffixOf w)

/-- Whether a word of at least `least` characters has content. -/
def hasContent (least : Nat) (w : List Char) : Bool :=
  least ≤ w.length && !isFunctionWord w && !endsLikeVerb w && !w.all Char.isDigit

/-! ## Quoted spans -/

/-- Whether a character is a quote. -/
def isQuote (c : Char) : Bool := c == '"' || c == '“' || c == '”'

/-- The quoted spans of the rest of a text.  `inner` is what stands since the last quote that
may open a span, the last character first. -/
def quotedSpans (inner : Option (List Char)) : List Char → List (List Char)
  | [] => []
  | c :: cs =>
      if isQuote c then
        match inner with
        | some span =>
            if 2 ≤ span.length ∧ span.length ≤ 60 then span.reverse :: quotedSpans none cs
            else quotedSpans (some []) cs
        | none => quotedSpans (some []) cs
      else quotedSpans (inner.map (c :: ·)) cs

/-! ## Names -/

/-- A part of a text, for finding names. -/
inductive Segment where
  /-- A run of ASCII letters and digits. -/
  | run (w : List Char)
  /-- A run of blanks. -/
  | gap
  /-- Any other character. -/
  | other (c : Char)

/-- A text as segments. -/
def segments : List Char → List Segment
  | [] => []
  | c :: cs =>
      let rest := segments cs
      if c.isAlphanum then
        match rest with
        | .run w :: rest => .run (c :: w) :: rest
        | rest => .run [c] :: rest
      else if isBlank c then
        match rest with
        | .gap :: rest => .gap :: rest
        | rest => .gap :: rest
      else .other c :: rest

/-- Whether a run is a capital letter and at least two more characters. -/
def isCapitalized : List Char → Bool
  | a :: _ :: _ :: _ => a.isUpper
  | _ => false

/-- Whether a word may end before the segments that follow it. -/
def endsBefore : List Segment → Bool
  | .other c :: _ => !isWord c
  | _ => true

/-- A name, unless it has no words.  The words come with the last one first. -/
def finishName (name : List (List Char)) : List (List (List Char)) :=
  if name.isEmpty then [] else [name.reverse]

/-- The names of the rest of a text.  `mayStart` says whether a word may start here, and
`name` are the words of the name so far, the last one first. -/
def names (mayStart : Bool) (name : List (List Char)) : List Segment → List (List (List Char))
  | [] => finishName name
  | .run w :: rest =>
      if mayStart && isCapitalized w && endsBefore rest then names false (w :: name) rest
      else finishName name ++ names false [] rest
  | .gap :: rest => names true name rest
  | .other c :: rest => finishName name ++ names (!isWord c) [] rest

/-- A name without the function words at its front. -/
def dropFunctionWords (name : List (List Char)) : List (List Char) :=
  name.dropWhile fun w => isFunctionWord (lowerChars w)

/-! ## Words -/

/-- Whether a character may stand at an end of a word. -/
def isWordEnd (c : Char) : Bool := isAlphabetic c || isNumeric c || c == '\''

/-- A word without what may not stand at its ends. -/
def strip (w : List Char) : List Char :=
  ((w.dropWhile (!isWordEnd ·)).reverse.dropWhile (!isWordEnd ·)).reverse

/-- The words of a text, stripped and in lower case. -/
def plainWords (cs : List Char) : List (List Char) :=
  ((words cs).map fun w => lowerChars (strip w)).filter (!·.isEmpty)

/-- The pairs of neighbouring content words. -/
def wordPairs : List (List Char) → List (List (List Char))
  | v :: w :: ws =>
      if hasContent 5 v && hasContent 5 w then [v, w] :: wordPairs (w :: ws)
      else wordPairs (w :: ws)
  | _ => []

/-! ## Keywords -/

/-- The candidates of a text in order. -/
def candidates (cs : List Char) : List (List Char) :=
  let ws := plainWords cs
  quotedSpans none cs ++
    ((names true [] (segments cs)).map dropFunctionWords |>.filter (!·.isEmpty) |>.map unwords) ++
    (wordPairs ws).map unwords ++
    ws.filter (hasContent 4)

/-- Takes up a candidate, if there is room for it, it is not empty and it is new. -/
def takeUp (limit : Nat) (kept : List (List Char)) (candidate : List Char) :
    List (List Char) :=
  let keyword := normalChars candidate
  if kept.length < limit ∧ keyword ≠ [] ∧ keyword ∉ kept then kept ++ [keyword] else kept

/-- The first `limit` keywords of a text. -/
def fromText (text : String) (limit : Nat) : List String :=
  ((candidates text.toList).foldl (takeUp limit) []).map String.ofList

example : quotedSpans none "say \"abc\" \"d\" ef\"".toList = ["abc".toList, " ef".toList] := by
  decide

end KnowledgeGraph.Keyword
