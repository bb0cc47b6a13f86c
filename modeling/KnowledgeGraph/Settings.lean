import KnowledgeGraph.Number.Shortest
import KnowledgeGraph.Time.Codec

/-!
# Settings

The settings under which graphs are made.  Settings never make this fail: in place of every
value that makes no sense another one is in use (`Settings.window` and the functions after
it).  `Settings.check` says beforehand what is wrong, the first problem only.
-/

namespace KnowledgeGraph

open Json (Codec)

/-- The settings under which graphs are made. -/
structure Settings where
  /-- How far apart two keywords of a post may stand to occur together.  Without a number the
  whole post counts. -/
  pairWindow : Option Nat := none
  /-- Whether keywords are weighted by how rare they are. -/
  weighRarity : Bool := true
  /-- The time constant of the decay, in days.  Without one, weights do not decay. -/
  tauDays : Option Float := none
  /-- The instant from which the age of a post is counted. -/
  reference : Option Instant := none
  /-- How many keywords a post keeps. -/
  keptKeywords : Nat := 10
  /-- How many characters of its text a post keeps. -/
  keptChars : Nat := 500
  /-- The language of keywords without one. -/
  fallbackLanguage : String := "en"
  /-- Whether a post without keywords has them taken from its text. -/
  fillKeywords : Bool := false
deriving Inhabited

/-- What is wrong with settings. -/
inductive SettingsError where
  /-- The time constant is not positive or not finite. -/
  | badTau (tau : Float)
  /-- The window holds no keyword. -/
  | emptyWindow
  /-- No keyword is kept. -/
  | noKeywords
  /-- No character is kept. -/
  | noChars

namespace SettingsError

/-- A double in a message is positional always, a whole one carries no point, and one halfway
between two shortest decimals is written as the greater. -/
def floatLayout : Number.Layout := ⟨none, false, .greater⟩

/-- What is said of an error. -/
def reason : SettingsError → String
  | .badTau tau =>
      "decay_tau_days deve ser positivo e finito (recebido " ++
        (Number.renderFloat? floatLayout tau).getD "NaN" ++ ")"
  | .emptyWindow =>
      "cooccurrence_window deve ser >= 1 (use None para o post inteiro)"
  | .noKeywords => "max_keywords deve ser >= 1"
  | .noChars => "excerpt_chars deve ser >= 1"

/-- The message of an error. -/
def message (e : SettingsError) : String := "Configuração inválida: " ++ e.reason

end SettingsError

namespace Settings

/-- Whether a double can be a time constant. -/
def isTau (tau : Float) : Bool := Number.isFinite tau && 0 < tau

/-- Checks settings and gives the first error. -/
def check (c : Settings) : Except SettingsError Unit :=
  match c.tauDays.filter (!isTau ·) with
  | some tau => .error (.badTau tau)
  | none =>
      if c.pairWindow = some 0 then .error .emptyWindow
      else if c.keptKeywords = 0 then .error .noKeywords
      else if c.keptChars = 0 then .error .noChars
      else .ok ()

/-- The window in use.  A window of 0 is the whole post. -/
def window (c : Settings) : Option Nat := c.pairWindow.filter (· ≠ 0)

/-- The time constant in use. -/
def tau (c : Settings) : Option Float := c.tauDays.filter isTau

/-- The number of keywords in use. -/
def keywordLimit (c : Settings) : Nat :=
  if c.keptKeywords = 0 then 10 else c.keptKeywords

/-- The number of characters in use. -/
def excerptLimit (c : Settings) : Nat :=
  if c.keptChars = 0 then 500 else c.keptChars

/-- The language in use, trimmed. -/
def language (c : Settings) : String :=
  (Text.presence? c.fallbackLanguage).getD "en"

/-- Settings in JSON. -/
def codec : Codec Settings :=
  .record {} [
    .of "cooccurrence_window" (.optional .count) (·.pairWindow)
      (fun v c => { c with pairWindow := v }),
    .of "enable_tfidf" .bool (·.weighRarity) (fun v c => { c with weighRarity := v }),
    .of "decay_tau_days" (.optional .number) (·.tauDays)
      (fun v c => { c with tauDays := v }),
    .of "reference_time" (.optional Instant.codec) (·.reference)
      (fun v c => { c with reference := v }),
    .of "max_keywords" .count (·.keptKeywords) (fun v c => { c with keptKeywords := v }),
    .of "excerpt_chars" .count (·.keptChars) (fun v c => { c with keptChars := v }),
    .of "default_language" .text (·.fallbackLanguage)
      (fun v c => { c with fallbackLanguage := v }),
    .of "extract_missing_keywords" .bool (·.fillKeywords)
      (fun v c => { c with fillKeywords := v })]

end Settings

end KnowledgeGraph
