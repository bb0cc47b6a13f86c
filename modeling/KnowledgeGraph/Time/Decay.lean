import KnowledgeGraph.Settings

/-!
# Decay of weights with time

The weight of a post falls with its age by the factor `exp (-age / τ)`, both in days.  The age
is counted in whole milliseconds up to the reference and is never below zero, so a post from
the future keeps its weight.  So does a post without a time.
-/

namespace KnowledgeGraph

/-- How weights decay. -/
structure Decay where
  /-- The time constant in days. -/
  tauDays : Float
  /-- The instant from which ages are counted. -/
  reference : Instant

namespace Decay

/-- The decay for a time constant, unless it is missing or not positive.  Without a reference,
ages are counted from `now`. -/
def of? (now : Instant) (tauDays : Option Float) (reference : Option Instant) :
    Option Decay :=
  (tauDays.filter Settings.isTau).map fun tau => ⟨tau, reference.getD now⟩

/-- The age of a post in milliseconds. -/
def ageMillis (d : Decay) (post : Instant) : Int := max 0 (d.reference.millisSince post)

/-- The milliseconds of a day. -/
def dayMillis : Float := 86400000.0

/-- The factor for a post with an optional time. -/
def factor (d : Decay) (post : Option Instant) : Float :=
  match post with
  | none => 1.0
  | some t => (-(Float.ofInt (d.ageMillis t) / dayMillis) / d.tauDays).exp

/-- A weight times the factor for a post. -/
def applied (d : Decay) (weight : Float) (post : Option Instant) : Float :=
  weight * d.factor post

end Decay

/-- A weight after its decay, if there is one. -/
def decayed (now : Instant) (weight : Float) (post reference : Option Instant)
    (tauDays : Option Float) : Float :=
  match Decay.of? now tauDays reference with
  | some d => d.applied weight post
  | none => weight

end KnowledgeGraph
