import KnowledgeGraph.Json.Codec
import KnowledgeGraph.Time.Interchange

/-!
# Instants and periods in JSON

An instant is a text in the interchange format.  It is written with its exact fraction and
read in the relaxed form.  A period is an object of its two ends, each of which may be
missing or `null`, or the list of both.
-/

namespace KnowledgeGraph

open Json (Codec)

/-- Instants as texts. -/
def Instant.codec : Codec Instant where
  write t := .string t.writtenExactly
  read
    | .string (.ok s) _ =>
        match Time.ofRelaxed? s with
        | some t => .ok t
        | none => .error .mismatch
    | d => d.wrongKind

namespace Period

/-- A period as JSON. -/
def write (p : Period) : Json :=
  .object [("start", (Codec.optional Instant.codec).write p.start),
    ("end", (Codec.optional Instant.codec).write p.stop)]

/-- Reads a period from a value. -/
def read? (j : Json) : Option Period := do
  let (start, stop) ←
    match j with
    | .object _ => some ((j.member? "start").getD .null, (j.member? "end").getD .null)
    | .array [start, stop] => some (start, stop)
    | _ => none
  let start ← ((Codec.optional Instant.codec).decode start).toOption
  let stop ← ((Codec.optional Instant.codec).decode stop).toOption
  return ⟨start, stop⟩

end Period

end KnowledgeGraph
