import KnowledgeGraph.Proofs.Json.ReadBack
import KnowledgeGraph.Proofs.Time.WrittenExactly
import KnowledgeGraph.Record.Corpus
import KnowledgeGraph.Settings

/-!
# Records read back

Every record is restored from what is written of it, and so are the records in it, settings and
periods (`restores_records`).  The doubles of a record must be finite and its counts must have 64
bits, since no others are written.  Instants need no condition: each of them reads back from its
text, whatever its year.

Each proof walks through the fields of the record in their order.
-/

namespace KnowledgeGraph

open Json (Codec Thinned ThinnedMembers)
open Json.Codec (restores_count restores_record)
open Json.Field
open Json.Field.CarryAll (field done)

/-- Whether an optional double is finite if it is there. -/
def IsFinite (x : Option Float) : Prop := ∀ v ∈ x, Number.isFinite v = true

/-! ## Records of all families -/

/-- Whether a mention can be written. -/
structure Mention.IsWritable (m : Mention) : Prop where
  /-- The bounds have 64 bits. -/
  span : ∀ s ∈ m.span, Number.IsUnsigned s.1 ∧ Number.IsUnsigned s.2
  /-- The confidence is finite. -/
  confidence : IsFinite m.confidence

theorem Mention.restores_codec : Mention.codec.Restores Mention.IsWritable :=
  restores_record (by decide) fun _ h =>
    field carries_text <|
    field (carries_optionalText rfl) <|
    field (carries_optionalText rfl) <|
    field (carries_optionalText rfl) <|
    field (carries_optional (restores_count.pair restores_count) rfl h.span rfl) <|
    field (carries_optionalNumber h.confidence rfl) <|
    done

/-- Whether a post can be written. -/
def Post.IsWritable (p : Post) : Prop := ∀ m ∈ p.entities, m.IsWritable

theorem Post.restores_codec : Post.codec.Restores Post.IsWritable :=
  restores_record (by decide) fun _ h =>
    field carries_text <|
    field carries_text <|
    field carries_text <|
    field carries_text <|
    field (carries_optionalText rfl) <|
    field (carries_optionalText rfl) <|
    field (carries_optionalText rfl) <|
    field (carries_optionalText rfl) <|
    field (carries_optionalText rfl) <|
    field carries_texts <|
    field carries_texts <|
    field carries_texts <|
    field (carries_optionalText rfl) <|
    field (carries_list Mention.restores_codec h) <|
    field carries_texts <|
    field (carries_optionalText rfl) <|
    done

/-- Whether a point of market data can be written. -/
structure MarketPoint.IsWritable (r : MarketPoint) : Prop where
  /-- What was sold is finite. -/
  volume : IsFinite r.volume
  /-- What was earned is finite. -/
  revenue : IsFinite r.revenue
  /-- The jackpot is finite. -/
  jackpot : IsFinite r.jackpot
  /-- The price of a unit is finite. -/
  unitPrice : IsFinite r.unitPrice
  /-- The mentions can be written. -/
  entities : ∀ m ∈ r.entities, m.IsWritable

theorem MarketPoint.restores_codec : MarketPoint.codec.Restores MarketPoint.IsWritable :=
  restores_record (by decide) fun _ h =>
    field carries_text <|
    field (carries_optionalText rfl) <|
    field (carries_optionalText rfl) <|
    field (carries_optionalText rfl) <|
    field (carries_optionalNumber h.volume rfl) <|
    field (carries_optionalNumber h.revenue rfl) <|
    field (carries_optionalNumber h.jackpot rfl) <|
    field (carries_optionalNumber h.unitPrice rfl) <|
    field (carries_optionalText rfl) <|
    field (carries_optionalText rfl) <|
    field (carries_list Mention.restores_codec h.entities) <|
    done

/-- Whether a statement can be written. -/
def Statement.IsWritable (t : Statement) : Prop := IsFinite t.confidence

theorem Statement.restores_codec : Statement.codec.Restores Statement.IsWritable :=
  restores_record (by decide) fun _ h =>
    field carries_text <|
    field carries_text <|
    field (carries_optionalText rfl) <|
    field (carries_optionalText rfl) <|
    field (carries_optionalNumber h rfl) <|
    field (carries_optionalText rfl) <|
    done

/-- Whether a document of policy can be written. -/
structure PolicyDocument.IsWritable (r : PolicyDocument) : Prop where
  /-- The mentions can be written. -/
  entities : ∀ m ∈ r.entities, m.IsWritable
  /-- The statements can be written. -/
  relations : ∀ t ∈ r.relations, t.IsWritable

theorem PolicyDocument.restores_codec :
    PolicyDocument.codec.Restores PolicyDocument.IsWritable :=
  restores_record (by decide) fun _ h =>
    field carries_text <|
    field (carries_optionalText rfl) <|
    field (carries_optionalText rfl) <|
    field (carries_optionalText rfl) <|
    field (carries_optionalText rfl) <|
    field (carries_optionalText rfl) <|
    field (carries_optionalText rfl) <|
    field carries_texts <|
    field (carries_optionalText rfl) <|
    field (carries_optionalText rfl) <|
    field (carries_list Mention.restores_codec h.entities) <|
    field (carries_list Statement.restores_codec h.relations) <|
    done

/-- Whether a corpus can be written. -/
structure Corpus.IsWritable (c : Corpus) : Prop where
  /-- The posts can be written. -/
  posts : ∀ p ∈ c.posts, p.IsWritable
  /-- The market data can be written. -/
  market : ∀ r ∈ c.market, r.IsWritable
  /-- The documents can be written. -/
  policies : ∀ r ∈ c.policies, r.IsWritable

theorem Corpus.restores_codec : Corpus.codec.Restores Corpus.IsWritable :=
  restores_record (by decide) fun _ h =>
    field (carries_list Post.restores_codec h.posts) <|
    field (carries_list MarketPoint.restores_codec h.market) <|
    field (carries_list PolicyDocument.restores_codec h.policies) <|
    done

/-! ## Settings and periods -/

theorem Instant.restores_codec : Instant.codec.Restores fun _ => True := by
  intro t _ j thinned
  have write : Instant.codec.write t = .string t.writtenExactly := rfl
  have reads {s : String} (h : Time.ofRelaxed? s = some t) :
      Instant.codec.decode (.string s) = .ok t := by
    simp only [Codec.decode, Json.draft, Instant.codec, h]
  rw [write] at thinned
  cases thinned
  exact reads (Time.ofRelaxed?_writtenExactly t)

/-- Whether settings can be written. -/
structure Settings.IsWritable (c : Settings) : Prop where
  /-- The window has 64 bits. -/
  pairWindow : ∀ n ∈ c.pairWindow, Number.IsUnsigned n
  /-- The time constant is finite. -/
  tauDays : IsFinite c.tauDays
  /-- The number of keywords has 64 bits. -/
  keptKeywords : Number.IsUnsigned c.keptKeywords
  /-- The number of characters has 64 bits. -/
  keptChars : Number.IsUnsigned c.keptChars

theorem Settings.restores_codec : Settings.codec.Restores Settings.IsWritable :=
  restores_record (by decide) fun _ h =>
    field (carries_optional restores_count rfl h.pairWindow rfl) <|
    field carries_bool <|
    field (carries_optionalNumber h.tauDays rfl) <|
    field (carries_optional Instant.restores_codec rfl (fun _ _ => trivial) rfl) <|
    field (carries_count h.keptKeywords) <|
    field (carries_count h.keptChars) <|
    field carries_text <|
    field carries_bool <|
    done

/-- An object is read as the period of its two ends. -/
theorem Period.read?_object {ms : List (String × Json)} {p : Period}
    (start : (Codec.optional Instant.codec).decode
      (((Json.object ms).member? "start").getD .null) = .ok p.start)
    (stop : (Codec.optional Instant.codec).decode
      (((Json.object ms).member? "end").getD .null) = .ok p.stop) :
    Period.read? (.object ms) = some p := by
  have ends : Period.read? (.object ms) = do
      let start ← ((Codec.optional Instant.codec).decode
        (((Json.object ms).member? "start").getD .null)).toOption
      let stop ← ((Codec.optional Instant.codec).decode
        (((Json.object ms).member? "end").getD .null)).toOption
      return ⟨start, stop⟩ := rfl
  rw [ends, start, stop]
  rfl

/-- A period reads back, and an end that is missing may be left out. -/
theorem Period.read?_of_thinned {p : Period} {j : Json} (thinned : Thinned p.write j) :
    Period.read? j = some p := by
  have restores := Instant.restores_codec.optional rfl
  have reads (o : Option Instant) {j : Json}
      (thinned : Thinned ((Codec.optional Instant.codec).write o) j) :
      (Codec.optional Instant.codec).decode j = .ok o :=
    restores o (fun _ _ => trivial) j thinned
  have misses (o : Option Instant) (null : (Codec.optional Instant.codec).write o = .null) :
      (Codec.optional Instant.codec).decode .null = .ok o :=
    reads o (null ▸ .same _)
  have members {left : List (String × Json)}
      (thinned : ThinnedMembers [("start", (Codec.optional Instant.codec).write p.start),
        ("end", (Codec.optional Instant.codec).write p.stop)] left) :
      Period.read? (.object left) = some p := by
    cases thinned with
    | keep start rest =>
      cases rest with
      | keep stop none =>
        cases none
        exact Period.read?_object (reads _ start) (reads _ stop)
      | drop null none =>
        cases none
        exact Period.read?_object (reads _ start) (misses _ null)
    | drop null rest =>
      cases rest with
      | keep stop none =>
        cases none
        exact Period.read?_object (misses _ null) (reads _ stop)
      | drop null' none =>
        cases none
        exact Period.read?_object (misses _ null) (misses _ null')
  cases thinned with
  | same => exact members (.same _)
  | object thinned => exact members thinned

/-- A post, a point of market data, a document of policy, a corpus of them, settings and a period
are read back from what is written of them, and from what is left of it when members that are
`null` are left out. -/
theorem restores_records :
    Post.codec.Restores Post.IsWritable ∧
    MarketPoint.codec.Restores MarketPoint.IsWritable ∧
    PolicyDocument.codec.Restores PolicyDocument.IsWritable ∧
    Corpus.codec.Restores Corpus.IsWritable ∧
    Settings.codec.Restores Settings.IsWritable ∧
    ∀ (p : Period) (j : Json), Thinned p.write j → Period.read? j = some p :=
  ⟨Post.restores_codec, MarketPoint.restores_codec, PolicyDocument.restores_codec,
    Corpus.restores_codec, Settings.restores_codec, fun _ _ => Period.read?_of_thinned⟩

/-- A post that mentions a bank reads back, settings with a leap second for their reference do, and
so does a period up to the year 10000 without its missing start. -/
theorem restores_records_bank :
    Post.codec.decode (Post.codec.write { id := "p", entities := [
        { text := "Caixa", span := some (0, 5), confidence := some 0.5 }] }) =
      .ok { id := "p", entities := [
        { text := "Caixa", span := some (0, 5), confidence := some 0.5 }] } ∧
    Settings.codec.decode (Settings.codec.write
        { tauDays := some 7.5, reference := some ⟨1483228799, 1250000000, by decide⟩ }) =
      .ok { tauDays := some 7.5, reference := some ⟨1483228799, 1250000000, by decide⟩ } ∧
    Period.read? (.object [("end", .string "+10000-01-01T00:00:00.250Z")]) =
      some { stop := some ⟨253402300800, 250000000, by decide⟩ } := by
  have bank : Mention.IsWritable
      { text := "Caixa", span := some (0, 5), confidence := some 0.5 } :=
    ⟨by rintro _ ⟨⟩; decide, by rintro _ ⟨⟩; decide⟩
  have post : Post.IsWritable { id := "p", entities := [
      { text := "Caixa", span := some (0, 5), confidence := some 0.5 }] } :=
    List.forall_mem_singleton.2 bank
  have settings : Settings.IsWritable
      { tauDays := some 7.5, reference := some ⟨1483228799, 1250000000, by decide⟩ } :=
    ⟨nofun, by rintro _ ⟨⟩; decide, by decide, by decide⟩
  have stop : Instant.writtenExactly ⟨253402300800, 250000000, by decide⟩ =
      "+10000-01-01T00:00:00.250Z" := by decide +kernel
  refine ⟨restores_records.1 _ post _ (.same _),
    restores_records.2.2.2.2.1 _ settings _ (.same _),
    restores_records.2.2.2.2.2 _ _ (.object (.drop rfl ?_))⟩
  rw [← stop]
  exact .same _

end KnowledgeGraph
