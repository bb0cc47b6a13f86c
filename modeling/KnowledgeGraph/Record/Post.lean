import KnowledgeGraph.Record.Mention
import KnowledgeGraph.Time.FreeText

/-!
# Social posts

A post of a social network.  A post is named by its identifier, or by its address if it has
none, and a post with neither has no place in a graph.  Its time is the time of publication,
or the time of creation if the former is missing or cannot be understood.
-/

namespace KnowledgeGraph

open Text (presence?)
open Json (Codec)

/-- A post of a social network. -/
structure Post where
  /-- The identifier. -/
  id : String := ""
  /-- The address. -/
  uri : String := ""
  /-- The network. -/
  platform : String := ""
  /-- The text. -/
  text : String := ""
  /-- The author. -/
  username : Option String := none
  /-- The community that the post was sent to. -/
  subreddit : Option String := none
  /-- When the post was published. -/
  publishedAt : Option String := none
  /-- When the post was created. -/
  createdAt : Option String := none
  /-- The orientation of the sentiment, such as `positive`. -/
  sentiment : Option String := none
  /-- Names of sentiments. -/
  sentimentTags : List String := []
  /-- Phrases that carry sentiment. -/
  sentimentPhrases : List String := []
  /-- Words that carry emotion. -/
  emotionWords : List String := []
  /-- The topic. -/
  topic : Option String := none
  /-- The entities that are mentioned. -/
  entities : List Mention := []
  /-- The keywords. -/
  keywords : List String := []
  /-- The language of the keywords. -/
  language : Option String := none
deriving Inhabited

namespace Post

/-- The name of a post: its identifier, or else its address. -/
def identifier? (p : Post) : Option String := presence? p.id <|> presence? p.uri

/-- The time of a post. -/
def instant? (p : Post) : Option Instant :=
  Time.ofOptionalText? p.publishedAt <|> Time.ofOptionalText? p.createdAt

/-- Posts in JSON. -/
def codec : Codec Post :=
  .record {} [
    .of "id" .text (·.id) (fun v p => { p with id := v }),
    .of "uri" .text (·.uri) (fun v p => { p with uri := v }),
    .of "platform" .text (·.platform) (fun v p => { p with platform := v }),
    .of "text" .text (·.text) (fun v p => { p with text := v }),
    .of "username" (.optional .text) (·.username) (fun v p => { p with username := v }),
    .of "subreddit" (.optional .text) (·.subreddit) (fun v p => { p with subreddit := v }),
    .of "published_at" (.optional .text) (·.publishedAt)
      (fun v p => { p with publishedAt := v }),
    .of "created_at" (.optional .text) (·.createdAt) (fun v p => { p with createdAt := v }),
    .of "sentiment" (.optional .text) (·.sentiment) (fun v p => { p with sentiment := v }),
    .of "sentiment_tags" (.list .text) (·.sentimentTags)
      (fun v p => { p with sentimentTags := v }),
    .of "sentiment_phrases" (.list .text) (·.sentimentPhrases)
      (fun v p => { p with sentimentPhrases := v }),
    .of "emotion_words" (.list .text) (·.emotionWords)
      (fun v p => { p with emotionWords := v }),
    .of "topic" (.optional .text) (·.topic) (fun v p => { p with topic := v }),
    .of "entities" (.list Mention.codec) (·.entities)
      (fun v p => { p with entities := v }),
    .of "keywords" (.list .text) (·.keywords) (fun v p => { p with keywords := v }),
    .of "language" (.optional .text) (·.language) (fun v p => { p with language := v })]

end Post

end KnowledgeGraph
