import KnowledgeGraph.Record.Post

/-!
# Posts of a source

Posts as their sources deliver them.  Such a post names its source in the member `source`,
which may stand anywhere in the object, or in the first item of a list whose further items
are the fields.  `SourcePost.post` brings the posts of every source into one form.

The members other than `source` are kept as values until the source is known.  So they may
nest 127 deep at most, unknown ones included, while everything that is wrong with them beyond
that shows only after the whole object has been read.

A list of them (`SourcePost.readMany`) is read as a list of values first.  An item that is no
post of a source is left out, and only a text that is no list fails.
-/

namespace KnowledgeGraph

open Text (presence? trim)
open Json (Codec Draft Fault raise)

/-- A post as Reddit delivers it. -/
structure RedditSubmission where
  /-- The identifier. -/
  id : String := ""
  /-- The address within the site, or a whole address. -/
  permalink : Option String := none
  /-- The address of what the post links to. -/
  url : Option String := none
  /-- The title. -/
  title : String := ""
  /-- The text below the title. -/
  selftext : String := ""
  /-- The author. -/
  author : Option String := none
  /-- The community. -/
  subreddit : Option String := none
  /-- The time of creation, in seconds since the start of 1970. -/
  createdUtc : Option Float := none
  /-- The orientation of the sentiment. -/
  sentiment : Option String := none
  /-- Names of sentiments. -/
  sentimentTags : List String := []
  /-- The topic. -/
  topic : Option String := none
  /-- The keywords. -/
  keywords : List String := []
  /-- The entities that are mentioned. -/
  entities : List Mention := []
  /-- The language of the keywords. -/
  language : Option String := none
deriving Inhabited

/-- Reddit posts in JSON. -/
def RedditSubmission.codec : Codec RedditSubmission :=
  .record {} [
    .of "id" .text (·.id) (fun v p => { p with id := v }),
    .of "permalink" (.optional .text) (·.permalink) (fun v p => { p with permalink := v }),
    .of "url" (.optional .text) (·.url) (fun v p => { p with url := v }),
    .of "title" .text (·.title) (fun v p => { p with title := v }),
    .of "selftext" .text (·.selftext) (fun v p => { p with selftext := v }),
    .of "author" (.optional .text) (·.author) (fun v p => { p with author := v }),
    .of "subreddit" (.optional .text) (·.subreddit) (fun v p => { p with subreddit := v }),
    .of "created_utc" (.optional .number) (·.createdUtc)
      (fun v p => { p with createdUtc := v }),
    .of "sentiment" (.optional .text) (·.sentiment) (fun v p => { p with sentiment := v }),
    .of "sentiment_tags" (.list .text) (·.sentimentTags)
      (fun v p => { p with sentimentTags := v }),
    .of "topic" (.optional .text) (·.topic) (fun v p => { p with topic := v }),
    .of "keywords" (.list .text) (·.keywords) (fun v p => { p with keywords := v }),
    .of "entities" (.list Mention.codec) (·.entities)
      (fun v p => { p with entities := v }),
    .of "language" (.optional .text) (·.language) (fun v p => { p with language := v })]

/-- A document of any origin whose sentiment has been analysed. -/
structure AnalysedDocument where
  /-- The identifier. -/
  id : String := ""
  /-- The address. -/
  url : String := ""
  /-- The network. -/
  platform : Option String := none
  /-- The text. -/
  text : String := ""
  /-- The author. -/
  author : Option String := none
  /-- The orientation of the sentiment. -/
  orientation : Option String := none
  /-- Names of sentiments. -/
  tags : List String := []
  /-- Phrases that carry sentiment. -/
  phrases : List String := []
  /-- Words that carry emotion. -/
  emotionWords : List String := []
  /-- The topic. -/
  topic : Option String := none
  /-- When the document was published. -/
  publishedAt : Option String := none
  /-- When the document was created. -/
  createdAt : Option String := none
  /-- The keywords. -/
  keywords : List String := []
  /-- The entities that are mentioned. -/
  entities : List Mention := []
  /-- The language of the keywords. -/
  language : Option String := none
deriving Inhabited

/-- Documents with their sentiment in JSON. -/
def AnalysedDocument.codec : Codec AnalysedDocument :=
  .record {} [
    .of "id" .text (·.id) (fun v p => { p with id := v }),
    .of "url" .text (·.url) (fun v p => { p with url := v }),
    .of "platform" (.optional .text) (·.platform) (fun v p => { p with platform := v }),
    .of "text" .text (·.text) (fun v p => { p with text := v }),
    .of "author" (.optional .text) (·.author) (fun v p => { p with author := v }),
    .of "orientation" (.optional .text) (·.orientation)
      (fun v p => { p with orientation := v }),
    .of "tags" (.list .text) (·.tags) (fun v p => { p with tags := v }),
    .of "phrases" (.list .text) (·.phrases) (fun v p => { p with phrases := v }),
    .of "emotion_words" (.list .text) (·.emotionWords)
      (fun v p => { p with emotionWords := v }),
    .of "topic" (.optional .text) (·.topic) (fun v p => { p with topic := v }),
    .of "published_at" (.optional .text) (·.publishedAt)
      (fun v p => { p with publishedAt := v }),
    .of "created_at" (.optional .text) (·.createdAt) (fun v p => { p with createdAt := v }),
    .of "keywords" (.list .text) (·.keywords) (fun v p => { p with keywords := v }),
    .of "entities" (.list Mention.codec) (·.entities)
      (fun v p => { p with entities := v }),
    .of "language" (.optional .text) (·.language) (fun v p => { p with language := v })]

/-- A post as its source delivers it. -/
inductive SourcePost where
  /-- A post from Reddit. -/
  | reddit (post : RedditSubmission)
  /-- A document with its sentiment. -/
  | sentiment (post : AnalysedDocument)

/-! ## Social posts -/

/-- The name of a community, trimmed and without any `r/` in front. -/
def dropCommunityMark : List Char → List Char
  | 'r' :: '/' :: cs => dropCommunityMark cs
  | cs => cs

/-- The name of a community, unless nothing is left of it. -/
def communityName? (s : String) : Option String :=
  match dropCommunityMark (Text.trimChars s.toList) with
  | [] => none
  | cs => some (String.ofList cs)

/-- The whole number of seconds of a time, dropping its fraction.  It is kept within 64
bits. -/
def secondsText (x : Float) : Option String :=
  (Number.Dyadic.ofFloat? x).map fun d => toString (Number.clampSigned d.truncate)

namespace RedditSubmission

/-- The site that addresses within it start from. -/
def site : String := "https://www.reddit.com"

/-- The address of a post.  The permalink is preferred. -/
def address (p : RedditSubmission) : String :=
  match p.permalink.bind presence? with
  | some link => if link.toList.head? = some '/' then site ++ link else link
  | none => p.url.getD ""

/-- The title and the text below it, with a blank line between them. -/
def fullText (p : RedditSubmission) : String :=
  "\n\n".intercalate ([p.title, p.selftext].filterMap presence?)

/-- A Reddit post as a social post.  An author that was deleted is left out. -/
def post (p : RedditSubmission) : Post where
  id := p.id
  uri := p.address
  platform := "reddit"
  text := p.fullText
  username := p.author.filter (· != "[deleted]")
  subreddit := p.subreddit.bind communityName?
  createdAt := p.createdUtc.bind secondsText
  sentiment := p.sentiment
  sentimentTags := p.sentimentTags
  topic := p.topic
  entities := p.entities
  keywords := p.keywords
  language := p.language

end RedditSubmission

/-- A document with its sentiment as a social post.  Without a network it comes from the
web. -/
def AnalysedDocument.post (p : AnalysedDocument) : Post where
  id := p.id
  uri := p.url
  platform := p.platform.getD "web"
  text := p.text
  username := p.author
  publishedAt := p.publishedAt
  createdAt := p.createdAt
  sentiment := p.orientation
  sentimentTags := p.tags
  sentimentPhrases := p.phrases
  emotionWords := p.emotionWords
  topic := p.topic
  entities := p.entities
  keywords := p.keywords
  language := p.language

namespace SourcePost

/-- The social post that a source delivers. -/
def post : SourcePost → Post
  | .reddit p => p.post
  | .sentiment p => p.post

/-! ## Reading -/

/-- The sources of posts. -/
inductive Origin where
  /-- Reddit. -/
  | reddit
  /-- An analysis of sentiment. -/
  | sentiment

/-- Reads the name of a source. -/
def Origin.read (d : Draft) : Except Fault Origin := do
  match ← Codec.text.read d with
  | "reddit" => return .reddit
  | "sentiment" => return .sentiment
  | _ => .error .mismatch

/-- Reads the fields of a post from a value. -/
def readFields (j : Json) : Origin → Except Fault SourcePost
  | .reddit => (RedditSubmission.codec.decode j).map .reddit
  | .sentiment => (AnalysedDocument.codec.decode j).map .sentiment

/-- The levels of nesting below a post. -/
def roomBelow : Nat := 126

/-- Splits the members of an object into the source and the others, which are kept. -/
def splitMembers (cut : Option Fault) (origin : Option Origin) :
    List (Json.Label × Draft) → Except Fault (Origin × List (String × Json))
  | [] => do
      raise cut
      match origin with
      | some o => return (o, [])
      | none => .error .mismatch
  | (label, d) :: ms => do
      let name ← label.name
      if name = "source" then
        if origin.isSome then .error .mismatch
        else
          let o ← Origin.read d
          splitMembers cut (some o) ms
      else
        let j ← d.keep roomBelow
        let (o, kept) ← splitMembers cut origin ms
        return (o, (name, j) :: kept)

/-- Reads a post of a source from a draft. -/
def read : Draft → Except Fault SourcePost
  | .object members cut => do
      let (o, kept) ← splitMembers cut none members
      readFields (.object kept) o
  | .array items cut _ =>
      match items with
      | [] => do
          raise cut
          .error .mismatch
      | d :: ds => do
          let o ← Origin.read d
          let kept ← Draft.keepItems roomBelow ds
          raise cut
          readFields (.array kept) o
  | d => d.wrongKind

/-- Reads a post of a source from a text. -/
def ofText (s : String) : Except Fault SourcePost := do
  let (d, more) := Draft.ofText s
  let r ← read d
  if more then .error .malformed else return r

/-- Values of any kind, below a list. -/
def anyValue : Codec Json where
  write j := j
  read d := (d.keep roomBelow).map Json.canonical

/-- What is said of a text that is no list. -/
def listMessage : String := "Payload de posts não é uma lista JSON"

/-- Reads a list of posts from a text. -/
def readMany (s : String) : Except Fault (List SourcePost) := do
  let items ← (Codec.list anyValue).decodeText s
  return items.filterMap fun j => (read j.draft).toOption

end SourcePost

end KnowledgeGraph
