import KnowledgeGraph.Graph.OfCorpus
import KnowledgeGraph.Graph.Document
import KnowledgeGraph.Graph.Wording
import KnowledgeGraph.Graph.Topic
import KnowledgeGraph.Proofs.Graph.Properties
import KnowledgeGraph.Proofs.Graph.Lookup
import KnowledgeGraph.Proofs.Graph.WellFormed
import KnowledgeGraph.Proofs.Graph.Parts
import KnowledgeGraph.Proofs.Graph.Corpus
import KnowledgeGraph.Proofs.Identity
import KnowledgeGraph.Proofs.Keyword.Collection
import KnowledgeGraph.Proofs.Keyword.Nodes
import KnowledgeGraph.Proofs.Keyword.Statistics
import KnowledgeGraph.Proofs.Keyword.Weighting
import KnowledgeGraph.Proofs.Time.Calendar
import KnowledgeGraph.Proofs.Time.Instant
import KnowledgeGraph.Proofs.Text.NormalTwice
import KnowledgeGraph.Proofs.Time.Written
import KnowledgeGraph.Proofs.Graph.Topic
import KnowledgeGraph.Proofs.Graph.PostNodes
import KnowledgeGraph.Proofs.Graph.TopicPeriod
import KnowledgeGraph.Proofs.Keyword.GraphCounts
import KnowledgeGraph.Proofs.Graph.Append
import KnowledgeGraph.Proofs.Graph.ContentNames
import KnowledgeGraph.Proofs.Graph.Reordering
import KnowledgeGraph.Proofs.Graph.Report
import KnowledgeGraph.Proofs.Graph.TopicReport
import KnowledgeGraph.Proofs.Graph.Steps
import KnowledgeGraph.Proofs.Graph.Neighbors
import KnowledgeGraph.Proofs.Graph.Neighborhood
import KnowledgeGraph.Proofs.Graph.TopicNesting
import KnowledgeGraph.Proofs.Graph.StatementEnds
import KnowledgeGraph.Proofs.Graph.Spellings
import KnowledgeGraph.Proofs.Graph.RejectedInput
import KnowledgeGraph.Proofs.Graph.BuiltGraphs
import KnowledgeGraph.Proofs.Graph.EmptyNames
import KnowledgeGraph.Proofs.Record.ListedPost
import KnowledgeGraph.Proofs.Record.ReadBack
import KnowledgeGraph.Proofs.Keyword.Pairs
import KnowledgeGraph.Proofs.Keyword.EmptyKeywords
import KnowledgeGraph.Proofs.Relation.Verb
import KnowledgeGraph.Proofs.Time.WrittenOrder
import KnowledgeGraph.Proofs.Time.Forms
import KnowledgeGraph.Proofs.Time.Age
import KnowledgeGraph.Proofs.Graph.Union
import KnowledgeGraph.Proofs.Graph.SettingsInUse
import KnowledgeGraph.Proofs.Graph.KeyPoints
import KnowledgeGraph.Proofs.Keyword.FromText
