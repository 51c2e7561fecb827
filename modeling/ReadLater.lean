import ReadLater.Bulk.Apply
import ReadLater.Command.Run
import ReadLater.Config.File
import ReadLater.Main
import ReadLater.Query.Json
import ReadLater.Proofs.Numbering
import ReadLater.Proofs.Reference
import ReadLater.Proofs.Contribution
import ReadLater.Proofs.Compilation
import ReadLater.Proofs.Meaning
import ReadLater.Proofs.BulkWrite
import ReadLater.Proofs.Decimal
import ReadLater.Proofs.Paging
import ReadLater.Proofs.Preview
import ReadLater.Proofs.Doubles
import ReadLater.Proofs.Typing
import ReadLater.Proofs.FieldTyping
import ReadLater.Proofs.Totality
import ReadLater.Proofs.SortOrder
import ReadLater.Proofs.PageRuns
import ReadLater.Proofs.Erasure
import ReadLater.Proofs.Noninterference
import ReadLater.Proofs.Identifiers
import ReadLater.Proofs.SqlTokens
import ReadLater.Proofs.SqlReader
import ReadLater.Proofs.SqlAtoms
import ReadLater.Proofs.SqlPredicates
import ReadLater.Proofs.SqlRoundTrip
import ReadLater.Proofs.Grammar
import ReadLater.Proofs.Leaves
import ReadLater.Proofs.SharedParameters
import ReadLater.Proofs.LeafOrder
import ReadLater.Proofs.RankOrder
import ReadLater.Proofs.Ties
import ReadLater.Proofs.WrittenQueries
import ReadLater.Proofs.BulkRuns
import ReadLater.Proofs.Lifecycle
import ReadLater.Proofs.OwnItems
import ReadLater.Proofs.Retention
import ReadLater.Proofs.LabelLinks
import ReadLater.Proofs.LabelNames
import ReadLater.Proofs.Sessions
import ReadLater.Proofs.Interleaving
import ReadLater.Proofs.RepeatedLabels
import ReadLater.Proofs.DryRuns
import ReadLater.Proofs.Folders
import ReadLater.Proofs.BareWords
import ReadLater.Proofs.Snapshots
import ReadLater.Proofs.QueryJson
import ReadLater.Proofs.Wildcards
import ReadLater.Proofs.RequiredTags
import ReadLater.Proofs.TextTags
import ReadLater.Proofs.Excerpts
import ReadLater.Proofs.TextQueries
import ReadLater.Proofs.QuotedPhrases
import ReadLater.Proofs.Presence
import ReadLater.Proofs.WordCounts
import ReadLater.Proofs.RelativePeriods
import ReadLater.Proofs.DateRanges
import ReadLater.Proofs.SelectedRows
import ReadLater.Proofs.FirstErrors
import ReadLater.Proofs.Faults
import ReadLater.Proofs.RejectedQueries
import ReadLater.Proofs.SilentTags
import ReadLater.Proofs.FolderScope
import ReadLater.Proofs.SyntaxErrors
import ReadLater.Proofs.TableCells
