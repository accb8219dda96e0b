import DbFree.TemplateContexts
import DbFree.MysqlComments
import DbFree.QueryRuns
import DbFree.KeyAgreement
import DbFree.OneSession
import DbFree.SessionLoss
import DbFree.CommitAtomicity
import DbFree.CsvRoundTrip
import DbFree.ImportScan
import DbFree.HazardSoundness
import DbFree.SplitterChunks
import DbFree.StagedEdits
import DbFree.PaneRuns
import DbFree.ViewAgreement
import DbFree.RunAgreement
import DbFree.TranscriptRuns
import DbFree.Approvals
import DbFree.VersionRuns
import DbFree.QldbSessions
import DbFree.MemcachedRuns
import DbFree.LibraryRuns
import DbFree.WorkflowReports
import DbFree.WorkflowRepeats
import DbFree.JsonExportReads
import DbFree.ExportPaging
import DbFree.DiagramNames
import DbFree.FullJoin
import DbFree.TableCopies
import DbFree.DefaultTexts
import DbFree.TypeSurvival
import DbFree.WorkflowLeaves
import DbFree.SchemaKeys
import DbFree.ClientSorting
import DbFree.FilterAgreement
import DbFree.RedisCommands
import DbFree.UnionRows
import DbFree.PrettyJson
import DbFree.DesignerRuns
import DbFree.NextFires
import DbFree.FilterExprRound
import DbFree.CopiedCells
import DbFree.WorkflowLogins
import DbFree.ProposalUpdates
import DbFree.HttpTargets
import DbFree.DashboardRuns
