import SqlSchema.Main
import SqlSchema.Proofs.AcceptedTypes
import SqlSchema.Proofs.Brackets
import SqlSchema.Proofs.CaseInsensitivity
import SqlSchema.Proofs.ChainEnds
import SqlSchema.Proofs.Composition
import SqlSchema.Proofs.Context
import SqlSchema.Proofs.ConvertedColumns
import SqlSchema.Proofs.Declaration.Table
import SqlSchema.Proofs.DeclaredKey
import SqlSchema.Proofs.Division
import SqlSchema.Proofs.Document
import SqlSchema.Proofs.DocumentPaths
import SqlSchema.Proofs.ElementEnds
import SqlSchema.Proofs.EntityCode
import SqlSchema.Proofs.Expansion
import SqlSchema.Proofs.Generation
import SqlSchema.Proofs.Header
import SqlSchema.Proofs.IdColumn
import SqlSchema.Proofs.KeyRuns
import SqlSchema.Proofs.Loading
import SqlSchema.Proofs.Nesting.Script
import SqlSchema.Proofs.Notices
import SqlSchema.Proofs.PassedOver
import SqlSchema.Proofs.Progress.Script
import SqlSchema.Proofs.Refusal
import SqlSchema.Proofs.ScanLines
import SqlSchema.Proofs.Search
import SqlSchema.Proofs.Spacing
import SqlSchema.Proofs.StoredTable
import SqlSchema.Proofs.TypeGroup
import SqlSchema.Proofs.TypeOverrides
import SqlSchema.Proofs.Words
