import IndexExport.Log.Logger
import IndexExport.Main
import IndexExport.Proofs.Export.Asking
import IndexExport.Proofs.Export.Completeness
import IndexExport.Proofs.Export.Ending
import IndexExport.Proofs.Export.Failures
import IndexExport.Proofs.Export.Orbits
import IndexExport.Proofs.Filter.Modes
import IndexExport.Proofs.Filter.Unambiguous
import IndexExport.Proofs.Filter.Balance
import IndexExport.Proofs.Filter.Nesting
import IndexExport.Proofs.Filter.Dates
import IndexExport.Proofs.Filter.Midnight
import IndexExport.Proofs.Filter.Documents
import IndexExport.Proofs.Json.Reading
import IndexExport.Proofs.Json.Records
import IndexExport.Proofs.Csv.Reading
import IndexExport.Proofs.Page.ReadBack
import IndexExport.Proofs.Select.Address
import IndexExport.Proofs.Url.Path
import IndexExport.Proofs.Storage.Directories
import IndexExport.Proofs.Session.SetUp
import IndexExport.Proofs.Session.Query
import IndexExport.Proofs.Select.Handler
import IndexExport.Proofs.Select.LookingUp
import IndexExport.Proofs.Page.Embedded
import IndexExport.Proofs.Filter.Respelling
import IndexExport.Proofs.Text.Cleaning
import IndexExport.Proofs.Export.CursorHistory
import IndexExport.Proofs.Export.Refusals
import IndexExport.Proofs.Log.Lines
