import Issuance.Assoc
import Issuance.Attendance
import Issuance.Batch.Attempt
import Issuance.Batch.Outcome
import Issuance.Batch.Run
import Issuance.Batch.Selection
import Issuance.Calendar
import Issuance.Canvas.Basic
import Issuance.Canvas.Drawing
import Issuance.Canvas.Validation
import Issuance.Catalog
import Issuance.Certificate.Lookup
import Issuance.Certificate.Values
import Issuance.Certificate.View
import Issuance.Code
import Issuance.Command
import Issuance.Content
import Issuance.Decimal.Double
import Issuance.Decimal.Number
import Issuance.Decimal.Shortest
import Issuance.Deck.Basic
import Issuance.Deck.Fill
import Issuance.Distinct
import Issuance.Error
import Issuance.Field
import Issuance.Json.Basic
import Issuance.Json.Integer
import Issuance.Json.Reader
import Issuance.Ledger
import Issuance.Mail.Delivery
import Issuance.Mail.Notice
import Issuance.Mail.Recipients
import Issuance.Mail.Wording
import Issuance.Main
import Issuance.Office
import Issuance.Picture.Colour
import Issuance.Picture.ColourNames
import Issuance.Picture.Raster
import Issuance.Picture.Symbol
import Issuance.Placeholder
import Issuance.Purge
import Issuance.Settings
import Issuance.Storage.Disk
import Issuance.Storage.Fault
import Issuance.Storage.Path
import Issuance.Storage.Vault
import Issuance.Storage.Volume
import Issuance.Storage.Writing
import Issuance.Template.Ingest
import Issuance.Template.Mapping
import Issuance.Template.Removal
import Issuance.Template.Source
import Issuance.Template.Upload
import Issuance.Text.AsciiTable
import Issuance.Text.Blank
import Issuance.Text.Case
import Issuance.Text.CaseTable
import Issuance.Text.FileName
import Issuance.Text.Integer
import Issuance.Text.PrintableTable
import Issuance.Text.Quoted
import Issuance.Web.Request
import Issuance.Web.Service
import Issuance.Proofs.Distinct
import Issuance.Proofs.Placeholders
import Issuance.Proofs.Decks
import Issuance.Proofs.Canvas.Painting
import Issuance.Proofs.Canvas.Reading
import Issuance.Proofs.Text.Pieces
import Issuance.Proofs.Storage.Keys
import Issuance.Proofs.Storage.Volumes
import Issuance.Proofs.Storage.Vaults
import Issuance.Proofs.Storage.Listings
import Issuance.Proofs.Values
import Issuance.Proofs.Work
import Issuance.Proofs.Ledger
import Issuance.Proofs.Codes
import Issuance.Proofs.Office
import Issuance.Proofs.Batch.Steps
import Issuance.Proofs.Template.Drawing
import Issuance.Proofs.Batch.Alone
import Issuance.Proofs.Batch.Turns
import Issuance.Proofs.Template.Uploads
import Issuance.Proofs.Template.Mappings
import Issuance.Proofs.Purge
import Issuance.Proofs.Mail
import Issuance.Proofs.Batch.Runs
import Issuance.Proofs.Batch.Selection
import Issuance.Proofs.Batch.Report
import Issuance.Proofs.Race.Runners
import Issuance.Proofs.Race.Steps
import Issuance.Proofs.Race.Claims
import Issuance.Proofs.Race.Safety
import Issuance.Proofs.History
import Issuance.Proofs.Durability
import Issuance.Proofs.Upkeep
import Issuance.Proofs.Readiness
import Issuance.Proofs.Serials
import Issuance.Proofs.Template.Removal
import Issuance.Proofs.Template.Records
import Issuance.Proofs.Orphans
import Issuance.Proofs.Storage.Filling
import Issuance.Proofs.Batch.Production
import Issuance.Proofs.Batch.Independence
import Issuance.Proofs.Results
import Issuance.Proofs.Text.Letters
import Issuance.Proofs.Certificate.Lookup
import Issuance.Proofs.Deck.Filling
import Issuance.Proofs.Canvas.Assets
import Issuance.Proofs.Template.Changes
import Issuance.Proofs.Template.Creation
import Issuance.Proofs.Template.Calls
import Issuance.Proofs.Template.Canvases
import Issuance.Proofs.Batch.Refusals
import Issuance.Proofs.Batch.Holders
import Issuance.Proofs.Template.Leftovers
import Issuance.Proofs.Canvas.Faults
import Issuance.Proofs.Template.Faults
import Issuance.Proofs.Placeholder.Boundaries
import Issuance.Proofs.Deck.Runs
import Issuance.Proofs.Storage.Records
import Issuance.Proofs.Mail.Isolation
import Issuance.Proofs.Web.Answers
import Issuance.Proofs.Placeholder.Decomposition
import Issuance.Proofs.Placeholder.Extraction
import Issuance.Proofs.Batch.Roster
import Issuance.Proofs.Canvas.Rendering
import Issuance.Proofs.Batch.Draws
import Issuance.Proofs.Mail.Handover
import Issuance.Proofs.Storage.Writing
import Issuance.Proofs.Storage.Fallback
import Issuance.Proofs.Storage.RealPaths
import Issuance.Proofs.Storage.Effects
import Issuance.Proofs.Storage.Confinement
import Issuance.Proofs.Storage.Views
import Issuance.Proofs.Rows
import Issuance.Proofs.Attendance
import Issuance.Proofs.Storage.Presence
import Issuance.Proofs.Mail.Marks
import Issuance.Proofs.Canvas.Acceptance
import Issuance.Proofs.Text.Recasing
import Issuance.Proofs.Mail.Recipients
