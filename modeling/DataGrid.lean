import DataGrid.Settings.Codec
import DataGrid.Settings.File
import DataGrid.Table.Codec
import DataGrid.Description.Table
import DataGrid.Description.Filter
import DataGrid.Entity.Codec
import DataGrid.View.Actor
import DataGrid.View.OrgUnit
import DataGrid.View.Portfolio
import DataGrid.View.PortfolioType
import DataGrid.View.PurchaseOrder
import DataGrid.View.LineItem
import DataGrid.View.Stakeholder
import DataGrid.View.EntryFilter
import DataGrid.Proofs.Attribute.Basic
import DataGrid.Proofs.Formatter.Skeleton
import DataGrid.Proofs.Filter.Mandatory
import DataGrid.Proofs.Filter.PostQuery
import DataGrid.Proofs.Filter.RoundTrip
import DataGrid.Proofs.Numeric.Rounding
import DataGrid.Proofs.Numeric.Sum
import DataGrid.Proofs.Table.RowAction
import DataGrid.Proofs.View.EntryColumns
import DataGrid.Proofs.View.LineOrder
import DataGrid.Proofs.Json.FreeValue
import DataGrid.Proofs.Numeric.DecimalText
import DataGrid.Proofs.Calendar.Text
import DataGrid.Proofs.Value.Codec
import DataGrid.Proofs.View.EntryFilter
import DataGrid.Proofs.Attribute.Keys
import DataGrid.Proofs.View.AttributeKeys
import DataGrid.Proofs.Table.Grid
import DataGrid.Proofs.Filter.DefaultState
import DataGrid.Proofs.Table.Hiding
import DataGrid.Proofs.Numeric.Difference
import DataGrid.Proofs.View.Rows
import DataGrid.Proofs.Table.Agreement
import DataGrid.Proofs.View.AttributeCells
import DataGrid.Proofs.Formatter.Confirmation
import DataGrid.Proofs.View.MessageText
import DataGrid.Proofs.View.OwnLinks
import DataGrid.Proofs.Message.Substitution
import DataGrid.Proofs.Filter.Descriptor
import DataGrid.Proofs.Formatter.Number
import DataGrid.Proofs.Filter.Building
import DataGrid.Proofs.Table.Building
import DataGrid.Proofs.Filter.Narrowing
import DataGrid.Proofs.Markup.ScriptString
import DataGrid.Proofs.Markup.WrittenForm
import DataGrid.Proofs.View.MilestoneOrder
import DataGrid.Proofs.Formatter.NumberText
import DataGrid.Proofs.View.ExactAmounts
import DataGrid.Proofs.View.EntryReferences
import DataGrid.Proofs.View.MilestoneFilter
import DataGrid.Proofs.Formatter.PromptCall
import DataGrid.Proofs.Formatter.Blank
import DataGrid.Proofs.View.ActionLinks
import DataGrid.Proofs.Entity.Routes
import DataGrid.Proofs.View.DisabledColumns
import DataGrid.Proofs.Formatter.ListText
