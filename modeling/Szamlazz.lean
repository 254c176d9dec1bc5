import Szamlazz.Lib.Exchange
import Szamlazz.Lib.Text
import Szamlazz.Lib.Lexical
import Szamlazz.Lib.Xml
import Szamlazz.Agent.Error
import Szamlazz.Agent.Types
import Szamlazz.Lib.FixedPoint
import Szamlazz.Lib.Machine
import Szamlazz.Agent.Decimal
import Szamlazz.Lib.Digits
import Szamlazz.Agent.Number
import Szamlazz.Agent.RustDecimal
import Szamlazz.Agent.Numeral
import Szamlazz.Agent.Item
import Szamlazz.Agent.Invoice
import Szamlazz.Agent.Receipt
import Szamlazz.Agent.Schema
import Szamlazz.Agent.Conformance
import Szamlazz.Agent.Operations
import Szamlazz.Agent.Envelope
import Szamlazz.Agent.Reply
import Szamlazz.Account
import Szamlazz.Identity
import Szamlazz.Service.Fault
import Szamlazz.Gateway.Document
import Szamlazz.Contract.Recovery
import Szamlazz.Gateway.Outcome
import Szamlazz.Gateway.Query
import Szamlazz.Gateway.Transcript
import Szamlazz.Gateway.Reconcile
import Szamlazz.Gateway.Create
import Szamlazz.Gateway.ReplayCreate
import Szamlazz.Gateway.Origin
import Szamlazz.Gateway.Storno
import Szamlazz.Gateway.UnmanagedStorno
import Szamlazz.Gateway.Redaction
import Szamlazz.Push.Fanout
import Szamlazz.Push.Receiver
import Szamlazz.Gateway.Delete
import Szamlazz.Lib.Durable
import Szamlazz.Lib.DurableLogic
import Szamlazz.Lib.DurableRun
import Szamlazz.Lib.DurablePlay
import Szamlazz.Lib.Json
import Szamlazz.Lib.JsonValue
import Szamlazz.Contract.Marker
import Szamlazz.Contract.Document
import Szamlazz.Contract.Money
import Szamlazz.Contract.Balance
import Szamlazz.Gateway.Build
import Szamlazz.Contract.Order
import Szamlazz.Contract.CreateView
import Szamlazz.Contract.Observation
import Szamlazz.Service.Runtime
import Szamlazz.Service.Prologue
import Szamlazz.Service.Write
import Szamlazz.Service.Recovery
import Szamlazz.Service.Observe
import Szamlazz.Service.Storno
import Szamlazz.Service.Answers
import Szamlazz.Service.Create
import Szamlazz.Service.CreateAnswer
import Szamlazz.Service.Correction
import Szamlazz.Service.Attempts
import Szamlazz.Service.StornoByNumber
import Szamlazz.Lib.Utf8
import Szamlazz.Lib.Urlencoded
import Szamlazz.Ipn.Amount
import Szamlazz.Ipn.Notification
import Szamlazz.Lib.Noninterference
import Szamlazz.Lib.Multipart
import Szamlazz.Agent.Wire
import Szamlazz.Lib.ObjectStore
import Szamlazz.Lib.Shelf
import Szamlazz.Push.Archiver
import Szamlazz.Push.Versions
import Szamlazz.Push.Sources
import Szamlazz.Lib.Markup
import Szamlazz.Agent.NamespaceReader
import Szamlazz.Agent.ProtocolText
import Szamlazz.Lib.Paths
import Szamlazz.Agent.ResponseRoot
import Szamlazz.Agent.Taxpayer
import Szamlazz.Agent.TaxpayerTree
import Szamlazz.Agent.TaxpayerPaths
import Szamlazz.Agent.TaxpayerRecord
import Szamlazz.Agent.TaxpayerGathered
import Szamlazz.Agent.TaxpayerExtract
import Szamlazz.Agent.TaxpayerPruned
import Szamlazz.Agent.TaxpayerReply
import Szamlazz.Ipn.JsonAmount
import Szamlazz.Lib.Regex
import Szamlazz.Lib.JsonSchema
import Szamlazz.Contract.Schemas
import Szamlazz.Lib.XmlReader
import Szamlazz.Agent.Requests
import Szamlazz.WireText
import Szamlazz.Lib.DurableRules
import Szamlazz.Lib.DurableOutlived
import Szamlazz.Lib.DurablePath
import Szamlazz.Service.Delete
import Szamlazz.Service.Legible
import Szamlazz.Service.Admission
import Szamlazz.Service.WriteRules
import Szamlazz.Service.OrderObject
import Szamlazz.Service.OneSend
import Szamlazz.Service.OrderPath
import Szamlazz.Service.OrderSafety
import Szamlazz.Service.OrderRuns
import Szamlazz.Service.OrderSurvivors
import Szamlazz.Gateway.Frozen
import Szamlazz.Service.Frozen
import Szamlazz.Service.FrozenReads
import Szamlazz.Service.Agreement
import Szamlazz.Service.Vendor
import Szamlazz.Service.Billing
import Szamlazz.Lib.Doctype
import Szamlazz.Push.Doctype
import Szamlazz.Push.ContentModel
import Szamlazz.Push.Declaration
import Szamlazz.Push.Prolog
