import Fms.Relation.Table
import Fms.Relation.Run
import Fms.Relation.Newest
import Fms.Relation.Window
import Fms.Sql.Lexer
import Fms.Sql.Condition
import Fms.Sql.Splice
import Fms.Poco.Text
import Fms.Poco.TextLaws
import Fms.Poco.Json
import Fms.Nlohmann.Json
import Fms.Storage.Orm
import Fms.Storage.Records
import Fms.Catalogue.LatestCache
import Fms.Manifest.Bucket
import Fms.Manifest.BucketLaws
import Fms.Manifest.Creator
import Fms.Manifest.Compute
import Fms.Manifest.AgeLimits
import Fms.Manifest.Reconcile
import Fms.Manifest.Refresh
import Fms.Manifest.Provenance
import Fms.Manifest.ListingOrder
import Fms.Manifest.StagingReleases
import Fms.Manifest.UpdateTask
import Fms.Catalogue.FirmwaresDb
import Fms.Catalogue.FirmwaresLaws
import Fms.Catalogue.FailedAddition
import Fms.Catalogue.LatestFlag
import Fms.Catalogue.CacheCoherence
import Fms.Catalogue.LatestMaximum
import Fms.Catalogue.Ages
import Fms.Devices.DevicesDb
import Fms.Storage.Statements
import Fms.Devices.History
import Fms.Devices.LastReports
import Fms.Framework.Request
import Fms.Upgrade.AutoUpdater
import Fms.Upgrade.Actions
import Fms.Upgrade.Sending
import Fms.Upgrade.Refusal
import Fms.Upgrade.Throttle
import Fms.Upgrade.ReleaseCandidates
import Fms.Devices.Reports
import Fms.Devices.ReportKinds
import Fms.Framework.FieldFromJson
import Fms.Framework.Decoding
import Fms.Security.Objects
import Fms.Security.AuthClient
import Fms.Security.Expiry
import Fms.Security.Documents
import Fms.Security.Revalidation
import Fms.Security.TokenKinds
import Fms.Devices.DeviceInformation
import Fms.Devices.Commands
import Fms.Devices.Deletion
import Fms.Devices.OutdatedReports
import Fms.Manifest.Idempotence
import Fms.Relation.Interleaving
import Fms.Devices.Orphans
import Fms.Catalogue.Concurrency
import Fms.Security.Revocation
import Fms.Framework.MicroService
import Fms.Devices.Redelivery
import Fms.Framework.Failover
import Fms.Relation.Delivery
import Fms.Sql.OddQuotes
import Fms.Devices.DeviceReport
import Fms.Devices.AgeZero
import Fms.Relation.Paging
import Fms.Storage.Paging
import Fms.Relation.Tally
import Fms.Framework.FieldToJson
import Fms.Storage.Objects
import Fms.Storage.Convert
import Fms.Framework.Base64
import Fms.Framework.AcceptedBase64
import Fms.Relation.Sextets
import Fms.Framework.AppServiceRegistry
import Fms.Sql.Escaping
import Fms.Storage.Clauses
import Fms.Devices.Overtaking
import Fms.Framework.RateLimiter
import Fms.Framework.Answers
import Fms.Rest.Deletions
import Fms.Devices.PartialFailure
import Fms.Rest.FirmwareHandler
import Fms.Rest.MalformedDocuments
import Fms.Rest.FirmwareEdits
import Fms.Relation.PageOrders
import Fms.Sql.Select
import Fms.Storage.PageQueries
import Fms.Devices.CurrentFirmwares
import Fms.Sql.Unquoted
import Fms.Rest.FirmwaresHandler
import Fms.Rest.FirmwareLookups
import Fms.Rest.SelectedAges
import Fms.Relation.Numerals
import Fms.Framework.Numbers
import Fms.Framework.SerialNumbers
import Fms.Framework.QueryParameters
import Fms.Relation.Writes
import Fms.Framework.Routing
import Fms.Relation.Brackets
import Fms.Storage.ConditionBuilder
import Fms.Storage.Creation
import Fms.Storage.OrderBy
import Fms.Sql.Ddl
import Fms.Storage.CreateStatements
import Fms.Sql.Scanner
import Fms.Storage.ConvertParams
import Fms.Relation.Wildcards
import Fms.Framework.WildcardMatch
import Fms.Framework.WildcardAttempts
import Fms.Framework.WildcardDivisions
import Fms.Relation.LeadingBits
import Fms.Poco.Net
import Fms.Framework.Cidr
import Fms.Framework.CidrLaws
import Fms.Relation.Searches
import Fms.Framework.CidrRanges
import Fms.Framework.CompressedStrings
import Fms.Framework.Decompression
import Fms.Framework.Notifications
import Fms.Framework.NumberPatterns
import Fms.Framework.Fifo
import Fms.Relation.Ring
import Fms.Framework.ValidSerials
import Fms.Framework.WebSocketServer
import Fms.Framework.WebSocketSessions
import Fms.Upgrade.NewestImage
import Fms.Framework.RequestHandler
import Fms.Framework.Mediation
import Fms.Relation.Broadcast
import Fms.Framework.EventBusManager
import Fms.Framework.Peers
import Fms.Devices.Dashboard
import Fms.Framework.SubSystems
import Fms.Rest.FmsObjects
import Fms.Rest.Router
import Fms.Rest.RestService
import Fms.Rest.Attribution
