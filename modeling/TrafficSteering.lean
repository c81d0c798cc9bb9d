import TrafficSteering.Text.Blank
import TrafficSteering.Main
import TrafficSteering.Json.Printer
import TrafficSteering.Json.Reader
import TrafficSteering.Memory
import TrafficSteering.Rest
import TrafficSteering.Engine.Hooks
import TrafficSteering.Engine.Unsupported
import TrafficSteering.Yaml.Record
import TrafficSteering.Proofs.Engine.Pairing
import TrafficSteering.Proofs.Engine.InstallRetries
import TrafficSteering.Proofs.Service.Exchanges
import TrafficSteering.Proofs.Engine.PartialErrors
import TrafficSteering.Proofs.Resource.Mixed
import TrafficSteering.Proofs.Service.Stock
import TrafficSteering.Proofs.Engine.Reporting
import TrafficSteering.Proofs.Engine.HookRemoval
import TrafficSteering.Proofs.Engine.HookReading
import TrafficSteering.Proofs.Engine.PairStages
import TrafficSteering.Proofs.Engine.Attachments
import TrafficSteering.Proofs.Engine.Ownership
import TrafficSteering.Proofs.Net.Endpoints
import TrafficSteering.Proofs.Rest.Peers
import TrafficSteering.Proofs.Engine.Mentions
import TrafficSteering.Proofs.Rest.Agreement
import TrafficSteering.Proofs.Service.Arrivals
import TrafficSteering.Proofs.Service.Catalogue
import TrafficSteering.Proofs.Net.Segments
import TrafficSteering.Proofs.Rest.Tokens
import TrafficSteering.Proofs.Rest.Targets
import TrafficSteering.Proofs.Resource.Codecs
import TrafficSteering.Proofs.Engine.Arguments
import TrafficSteering.Proofs.Engine.Withdrawal
import TrafficSteering.Proofs.Engine.Regrouping
import TrafficSteering.Proofs.Engine.HookMoves
import TrafficSteering.Proofs.Engine.HookReports
import TrafficSteering.Proofs.Engine.StaleTags
import TrafficSteering.Proofs.Engine.Searches
import TrafficSteering.Proofs.Service.Schedules
import TrafficSteering.Proofs.Service.Filters
import TrafficSteering.Proofs.Service.Bodies
import TrafficSteering.Proofs.Engine.TreeReading
