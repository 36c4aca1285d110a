import Sentinel.Alert.Admission
import Sentinel.Alert.Consumer
import Sentinel.Alert.DispatchOutcome
import Sentinel.Alert.Dispatcher
import Sentinel.Alert.Fleet
import Sentinel.Alert.Progress
import Sentinel.Alert.Redis
import Sentinel.Alert.Webhook
import Sentinel.Analytics.Accounting
import Sentinel.Analytics.Acknowledgement
import Sentinel.Analytics.BatchEngine
import Sentinel.Analytics.BatchSlices
import Sentinel.Analytics.Callers
import Sentinel.Analytics.Consumer
import Sentinel.Analytics.DoneChannels
import Sentinel.Analytics.Event
import Sentinel.Analytics.LiveStream
import Sentinel.Analytics.Operation
import Sentinel.Analytics.Progress
import Sentinel.Analytics.Queries
import Sentinel.Analytics.Shutdown
import Sentinel.Analytics.WebSocket
import Sentinel.Auth.ClientIP
import Sentinel.Auth.Concurrency
import Sentinel.Auth.Domain
import Sentinel.Auth.Enumeration
import Sentinel.Auth.EventProducer
import Sentinel.Auth.Lockout
import Sentinel.Auth.Onboarding
import Sentinel.Auth.Provenance
import Sentinel.Auth.Registration
import Sentinel.Auth.Repository
import Sentinel.Auth.ReuseDetection
import Sentinel.Auth.Revocation
import Sentinel.Auth.Rotation
import Sentinel.Auth.Service
import Sentinel.Auth.SessionTable
import Sentinel.Auth.SingleUse
import Sentinel.Auth.Token
import Sentinel.Auth.TokenSpelling
import Sentinel.Dashboard.Connection
import Sentinel.Dashboard.LiveEvents
import Sentinel.Dashboard.PasswordPolicy
import Sentinel.Dashboard.Refresh
import Sentinel.Deployment.Authority
import Sentinel.Deployment.EventContract
import Sentinel.Deployment.KeyRotation
import Sentinel.Deployment.PasswordGates
import Sentinel.Deployment.Redelivery
import Sentinel.Deployment.SharedRedis
import Sentinel.Deployment.Verifiers
import Sentinel.Gateway.Exposition
import Sentinel.Gateway.KeyPoller
import Sentinel.Gateway.Metrics
import Sentinel.Gateway.RateLimit
import Sentinel.Gateway.Refusals
import Sentinel.Gateway.RequestMetrics
import Sentinel.Gateway.ReverseProxy
import Sentinel.Gateway.Routes
import Sentinel.Gateway.SlidingWindow
import Sentinel.Gateway.VerifyJWT
import Sentinel.Postgres.Table
import Sentinel.Redis.ScoredSet
import Sentinel.Redis.SlidingCounter
import Sentinel.Redis.SortedSet
import Sentinel.Redis.UniqueRecord
import Sentinel.Redis.UniqueSet
import Sentinel.Risk.AcceptedRules
import Sentinel.Risk.AddressView
import Sentinel.Risk.Aggregator
import Sentinel.Risk.AuthEventConsumer
import Sentinel.Risk.Decisions
import Sentinel.Risk.Explanation
import Sentinel.Risk.Extractor
import Sentinel.Risk.FeatureStore
import Sentinel.Risk.Features
import Sentinel.Risk.IPCache
import Sentinel.Risk.IPIntelligence
import Sentinel.Risk.Lifespan
import Sentinel.Risk.ModelReload
import Sentinel.Risk.Producer
import Sentinel.Risk.RuleCache
import Sentinel.Risk.RuleMutations
import Sentinel.Risk.RuleResponses
import Sentinel.Risk.RuleSets
import Sentinel.Risk.RulesEngine
import Sentinel.Risk.RulesOnly
import Sentinel.Risk.RulesRepo
import Sentinel.Risk.SeedRules
import Sentinel.Risk.TrainingData
import Sentinel.Risk.UniqueCount
import Sentinel.Risk.Velocity
import Sentinel.Risk.VelocityCount
import Sentinel.Risk.Verdict
import Sentinel.Risk.Writers
import Sentinel.Semantics.Behavior
import Sentinel.Semantics.CellMap
import Sentinel.Semantics.Channel
import Sentinel.Semantics.CommitLog
import Sentinel.Semantics.Expiring
import Sentinel.Semantics.ExpressionTree
import Sentinel.Semantics.Machine
import Sentinel.Semantics.Ownership
import Sentinel.Semantics.Projection
import Sentinel.Semantics.Quota
import Sentinel.Semantics.Recency
import Sentinel.Semantics.Recording
import Sentinel.Semantics.Rollup
import Sentinel.Semantics.Tally
import Sentinel.Semantics.TimeWindow
import Sentinel.Semantics.TimedObject
import Sentinel.Wire.Base64
import Sentinel.Wire.Float64
import Sentinel.Wire.Http
import Sentinel.Wire.IpAddress
import Sentinel.Wire.Json
import Sentinel.Wire.JsonKeys
import Sentinel.Wire.JsonSchema
import Sentinel.Wire.Python
import Sentinel.Wire.PythonParsers
import Sentinel.Wire.PythonStr
import Sentinel.Wire.Uuid
