import MessagingPlatform.Core.Program
import MessagingPlatform.Core.Interleaving
import MessagingPlatform.Core.Freshness
import MessagingPlatform.Core.Sequential
import MessagingPlatform.Core.Relational
import MessagingPlatform.Core.FixedWindow
import MessagingPlatform.Core.NestedMap
import MessagingPlatform.Core.Decimal
import MessagingPlatform.Core.JsonStrings
import MessagingPlatform.Core.JsonText
import MessagingPlatform.Core.JsonFields
import MessagingPlatform.Protocol.Frames
import MessagingPlatform.Domain.Instants
import MessagingPlatform.Domain.Timestamps
import MessagingPlatform.Domain.Calendar
import MessagingPlatform.Domain.TimestampOrder
import MessagingPlatform.Domain.Errors
import MessagingPlatform.Domain.Identifiers
import MessagingPlatform.Domain.ValueObjects
import MessagingPlatform.Config.Settings
import MessagingPlatform.Errmap.Mappers
import MessagingPlatform.Errmap.Agreement
import MessagingPlatform.App.Records
import MessagingPlatform.Auth.Primitives
import MessagingPlatform.Auth.Parser
import MessagingPlatform.Store.Tables
import MessagingPlatform.Store.Operations
import MessagingPlatform.Store.Effects
import MessagingPlatform.Adapter.Stores
import MessagingPlatform.Adapter.StoreRules
import MessagingPlatform.Adapter.Transactions
import MessagingPlatform.App.Flows
import MessagingPlatform.App.VerifyRules
import MessagingPlatform.App.SessionRules
import MessagingPlatform.App.RequestRules
import MessagingPlatform.App.RequestOutcomes
import MessagingPlatform.App.TransactionRaces
import MessagingPlatform.System.Service
import MessagingPlatform.System.Deployment
import MessagingPlatform.Auth.CodeBinding
import MessagingPlatform.System.Limiter
import MessagingPlatform.System.ObliviousFlows
import MessagingPlatform.System.Responses
import MessagingPlatform.System.Validation
import MessagingPlatform.System.ServiceRules
import MessagingPlatform.System.Runs
import MessagingPlatform.System.Commits
import MessagingPlatform.System.SessionLifetime
import MessagingPlatform.System.RefreshRotation
import MessagingPlatform.System.Registrations
import MessagingPlatform.System.PhoneLookup
import MessagingPlatform.System.FailedVerification
import MessagingPlatform.System.Consumption
import MessagingPlatform.System.StoredCodes
import MessagingPlatform.System.SessionLimit
import MessagingPlatform.System.VerifyWindows
import MessagingPlatform.System.RequestCounters
import MessagingPlatform.System.BlockedAddresses
import MessagingPlatform.Port.ClientAddress
import MessagingPlatform.System.AddressLimits
import MessagingPlatform.System.CodeValidity
import MessagingPlatform.System.GuessLimit
import MessagingPlatform.System.Lockout
import MessagingPlatform.System.ActiveCode
import MessagingPlatform.System.TokenSubjects
import MessagingPlatform.System.WholeCalls
import MessagingPlatform.System.ReportedEnd
import MessagingPlatform.System.AbsoluteLifetime
import MessagingPlatform.System.Eviction
import MessagingPlatform.System.RefreshCalls
import MessagingPlatform.System.FailedRefresh
import MessagingPlatform.System.RefreshChain
import MessagingPlatform.KeyStore.AWSKeyStore
import MessagingPlatform.KeyStore.KeyStoreRules
import MessagingPlatform.KeyStore.KeyStoreRuns
import MessagingPlatform.Core.AtOnce
import MessagingPlatform.Core.OneStep
import MessagingPlatform.KeyStore.LoadedKeys
import MessagingPlatform.KeyStore.WholeKeyCalls
import MessagingPlatform.KeyStore.Discovery
import MessagingPlatform.KeyStore.Withdrawal
import MessagingPlatform.KeyStore.Outage
import MessagingPlatform.KeyStore.Flooding
import MessagingPlatform.KeyStore.Startup
import MessagingPlatform.System.LostRaces
import MessagingPlatform.Adapter.StoreSteps
import MessagingPlatform.App.FlowSteps
import MessagingPlatform.System.SingleSteps
import MessagingPlatform.System.ExpiredCodes
import MessagingPlatform.App.VerifySteps
import MessagingPlatform.Adapter.AllowedRequests
import MessagingPlatform.System.Verifications
import MessagingPlatform.System.AnnouncedExpiry
import MessagingPlatform.App.RefreshSteps
import MessagingPlatform.System.ActiveSessions
import MessagingPlatform.Auth.Signer
import MessagingPlatform.System.MintedTokens
import MessagingPlatform.System.Revocations
import MessagingPlatform.System.ExactEvictions
import MessagingPlatform.App.ParseFailures
import MessagingPlatform.System.WrittenTimestamps
import MessagingPlatform.Port.AuthHandler
import MessagingPlatform.Server.Lifecycle
import MessagingPlatform.Server.LifecycleRules
import MessagingPlatform.Server.Goroutines
import MessagingPlatform.Server.Shutdown
import MessagingPlatform.Server.Completion
import MessagingPlatform.Server.InFlight
import MessagingPlatform.System.Accounts
import MessagingPlatform.System.Authentication
import MessagingPlatform.System.Recovery
import MessagingPlatform.System.Refinement
import MessagingPlatform.System.TextLimit
