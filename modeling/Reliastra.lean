import Reliastra.Guarantees.PayoutConservation
import Reliastra.Guarantees.PayoutSettlement
import Reliastra.Guarantees.PaidPlans
import Reliastra.Guarantees.PaymentReplay
import Reliastra.Guarantees.TokenFamilies
import Reliastra.Guarantees.OneIncident
import Reliastra.Guarantees.SingleFlight
import Reliastra.Guarantees.PrincipalIsolation
import Reliastra.Guarantees.KeyConfinement
import Reliastra.Guarantees.ReadOnlyKeys
import Reliastra.Guarantees.RecordableChecks
import Reliastra.Guarantees.EvidenceWindows
import Reliastra.Guarantees.DeadlockFreedom
import Reliastra.Guarantees.CircuitDispatch
import Reliastra.Guarantees.BlindDependencies
import Reliastra.Guarantees.RedisOutage
import Reliastra.Guarantees.WebhookEvents
import Reliastra.Guarantees.PaymentFrame
import Reliastra.Guarantees.SubscriptionOwner
import Reliastra.Guarantees.Entitlements
import Reliastra.Guarantees.OwnersKept
import Reliastra.Guarantees.MemberRoles
import Reliastra.Guarantees.OAuthLogins
import Reliastra.Guarantees.IncidentStatus
import Reliastra.Guarantees.PasswordResets
import Reliastra.Guarantees.VerifiedLinking
import Reliastra.Guarantees.VerifiedAddresses
import Reliastra.Guarantees.TemporalCorrelations
import Reliastra.Guarantees.EvidenceHash
import Reliastra.Guarantees.EvidenceReproducible
import Reliastra.Guarantees.AttributionOrder
import Reliastra.Guarantees.CommissionRecording
import Reliastra.Guarantees.CurrencyMixing
import Reliastra.Guarantees.DeliveryOrder
import Reliastra.Guarantees.DuplicateChecks
import Reliastra.Guarantees.LoopAffinity
import Reliastra.Guarantees.PinnedProbes
import Reliastra.Guarantees.StatisticsAgree
import Reliastra.Guarantees.WebhookIsolation
import Reliastra.Guarantees.WebhookRetries
import Reliastra.Guarantees.ResolutionOnce
import Reliastra.Guarantees.OutboundGuard
import Reliastra.Guarantees.SingleRedemption
import Reliastra.Guarantees.DoublePayouts
import Reliastra.Guarantees.PartnerIsolation
import Reliastra.Guarantees.WebhookClaims
import Reliastra.Guarantees.OutboxDelivery
import Reliastra.Guarantees.OutboxProgress
import Reliastra.Guarantees.CursorPaging
import Reliastra.Guarantees.KeysetPaging
import Reliastra.Guarantees.CustomerListing
import Reliastra.Guarantees.LimitOverrides
import Reliastra.Guarantees.Unpublishing
import Reliastra.Guarantees.SubmissionLifecycle
import Reliastra.Guarantees.RewardClaims
import Reliastra.Guarantees.LastUsedTracking
import Reliastra.Guarantees.VendorDetails
import Reliastra.Guarantees.FailedPayouts
import Reliastra.Library.Histories
import Reliastra.Guarantees.CircuitHistory
import Reliastra.Guarantees.IdempotentReplays
import Reliastra.Guarantees.AttributionRange
import Reliastra.Guarantees.GateConversions
import Reliastra.Guarantees.RecoveryQuorum
import Reliastra.Guarantees.TransparentTransport
import Reliastra.Guarantees.ExplanationNoninterference
import Reliastra.Guarantees.BroadcastAudience
import Reliastra.Source.Vendors.Timeline
import Reliastra.Guarantees.TimelineBuckets
import Reliastra.Library.Calendar
import Reliastra.Source.Checks.Partitions
import Reliastra.Guarantees.PartitionCoverage
import Reliastra.Source.Core.RateLimit
import Reliastra.Guarantees.SlidingWindow
import Reliastra.Source.Auth.CurrentUser
import Reliastra.Guarantees.KeyBudgets
import Reliastra.Guarantees.KeyLifecycle
import Reliastra.Source.Core.Http
import Reliastra.Source.Core.IpNetworks
import Reliastra.Guarantees.PublicAddresses
import Reliastra.Library.UrlResolution
import Reliastra.Source.Partners.Destinations
import Reliastra.Guarantees.ReferralDestinations
import Reliastra.Source.Api.DependencySchemas
import Reliastra.Guarantees.SendableHeaders
import Reliastra.Guarantees.DependencyUpdates
import Reliastra.Source.Webhooks.Senders
import Reliastra.Guarantees.WebhookSignatures
import Reliastra.Guarantees.ImpersonationTokens
import Reliastra.Guarantees.VendorNames
import Reliastra.Guarantees.NamesInHeaders
import Reliastra.Guarantees.TimelineAccounts
import Reliastra.Guarantees.SharedImages
import Reliastra.Guarantees.DownloadCounts
import Reliastra.Guarantees.EmbedCodes
import Reliastra.Guarantees.BadgeDocuments
import Reliastra.Guarantees.VendorFeeds
import Reliastra.Guarantees.ReadinessProbes
import Reliastra.Guarantees.EvidenceAuthenticity
