import Afcon360.Wallet.DoubleEntry
import Afcon360.Wallet.Adjustment
import Afcon360.Wallet.AgentCashIn
import Afcon360.Wallet.AgentCashOut
import Afcon360.Wallet.Payout
import Afcon360.Wallet.Middleware
import Afcon360.Wallet.Nonce
import Afcon360.Wallet.Reconciliation
import Afcon360.Wallet.LimitIsolation
import Afcon360.Marketplace.CreationRuns
import Afcon360.Accommodation.EscrowRuns
import Afcon360.Accommodation.LifeCycle
import Afcon360.Accommodation.PhysicalRooms
import Afcon360.Accommodation.Cleanup
import Afcon360.Accommodation.BookingOnce
import Afcon360.Accommodation.PaymentStates
import Afcon360.Transport.DispatchOrder
import Afcon360.Transport.SupplyCoverage
import Afcon360.Transport.ReservationKey
import Afcon360.Transport.SeatOwnership
import Afcon360.Transport.ClaimAssignable
import Afcon360.Transport.OfferVisibility
import Afcon360.Notifications.OutboxRelay
import Afcon360.Notifications.WebhookDeliveries
import Afcon360.Notifications.StreamConsumers
import Afcon360.Notifications.Emit
import Afcon360.Auth.OtpRuns
import Afcon360.Accommodation.CancellationBounds
import Afcon360.Accommodation.DateModification
import Afcon360.Wallet.Conversion
import Afcon360.Transport.QuoteRoundTrip
import Afcon360.Accommodation.HoldSweep
import Afcon360.Accommodation.BlockRelease
import Afcon360.Auth.DelegationRuns
import Afcon360.Auth.MobileTokenRuns
import Afcon360.Wallet.RateLookup
import Afcon360.Wallet.FxRates
import Afcon360.Wallet.VolumeLimits
import Afcon360.Wallet.FloatRuns
import Afcon360.Marketplace.AllocationStatus
import Afcon360.Marketplace.MethodListing
import Afcon360.Accommodation.Penalties
import Afcon360.Accommodation.GuestCharge
import Afcon360.Events.Moderation
import Afcon360.Events.Discounts
import Afcon360.Events.SoldOut
import Afcon360.Utils.TimePolicy
import Afcon360.Transport.LocationSnapshot
import Afcon360.Transport.MatchingWindow
import Afcon360.Transport.PassengerCapacity
import Afcon360.Transport.Promotion
import Afcon360.Transport.CancellationFee
import Afcon360.Wallet.WebhookScrub
import Afcon360.Wallet.DailyVolume
import Afcon360.Utils.IdGuard
import Afcon360.Utils.IdempotentRequest
import Afcon360.Utils.TransactionIntent
import Afcon360.Notifications.WireFormat
import Afcon360.Notifications.LedgerStatus
