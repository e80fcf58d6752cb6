import App20.Book.BookRuns
import App20.Channel.EpochTimes
import App20.Chat.ChatRuns
import App20.Confidential.Runs
import App20.Coordinator.Exits
import App20.Coordinator.TakeHistory
import App20.CrossChain.Lifecycle
import App20.Escrow.Payout
import App20.Intents.Concentration
import App20.Intents.FairLoss
import App20.Intents.Relayed
import App20.Intents.TakeBinding
import App20.Localnet.EconomicLimits
import App20.Localnet.MakerSchedules
import App20.Mail.Delivery
import App20.Mail.EnvelopeRoundTrip
import App20.Mail.ScanRuns
import App20.Mail.Threads
import App20.Maker.Admissions
import App20.Maker.Equivocation
import App20.Maker.Releases
import App20.Negotiation.Equivocation
import App20.Otc.DealRuns
import App20.Otc.PaymentRuns
import App20.Reservation.Terms
import App20.Rfq.Forgetting
import App20.Rfq.VerifyOnly
import App20.Rfq.MakerRequests
import App20.Directory.Delivery
import App20.Strk20.Submission
import App20.Reservation.Serializable
import App20.Confidential.Agreement
import App20.Confidential.Submissions
import App20.ChatEscrow.Exits
import App20.Policy.Approvals
import App20.Egress.Sessions
import App20.Directory.Canonical
import App20.Maker.SelectionFences
