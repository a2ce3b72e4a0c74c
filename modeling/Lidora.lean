import Lidora.Rounding
import Lidora.Runs
import Lidora.DocumentStore
import Lidora.OptimisticTransactions
import Lidora.Firestore
import Lidora.Records
import Lidora.ServiceFee
import Lidora.AddItemToOrder
import Lidora.OrderTotals
import Lidora.ConcurrentAdds
import Lidora.InFlight
import Lidora.PlaceOrder
import Lidora.BagOperations
import Lidora.ClearOrder
import Lidora.BagScreen
import Lidora.OneChef
import Lidora.PaidOnce
import Lidora.StripeFunctions
import Lidora.CustomerCharge
import Lidora.PaymentMethods
import Lidora.PaymentList
import Lidora.IdempotentServer
import Lidora.CreatePayments
import Lidora.ConfirmPayments
import Lidora.PaymentStatus
import Lidora.TotalSection
import Lidora.Callbacks
import Lidora.OneShots
import Lidora.AllOrNothing
import Lidora.CompletesOnce
import Lidora.DroppedTaps
import Lidora.ChefCheck
import Lidora.SwiftText
import Lidora.Separators
import Lidora.PaymentForm
import Lidora.TypedText
import Lidora.FormRuns
import Lidora.PaymentErrors
import Lidora.CleanupUser
import Lidora.OneBagPaid
import Lidora.Watching
import Lidora.BagListeners
import Lidora.ShownBag
import Lidora.ButtonTitle
import Lidora.Likes
import Lidora.ChefCell
import Lidora.FetchedList
import Lidora.ListScreens
import Lidora.CardRemovals
import Lidora.Registration
import Lidora.CardSaving
import Lidora.CustomerSetup
import Lidora.Unwrapping
import Lidora.ForcedUnwraps
import Lidora.Components
import Lidora.Parts
import Lidora.WholeSystem
import Lidora.LateBinding
import Lidora.SignedIn
import Lidora.Exchange
import Lidora.OrderOfAdds
import Lidora.StuckButtons
import Lidora.AccountLife
import Lidora.CustomerHolds
import Lidora.StrayCustomers
import Lidora.BagViews
import Lidora.Messages
