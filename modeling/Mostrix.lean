import Mostrix.Library.Run
import Mostrix.Library.Table
import Mostrix.Library.MaxByKey
import Mostrix.Library.SortedSet
import Mostrix.Protocol.Message
import Mostrix.Orders.Status
import Mostrix.Orders.Store
import Mostrix.Orders.Reconcile
import Mostrix.TradeDm.Messages
import Mostrix.TradeDm.Handle
import Mostrix.TradeDm.Row
import Mostrix.TradeDm.StatusStep
import Mostrix.Replies.MostroResponse
import Mostrix.Replies.BondInvoice
import Mostrix.Replies.TakeOrder
import Mostrix.Replies.TradeFrame
import Mostrix.Replies.NewOrder
import Mostrix.Router.Waiters
import Mostrix.Router.FirstMatch
import Mostrix.Chat.Transcript
import Mostrix.Chat.Cursor
import Mostrix.Chat.Listener
import Mostrix.Chat.NothingLost
import Mostrix.Orders.Finality
import Mostrix.TradeDm.Notifications
import Mostrix.Book.OrderEvents
import Mostrix.Book.Live
import Mostrix.Keys.User
import Mostrix.Keys.Rotation
import Mostrix.Keys.Settings
import Mostrix.Keys.RotationTask
import Mostrix.Keys.TradeIndex
import Mostrix.Disputes.AdminDispute
import Mostrix.Library.KeyedList
import Mostrix.Disputes.Live
import Mostrix.Library.Sql
import Mostrix.Database.Init
import Mostrix.Database.CrashSafe
import Mostrix.Router.Dispatch
import Mostrix.Router.DmListener
import Mostrix.Router.LiveWaiters
import Mostrix.Router.OneOrderPerKey
import Mostrix.Router.Teardown
import Mostrix.Router.RangeChild
import Mostrix.TradeDm.StatusView
import Mostrix.Router.StartupReplay
import Mostrix.Library.Text
import Mostrix.Chat.Wrap
import Mostrix.Chat.TranscriptText
import Mostrix.Chat.Attachments
import Mostrix.Chat.RoundTrip
import Mostrix.Chat.Targets
import Mostrix.Chat.LiveSubs
import Mostrix.Book.LatestRevision
import Mostrix.Disputes.Reconcile
import Mostrix.Chat.DisputeChat
import Mostrix.Chat.CursorRuns
import Mostrix.Ui.WaitingScreen
import Mostrix.Ui.FormDraft
import Mostrix.Ui.Observer
import Mostrix.Library.Binary64
import Mostrix.Ui.TakeAmount
import Mostrix.Chat.Redelivery
import Mostrix.Library.Except
import Mostrix.Orders.Save
import Mostrix.TradeDm.Snapshots
import Mostrix.TradeDm.Redelivered
import Mostrix.TradeDm.MessagesLaw
import Mostrix.Library.Case
import Mostrix.Book.CurrencyFilter
import Mostrix.Router.NextTrade
import Mostrix.Chat.OwnMessages
import Mostrix.Library.Wire
import Mostrix.Chat.AttachmentRoundTrip
import Mostrix.Ui.OrderForm
import Mostrix.Library.Recent
import Mostrix.Chat.OuterIds
import Mostrix.Library.RoundRobin
import Mostrix.Orders.TargetedTick
import Mostrix.Library.TokenBucket
import Mostrix.Chat.RateLimit
import Mostrix.Disputes.OnePerId
import Mostrix.Library.Hex
import Mostrix.Ui.OrderChatList
import Mostrix.Library.Selection
import Mostrix.Ui.Selection
import Mostrix.Chat.WrapLaw
import Mostrix.Chat.InnerIds
import Mostrix.Library.Jpeg
import Mostrix.Chat.ImageDimensions
import Mostrix.Chat.Envelope
import Mostrix.Chat.History
import Mostrix.Chat.Poll
import Mostrix.Chat.Disclosure
import Mostrix.Library.Chunks
import Mostrix.Chat.Blossom
import Mostrix.Library.Json
import Mostrix.Chat.SendAttachment
import Mostrix.Chat.AttachmentDelivery
import Mostrix.Chat.AttachmentQueue
import Mostrix.Disputes.Authority
import Mostrix.Ui.Confirmed
import Mostrix.Ui.InvoiceMeant
import Mostrix.Chat.StartupChats
import Mostrix.Ui.History
import Mostrix.Ui.HistoryDeleted
