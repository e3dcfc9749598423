import RioGram.Async.Loop
import RioGram.Async.Task
import RioGram.Auth.Accounts
import RioGram.Auth.Gating
import RioGram.Auth.Manager
import RioGram.Bots.Manager
import RioGram.Calls.Delivery
import RioGram.Calls.GroupCalls
import RioGram.Calls.HangUp
import RioGram.Calls.Manager
import RioGram.Calls.MediaEngine
import RioGram.Calls.Models
import RioGram.Calls.Signaling
import RioGram.Chats.AntiRecall
import RioGram.Chats.CachedFiles
import RioGram.Chats.Changes
import RioGram.Chats.ChannelPosting
import RioGram.Chats.ChatActions
import RioGram.Chats.ChatDetails
import RioGram.Chats.ChatInfo
import RioGram.Chats.ChatLists
import RioGram.Chats.ChatPhotos
import RioGram.Chats.ComposerWords
import RioGram.Chats.DeliveryStatus
import RioGram.Chats.Editing
import RioGram.Chats.FileTransfers
import RioGram.Chats.FormattedText
import RioGram.Chats.FormattedTextJson
import RioGram.Chats.ForumTopics
import RioGram.Chats.GhostMode
import RioGram.Chats.HistoryLoading
import RioGram.Chats.InlineMarkdown
import RioGram.Chats.LastMessage
import RioGram.Chats.Latex
import RioGram.Chats.LiveLocation
import RioGram.Chats.Manager
import RioGram.Chats.Membership
import RioGram.Chats.MessageThread
import RioGram.Chats.Models
import RioGram.Chats.NewChatSearch
import RioGram.Chats.Order
import RioGram.Chats.OtherChats
import RioGram.Chats.Search
import RioGram.Chats.Selection
import RioGram.Chats.SendResults
import RioGram.Chats.SponsoredMessages
import RioGram.Chats.Unread
import RioGram.Chats.Updates
import RioGram.Chats.VisibleChats
import RioGram.Core.BlockChaining
import RioGram.Core.Excerpts
import RioGram.Core.FirstMatch
import RioGram.Core.Incremental
import RioGram.Core.KeyStream
import RioGram.Core.Keyed
import RioGram.Core.Mapping
import RioGram.Core.Merging
import RioGram.Core.Overlay
import RioGram.Core.Paging
import RioGram.Core.Patterns
import RioGram.Core.PrefixFree
import RioGram.Core.Processes
import RioGram.Core.Quoted
import RioGram.Core.Reachable
import RioGram.Core.Rounds
import RioGram.Core.Transition
import RioGram.Core.Trimming
import RioGram.Core.Wire
import RioGram.Dart.Uri
import RioGram.Features.AntiRecallJson
import RioGram.Features.AntiRecallStore
import RioGram.Features.AutoDownload
import RioGram.Go.Url
import RioGram.Js.Strings
import RioGram.Net.Creator.Chained
import RioGram.Net.Creator.Connections
import RioGram.Net.Creator.Handlers
import RioGram.Net.Creator.Housekeeping
import RioGram.Net.Creator.Pings
import RioGram.Net.Creator.State
import RioGram.Net.Creator.Steps
import RioGram.Net.Creator.Tokens
import RioGram.Net.Creator.TransportAddress
import RioGram.Net.Creator.TransportProxy
import RioGram.Net.Handshakes
import RioGram.Net.HttpProxy
import RioGram.Net.Proxy
import RioGram.Net.Socks5
import RioGram.Net.TransparentProxy
import RioGram.Notifications.Decisions
import RioGram.Notifications.Settings
import RioGram.Proxies.AddedProxy
import RioGram.Proxies.Entries
import RioGram.Proxies.Failover
import RioGram.Proxies.Manager
import RioGram.Proxies.Models
import RioGram.Proxies.Procedures
import RioGram.Proxies.Registration
import RioGram.Proxies.Replies
import RioGram.Proxies.Saved
import RioGram.Proxies.Secrets
import RioGram.Proxies.Specifications
import RioGram.Proxies.SystemProxy
import RioGram.Search.ChatLinks
import RioGram.Search.ChatMessages
import RioGram.Search.GlobalLoading
import RioGram.Search.GlobalResults
import RioGram.Search.Isolation
import RioGram.Search.Manager
import RioGram.Search.Requests
import RioGram.Secret.Encryption
import RioGram.Secret.KeyPictures
import RioGram.Secret.Manager
import RioGram.Security.AppLock
import RioGram.Settings.Isolation
import RioGram.Settings.Managers
import RioGram.Settings.Media
import RioGram.Settings.PrivacyRules
import RioGram.Settings.Requests
import RioGram.Stickers.Panel
import RioGram.Stories.Cache
import RioGram.Stories.Feed
import RioGram.Tls.ClientHello
import RioGram.Tls.DpiBypass
import RioGram.Tls.Emission
import RioGram.Tls.Fragments
import RioGram.Tls.Header
import RioGram.Tls.Hello
import RioGram.Tls.HelloResponse
import RioGram.Tls.Interpreters
import RioGram.Tls.Rotation
import RioGram.Tls.ServiceFamily
import RioGram.Tls.Templates
import RioGram.Tls.TlsInit
import RioGram.Transport.IntermediateTransport
import RioGram.Transport.Obfuscation
import RioGram.Transport.Packets
import RioGram.Transport.RawConnection
import RioGram.Transport.TcpTransport
import RioGram.Transport.TlsDuplex
import RioGram.Transport.TlsReaderByteFlow
import RioGram.Users.Blocking
import RioGram.Users.CommonChats
import RioGram.Users.ContactRemoval
import RioGram.Users.Contacts
import RioGram.Utils.AesIge
import RioGram.Utils.Base64
import RioGram.Utils.Base64Spelling
import RioGram.Utils.Random
import RioGram.Web.Avatars
import RioGram.Web.Bridge
import RioGram.Web.Restart
import RioGram.WebProxy.Configuration
import RioGram.WebProxy.Reconnection
import RioGram.Wss.PathFidelity
import RioGram.Wss.Proxy
import RioGram.Wss.Relay
import RioGram.Wss.RewriterAgreement
import RioGram.Wss.ServerAgreement
import RioGram.Wss.StoredConfig
import RioGram.Wss.Token
import RioGram.Wss.UrlRewriter
