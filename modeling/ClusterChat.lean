import ClusterChat.Delivery.Dispatcher
import ClusterChat.Channel.ShardChannel
import ClusterChat.Data.JsonText
import ClusterChat.Wire.ClientStream
import ClusterChat.Wire.ClusterStream
import ClusterChat.Channel.Progress
import ClusterChat.Registry.Redis
import ClusterChat.Registry.NodeRegistry
import ClusterChat.Registry.Complete
import ClusterChat.Registry.Alignment
import ClusterChat.Registry.Freshness
import ClusterChat.Concurrency.Tally
import ClusterChat.Channel.Custody
import ClusterChat.Delivery.Custody
import ClusterChat.Service.ChatService
import ClusterChat.Service.Cluster
import ClusterChat.Service.Complete
import ClusterChat.Service.Departure
import ClusterChat.Registry.Requests
import ClusterChat.Service.Requests
import ClusterChat.Service.Admission
import ClusterChat.Service.Mailbox
import ClusterChat.Service.Contest
import ClusterChat.Wire.Segmentation
import ClusterChat.Data.JsonGrammar
import ClusterChat.Wire.ServerStream
import ClusterChat.Channel.Links
import ClusterChat.Channel.Order
import ClusterChat.Channel.Senders
import ClusterChat.Storage.OfflineMsgModel
import ClusterChat.Registry.Resolve
import ClusterChat.Registry.Publish
import ClusterChat.Registry.Outage
import ClusterChat.Channel.Attempts
import ClusterChat.Data.Shards
import ClusterChat.Service.ConnBuckets
import ClusterChat.Service.ChannelMap
import ClusterChat.Service.ChannelRace
import ClusterChat.Storage.ConnectionPool
import ClusterChat.Storage.Models
import ClusterChat.Storage.Lending
import ClusterChat.Storage.SqlRow
import ClusterChat.Storage.Tables
import ClusterChat.Storage.Registration
import ClusterChat.Storage.PlainDatabase
import ClusterChat.Service.JsonHandlers
import ClusterChat.Service.Malformed
import ClusterChat.Service.InUse
import ClusterChat.Service.UserIndex
import ClusterChat.Storage.QueryResults
import ClusterChat.Data.Trim
import ClusterChat.Service.EnvFile
import ClusterChat.Wire.HostileBytes
import ClusterChat.Client.Acknowledgement
import ClusterChat.Client.ReadTask
import ClusterChat.Client.Semaphore
import ClusterChat.Client.MainMenu
import ClusterChat.Registry.Heartbeat
import ClusterChat.Service.Ownership
import ClusterChat.Service.Presence
import ClusterChat.Service.StaleRoutes
import ClusterChat.Service.Debts
import ClusterChat.Service.Accounts
import ClusterChat.Service.Dispositions
import ClusterChat.Service.Recipients
import ClusterChat.Service.Losses
import ClusterChat.Concurrency.Stillness
import ClusterChat.Delivery.Flow
import ClusterChat.Registry.Brackets
import ClusterChat.Service.Sources
import ClusterChat.Service.DeliveryOrder
import ClusterChat.Service.Rest
