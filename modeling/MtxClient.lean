import MtxClient.Lib.Bytes
import MtxClient.Lib.SortedMap
import MtxClient.Lib.DecisionList
import MtxClient.Json.Basic
import MtxClient.Json.Access
import MtxClient.Json.Text
import MtxClient.Events.EventType
import MtxClient.Events.Event
import MtxClient.Events.State
import MtxClient.Events.Edits
import MtxClient.Events.Relations
import MtxClient.PushRules.Types
import MtxClient.PushRules.Flatten
import MtxClient.PushRules.Evaluator
import MtxClient.PushRules.Reference
import MtxClient.Crypto.Encoding
import MtxClient.Crypto.Random
import MtxClient.Crypto.Olm
import MtxClient.Crypto.KeyCreation
import MtxClient.Crypto.KeyBackup
import MtxClient.Crypto.DeviceKeys
import MtxClient.Crypto.Verification
import MtxClient.Crypto.Client
import MtxClient.Crypto.Signing
import MtxClient.Crypto.KeyFile
import MtxClient.Crypto.Passphrase
import MtxClient.Crypto.Base58
import MtxClient.Crypto.KeyExport
import MtxClient.Lib.EscapedPath
import MtxClient.Lib.RegExp
import MtxClient.PushRules.EventMatch
import MtxClient.PushRules.Glob
import MtxClient.PushRules.Paths
import MtxClient.Events.Common
import MtxClient.Events.StateContents
import MtxClient.Events.ImagePacks
import MtxClient.Events.RelationData
import MtxClient.Events.ApplyRelations
import MtxClient.Events.Rereading
import MtxClient.Json.ReadBack
import MtxClient.Crypto.SecretStorage
import MtxClient.Lib.Radix
import MtxClient.Events.Messages
import MtxClient.Events.Encrypted
import MtxClient.Events.Voip
import MtxClient.Events.AccountData
import MtxClient.PushRules.Rules
import MtxClient.Events.Collections
import MtxClient.Responses.Common
import MtxClient.Responses.Agreement
import MtxClient.Responses.Dispatch
import MtxClient.Events.EmptyRelations
import MtxClient.Responses.MalformedRelations
import MtxClient.Events.ExplicitRelations
import MtxClient.PushRules.RoundTrip
import MtxClient.Json.Undefined
import MtxClient.Http.Errors
import MtxClient.Http.Accounts
import MtxClient.Http.Callback
import MtxClient.Http.Delete
import MtxClient.Lib.Runs
import MtxClient.Http.InteractiveAuth
import MtxClient.Http.InteractiveRuns
import MtxClient.Http.Credentials
import MtxClient.Lib.PercentEncoding
import MtxClient.Http.Endpoints
import MtxClient.Http.Paths
import MtxClient.Responses.Sync
import MtxClient.Responses.Limits
import MtxClient.Lib.Buffers
import MtxClient.Crypto.Wrappers
import MtxClient.Crypto.StoredPickles
import MtxClient.Events.InvitePermissions
import MtxClient.Crypto.LineEnds
import MtxClient.Lib.Traced
import MtxClient.Crypto.RecoveryKeys
import MtxClient.Crypto.AesCalls
import MtxClient.Crypto.Attachments
import MtxClient.Crypto.StoredSecrets
import MtxClient.Crypto.AesLengths
import MtxClient.Crypto.OlmErrors
import MtxClient.Events.TextEdits
import MtxClient.Events.ReadRelations
import MtxClient.Events.Reapplying
import MtxClient.Json.WellFormed
import MtxClient.Events.UnknownMessages
import MtxClient.Crypto.Base64Reference
import MtxClient.Crypto.BackupVersion
import MtxClient.Events.DeviceContents
import MtxClient.PushRules.ExactValues
import MtxClient.PushRules.MemberCount
import MtxClient.PushRules.ReadActions
import MtxClient.PushRules.UncheckedReads
import MtxClient.Responses.UncheckedMembers
import MtxClient.Lib.Decimal
import MtxClient.Events.UploadedData
import MtxClient.Events.Thumbnails
import MtxClient.Http.Disposition
import MtxClient.Responses.Lookups
import MtxClient.Http.Fallbacks
import MtxClient.Http.Server
import MtxClient.Http.Query
import MtxClient.Events.Creators
import MtxClient.Events.CallCodecs
import MtxClient.Crypto.EncoderBuffers
import MtxClient.Events.Merging
import MtxClient.Events.SlotRelations
import MtxClient.Events.Rewriting
import MtxClient.Events.RewrittenMessages
import MtxClient.Events.StoredContents
import MtxClient.Responses.Persisting
import MtxClient.Lib.IntBits
import MtxClient.Crypto.Sas
import MtxClient.Json.AsParsed
import MtxClient.Crypto.Backups
import MtxClient.Crypto.SasMac
import MtxClient.Crypto.Sessions
import MtxClient.Responses.Keys
import MtxClient.Responses.Texts
import MtxClient.Lib.Stateful
import MtxClient.Programs.OnlineBackupExporter
import MtxClient.Programs.Callbacks
import MtxClient.Programs.SyncLoop
import MtxClient.Programs.SimpleBot
import MtxClient.Programs.BotStorage
import MtxClient.Programs.StorageSteps
import MtxClient.Programs.CryptoBot
import MtxClient.Programs.BotRuns
import MtxClient.Programs.BotLife
import MtxClient.Programs.RoomKeys
import MtxClient.Responses.StoredState
