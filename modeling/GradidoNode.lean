import GradidoNode.Library.Run
import GradidoNode.Library.ExceptList
import GradidoNode.Library.OrderedMap
import GradidoNode.Library.OrderedMultimap
import GradidoNode.Library.MultimapRange
import GradidoNode.Library.FixedWidth
import GradidoNode.Library.Fallible
import GradidoNode.Exceptions
import GradidoNode.Lib.VirtualFile
import GradidoNode.Lib.FuzzyTimer
import GradidoNode.Lib.TimerRuns
import GradidoNode.Files.LevelDBWrapper
import GradidoNode.Files.BlockIndex
import GradidoNode.Files.BlockIndexWalk
import GradidoNode.Files.BlockIndexWriter
import GradidoNode.Files.BlockIndexHash
import GradidoNode.Files.Block
import GradidoNode.Files.LockedFiles
import GradidoNode.Files.LocksReleased
import GradidoNode.Files.RebuildBlockIndex
import GradidoNode.Files.DamagedBlock
import GradidoNode.Files.BlockRoundTrip
import GradidoNode.NodeTransactionEntry
import GradidoNode.Cache.BlockIndex
import GradidoNode.Cache.BlockIndexFile
import GradidoNode.Cache.BlockIndexReceive
import GradidoNode.Cache.BlockIndexRoundTrip
import GradidoNode.Cache.BlockInit
import GradidoNode.Cache.BlockInitCorrect
import GradidoNode.Cache.State
import GradidoNode.Cache.StoredValues
import GradidoNode.Cache.BlockTimers
import GradidoNode.Cache.TransactionHash
import GradidoNode.Cache.HieroTransactionId
import GradidoNode.Cache.WriteOnceIds
import GradidoNode.Cache.TransactionTriggerEvent
import GradidoNode.Cache.TriggerEventRestart
import GradidoNode.Cache.TriggerEventsInRange
import GradidoNode.Cache.Dictionary
import GradidoNode.Cache.DictionaryBijection
import GradidoNode.Tasks.WriteTransactionsToBlockTask
import GradidoNode.Cache.Block
import GradidoNode.Cache.WriteOrder
import GradidoNode.Cache.WrittenOnce
import GradidoNode.Cache.FileCursors
import GradidoNode.Cache.GetTransaction
import GradidoNode.Cache.ReadYourWrites
import GradidoNode.Cache.ReadsRight
import GradidoNode.Cache.RebuildWait
import GradidoNode.Blockchain.FileBased
import GradidoNode.Blockchain.AddAtomic
import GradidoNode.Hiero.ConsensusTopicResponse
import GradidoNode.Hiero.TopicMessageDecoders
import GradidoNode.Hiero.DecodersAgree
import GradidoNode.Tasks.HieroMessageToTransactionTask
import GradidoNode.Controller.TaskObserver
import GradidoNode.Controller.SimpleOrderingManager
import GradidoNode.Controller.SequenceNumbers
import GradidoNode.Controller.TopicMessages
import GradidoNode.Controller.CrossGroup
import GradidoNode.Controller.CrossGroupLocks
import GradidoNode.Controller.ThreadFunction
import GradidoNode.Controller.PersistedPosition
import GradidoNode.Controller.TopicReset
import GradidoNode.Data.Timestamp
import GradidoNode.Tasks.SyncTopicOnStartup
import GradidoNode.Tasks.TopicCoverage
import GradidoNode.Tasks.FailingMirror
import GradidoNode.Library.Ascending
import GradidoNode.MainServer
import GradidoNode.Shutdown
import GradidoNode.SingletonManager.FileLockManager
import GradidoNode.Cache.IncrementalIndex
import GradidoNode.Cache.IndexAgreement
import GradidoNode.Blockchain.Filter
import GradidoNode.Cache.FindTransactions
import GradidoNode.Cache.IndexRepresentation
import GradidoNode.Cache.SearchPages
import GradidoNode.Blockchain.FindAllFast
import GradidoNode.Blockchain.FilePositions
import GradidoNode.Blockchain.FindAll
import GradidoNode.Blockchain.GetTransactionForId
import GradidoNode.Blockchain.DuplicateDetection
import GradidoNode.Blockchain.RescanTriggerEvents
import GradidoNode.Blockchain.FileBasedProvider
import GradidoNode.Blockchain.ProviderMembership
import GradidoNode.Apollo.Transaction
import GradidoNode.Apollo.CreateTransaction
import GradidoNode.Apollo.TransactionList
import GradidoNode.Apollo.WalletEntries
import GradidoNode.Server.JsonRpc.ApiHandler
import GradidoNode.Server.JsonRpc.AnsweredSafely
import GradidoNode.Blockchain.FindByMessageId
import GradidoNode.Server.JsonRpc.GetTransaction
import GradidoNode.Blockchain.CommunityIdIndex
import GradidoNode.Blockchain.CoinCommunityIndices
import GradidoNode.Client.TopicMessageQuery
import GradidoNode.Client.NeverIdle
import GradidoNode.Tasks.Thread
import GradidoNode.Cache.RebuiltIndex
import GradidoNode.Blockchain.Community
import GradidoNode.Blockchain.DismissingSearch
import GradidoNode.Blockchain.CommunityFolder
import GradidoNode.Blockchain.CommunityBlocks
import GradidoNode.Blockchain.CommunityStart
import GradidoNode.Blockchain.CommunityRecovery
import GradidoNode.Blockchain.CommunityMaintained
import GradidoNode.Blockchain.CommunityRecovers
import GradidoNode.Blockchain.CommunityExit
import GradidoNode.Controller.WakeUp
import GradidoNode.Tasks.CPUSheduler
import GradidoNode.Tasks.NoTaskLost
import GradidoNode.Tasks.RunAtMostOnce
import GradidoNode.Controller.CrossGroupTurns
import GradidoNode.Controller.CrossGroupPairs
import GradidoNode.Controller.PairedInbound
import GradidoNode.Controller.RestartResume
