import VaultwardenOperator.NoPanic
import VaultwardenOperator.Scoping
import VaultwardenOperator.RefreshOnMiss
import VaultwardenOperator.TokenPairing
import VaultwardenOperator.SnapshotOrder
import VaultwardenOperator.Cooldown
import VaultwardenOperator.Status
import VaultwardenOperator.StatusTruth
import VaultwardenOperator.ManagedSecret
import VaultwardenOperator.LeaderExclusion
import VaultwardenOperator.EntryDelivery
import VaultwardenOperator.OneSnapshot
import VaultwardenOperator.MacCheck
import VaultwardenOperator.CipherIsolation
import VaultwardenOperator.StaleReads
import VaultwardenOperator.OneLogin
import VaultwardenOperator.UserKey
import VaultwardenOperator.Extraction
import VaultwardenOperator.DamagedField
import VaultwardenOperator.ExactMatch
import VaultwardenOperator.DurationMeaning
import VaultwardenOperator.CipherFormat
import VaultwardenOperator.StringDecryption
import VaultwardenOperator.LegacyFallback
import VaultwardenOperator.LookupSpec
import VaultwardenOperator.VaultContents
import VaultwardenOperator.AmbiguousVault
import VaultwardenOperator.TransitionTimes
import VaultwardenOperator.AtomicRenewal
import VaultwardenOperator.Padding
import VaultwardenOperator.MasterKey
import VaultwardenOperator.TokenTiming
import VaultwardenOperator.LeaseMargin
import VaultwardenOperator.Shutdown
import VaultwardenOperator.Secrecy
import VaultwardenOperator.CallProgress
import VaultwardenOperator.HonestServer
import VaultwardenOperator.Startup
import VaultwardenOperator.Intervals
import VaultwardenOperator.LoginRequests
import VaultwardenOperator.Growth
import VaultwardenOperator.UnknownMembers
import VaultwardenOperator.Freshness
import VaultwardenOperator.SpecJson
import VaultwardenOperator.Recovery
import VaultwardenOperator.Takeover
import VaultwardenOperator.IssuedTokens
