import ContextRelay.SecurityDescriptor
import ContextRelay.LiveRecords
import ContextRelay.ConcurrentAdmission
import ContextRelay.NoLostUpdates
import ContextRelay.HostedRuns
import ContextRelay.PullRuns
import ContextRelay.EdgeAgreement
import ContextRelay.NativeWalRuns
import ContextRelay.MembershipAuthority
import ContextRelay.RequestCancellation
import ContextRelay.SessionGenerations
import ContextRelay.DecimalU64
import ContextRelay.PullLimits
import ContextRelay.SignedHistory
