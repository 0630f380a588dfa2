import UsgRadius.Proxy.Integrity
import UsgRadius.Proxy.TimeoutReject
import UsgRadius.Proxy.RelayOutcome
import UsgRadius.Proxy.InertResponses
import UsgRadius.Proxy.FailedSends
import UsgRadius.Proxy.Watchdog
import UsgRadius.Proxy.Realm
import UsgRadius.Eap.KeyExpansion
import UsgRadius.Eap.TeapFraming
import UsgRadius.Eap.TeapRounds
import UsgRadius.Eap.MandatoryTlvs
import UsgRadius.Eap.SessionStore
import UsgRadius.Eap.AcceptSoundness
import UsgRadius.Auth.CacheTransparency
import UsgRadius.Auth.LdapSoundness
import UsgRadius.Revocation.SingleResponses
import UsgRadius.Revocation.SignatureMemo
import UsgRadius.Server.DuplicateHistory
import UsgRadius.Server.ConcurrentAdmission
import UsgRadius.Eap.Identifiers
import UsgRadius.Server.ReplyContract
import UsgRadius.Server.Acknowledgement
import UsgRadius.Server.SessionOwnership
import UsgRadius.Server.ConcurrentSessions
import UsgRadius.Server.RateLimit
import UsgRadius.Server.CoaRouting
import UsgRadius.Proxy.OneAnswer
import UsgRadius.Proxy.Retransmission
