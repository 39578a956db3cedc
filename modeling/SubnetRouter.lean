import SubnetRouter.Lib.Run
import SubnetRouter.RouteHook
import SubnetRouter.RouteExplain
import SubnetRouter.Lib.Bytes
import SubnetRouter.Net.Frame
import SubnetRouter.Acl
import SubnetRouter.AclFragments
import SubnetRouter.FourVia6
import SubnetRouter.FourVia6Bounds
import SubnetRouter.FourVia6Flows
import SubnetRouter.Lib.Hex
import SubnetRouter.Web.LoginGuard
import SubnetRouter.Web.Sessions
import SubnetRouter.Web.Auth
import SubnetRouter.Web.Throttle
import SubnetRouter.Web.Revocation
import SubnetRouter.Web.Password
import SubnetRouter.Web.FailClosed
import SubnetRouter.Web.PasswordCache
import SubnetRouter.Dns.Message
import SubnetRouter.Dns.Cache
import SubnetRouter.Dns.Relay
import SubnetRouter.Dns.RelaySound
import SubnetRouter.PortMap
import SubnetRouter.ForwardFilter
import SubnetRouter.ForwardRuns
import SubnetRouter.ForwardSound
import SubnetRouter.NetifHooks
import SubnetRouter.Lib.Checksum
import SubnetRouter.FragNeeded
import SubnetRouter.TailscaleMtu
import SubnetRouter.ExitNode
import SubnetRouter.Lib.Serial
import SubnetRouter.RuleUpdates
import SubnetRouter.InstallSync
import SubnetRouter.Listeners
import SubnetRouter.FourVia6RoundTrip
import SubnetRouter.FourVia6Table
import SubnetRouter.FourVia6Checksums
import SubnetRouter.FourVia6Headers
import SubnetRouter.Web.SessionRuns
import SubnetRouter.Web.Challenge
import SubnetRouter.Web.ProofLogin
import SubnetRouter.Lib.Digits
import SubnetRouter.Net.Ip6Cidr
import SubnetRouter.FourVia6Prefix
import SubnetRouter.AdvertisedRoutes
import SubnetRouter.RemoteConsole.Authentication
import SubnetRouter.RemoteConsole.SingleServer
import SubnetRouter.FlightRecorder.Card
import SubnetRouter.FlightRecorder.Survival
import SubnetRouter.Dhcp.Server
import SubnetRouter.Lib.SortedScan
import SubnetRouter.Dhcp.Leases
import SubnetRouter.Dhcp.OptionWalk
import SubnetRouter.Dhcp.Reserved
import SubnetRouter.Dhcp.Pool
import SubnetRouter.Lib.CString
import SubnetRouter.Lib.Refill
import SubnetRouter.Lib.KeyStore
import SubnetRouter.Settings.Nvs
import SubnetRouter.Settings.Tables
import SubnetRouter.Settings.Json
import SubnetRouter.Settings.SecretsBackup
import SubnetRouter.Settings.MultiKey
import SubnetRouter.Settings.LanSubnet
import SubnetRouter.Settings.TailscaleSettings
import SubnetRouter.AclRules
import SubnetRouter.Lib.Ring
import SubnetRouter.Log.Capture
import SubnetRouter.Log.Polling
import SubnetRouter.Mqtt.Watchdog
import SubnetRouter.Ntfy.Alerts
import SubnetRouter.Ntfy.Commands
import SubnetRouter.FlightRecorder.Flush
import SubnetRouter.FlightRecorder.Shutdown
import SubnetRouter.Lib.CharArray
import SubnetRouter.Lib.Layout
import SubnetRouter.Nvs.Items
import SubnetRouter.Wifi.Networks
import SubnetRouter.Wifi.Recovery
import SubnetRouter.ResetHistory.Record
import SubnetRouter.ResetHistory.Attribution
import SubnetRouter.Lib.Sections
import SubnetRouter.Dns.Question
import SubnetRouter.Dns.AnswerTtl
import SubnetRouter.Dns.CacheMap
import SubnetRouter.Lib.Incremental
import SubnetRouter.MssClamp
import SubnetRouter.TtlOverride
import SubnetRouter.Net.Dotted
import SubnetRouter.AclText
import SubnetRouter.FirewallAdd
import SubnetRouter.AclEtherTypes
import SubnetRouter.AclPersistence
import SubnetRouter.Log.Precrash
import SubnetRouter.Settings.RejectedSaves
import SubnetRouter.ApRoutes
import SubnetRouter.FlightRecorder.Pruning
import SubnetRouter.FlightRecorder.Tail
import SubnetRouter.FlightRecorder.Listing
import SubnetRouter.FlightRecorder.LineAssembly
import SubnetRouter.FlightRecorder.RotationBound
import SubnetRouter.Lib.OutBuffer
import SubnetRouter.RemoteConsole.Crlf
import SubnetRouter.RemoteConsole.LineAttempts
import SubnetRouter.Lib.JsonString
import SubnetRouter.Log.Escaping
import SubnetRouter.Ota
import SubnetRouter.Lib.BoundedAppend
import SubnetRouter.Ntfy.PollSchedule
import SubnetRouter.Ntfy.Response
import SubnetRouter.Ntfy.Rounds
import SubnetRouter.PathMtu
import SubnetRouter.Lib.LatestWins
import SubnetRouter.Wifi.ApPolicy
import SubnetRouter.Lib.RoundRobin
import SubnetRouter.Wifi.Uplink
import SubnetRouter.Wifi.Realign
import SubnetRouter.Dhcp.Promise
import SubnetRouter.Lib.Cursor
import SubnetRouter.Dhcp.Replies
import SubnetRouter.ExitSupervisor
import SubnetRouter.Diag.Probe
import SubnetRouter.Diag.Report
import SubnetRouter.Lib.SlotFill
import SubnetRouter.Lib.Scan
import SubnetRouter.Settings.TablePages
import SubnetRouter.Settings.Resubmitted
import SubnetRouter.Settings.NetworkPage
