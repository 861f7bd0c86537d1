import TunnelitRelay.Concurrent.Schedule
import TunnelitRelay.Concurrent.Sequential
import TunnelitRelay.Concurrent.Amid
import TunnelitRelay.Activation
import TunnelitRelay.TunnelOwnership
import TunnelitRelay.PortExclusivity
import TunnelitRelay.GhostListeners
import TunnelitRelay.BoundPorts
import TunnelitRelay.Credentials
import TunnelitRelay.Sessions
import TunnelitRelay.DedicatedPorts
import TunnelitRelay.Lockout
import TunnelitRelay.Proxy
import TunnelitRelay.Connections
import TunnelitRelay.Traffic
import TunnelitRelay.StreamFidelity
import TunnelitRelay.Draining
import TunnelitRelay.FirstBytes
import TunnelitRelay.AgentClose
import TunnelitRelay.ForeignSessions
import TunnelitRelay.StoppedTraffic
import TunnelitRelay.BannedTunnels
import TunnelitRelay.LeakedPorts
import TunnelitRelay.Departed
import TunnelitRelay.OtherSessions
import TunnelitRelay.WriteIsolation
import TunnelitRelay.Subdomains
import TunnelitRelay.ListenerTasks
import TunnelitRelay.ClosedConnections
import TunnelitRelay.UdpFlows
import TunnelitRelay.UdpReplies
import TunnelitRelay.Toggles
import TunnelitRelay.ClaimConfirmations
import TunnelitRelay.ServedTunnels
import TunnelitRelay.Announcements
import TunnelitRelay.PortGeneration
import TunnelitRelay.SessionHistory
import TunnelitRelay.Logins
import TunnelitRelay.Deadlocks
import TunnelitRelay.ReadIsolation
import TunnelitRelay.FailedBinds
import TunnelitRelay.RestartedTunnels
import TunnelitRelay.OnlineFlags
import TunnelitRelay.Launchers
import TunnelitRelay.IssuedAgents
import TunnelitRelay.DeletedAgents
import TunnelitRelay.UsablePorts
import TunnelitRelay.Metering
import TunnelitRelay.Refinement
import TunnelitRelay.Completion
import TunnelitRelay.SendTasks
import TunnelitRelay.Deliveries
import TunnelitRelay.Refusals
import TunnelitRelay.Schema
import TunnelitRelay.RowHistory
import TunnelitRelay.Constraints
import TunnelitRelay.AgentViews
