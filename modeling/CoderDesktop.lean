import CoderDesktop.Semantics.Run
import CoderDesktop.Vpn.Bridge
import CoderDesktop.Vpn.Commands
import CoderDesktop.Vpn.Ownership
import CoderDesktop.Vpn.Agreement
import CoderDesktop.Sandbox.Bubblewrap
import CoderDesktop.Dlp.SandboxLauncher
import CoderDesktop.Dlp.SandboxOps
import CoderDesktop.Dlp.Confinement
import CoderDesktop.Dlp.DbusIsolation
import CoderDesktop.Settings.SettingsManager
import CoderDesktop.Dlp.CompositorManager
import CoderDesktop.Dlp.LaunchPolicy
import CoderDesktop.Dlp.PolicyRuns
import CoderDesktop.Dlp.Output
import CoderDesktop.FileSync.FileSyncManager
import CoderDesktop.FileSync.SyncDirection
import CoderDesktop.FileSync.FileTransferManager
import CoderDesktop.FileSync.TransferPolicy
import CoderDesktop.Settings.LockedSettings
import CoderDesktop.Dlp.CommandLine
import CoderDesktop.Vpn.AgentTracking
import CoderDesktop.Vpn.Signals
import CoderDesktop.Vpn.GhostPeers
import CoderDesktop.Encoding.Base64
import CoderDesktop.Encoding.Utf8
import CoderDesktop.Data.SecureStorage
import CoderDesktop.Data.TokenRemoval
import CoderDesktop.Data.TokenFidelity
import CoderDesktop.Api.CoderApiClient
import CoderDesktop.Data.SessionManager
import CoderDesktop.Data.SessionAgreement
import CoderDesktop.Models.KeyedRows
import CoderDesktop.Models.ListModels
import CoderDesktop.Api.PollingController
import CoderDesktop.Api.CacheOrigin
import CoderDesktop.Dlp.DbusProxy
import CoderDesktop.Dlp.ProxyAccounting
import CoderDesktop.Dlp.ProxyRuns
import CoderDesktop.Auth.LoginFlowController
import CoderDesktop.Auth.SchemeProbing
import CoderDesktop.Auth.TokenOrigin
import CoderDesktop.Api.NewestReply
import CoderDesktop.Collections.SwapRemove
import CoderDesktop.Dlp.CompositorLifecycle
import CoderDesktop.Dlp.ActiveList
import CoderDesktop.Collections.Keyed
import CoderDesktop.Dlp.ActiveWindow
import CoderDesktop.Dlp.ListenerDiscipline
import CoderDesktop.Signals.Acknowledged
import CoderDesktop.FileSync.TransferBooks
import CoderDesktop.FileSync.TransferLifecycle
import CoderDesktop.Semantics.Children
import CoderDesktop.Dlp.ChildSignals
import CoderDesktop.Dlp.RunningApps
import CoderDesktop.Semantics.Handles
import CoderDesktop.Dlp.AppBookkeeping
import CoderDesktop.Encoding.JsonText
import CoderDesktop.Data.DeploymentStore
import CoderDesktop.Api.CachePurge
import CoderDesktop.Dlp.XwaylandEnvironment
import CoderDesktop.FileSync.EngineState
import CoderDesktop.Terminal.TerminalBridge
import CoderDesktop.Collections.Infix
import CoderDesktop.Dns.Manager
import CoderDesktop.Dns.ManagedBlock
import CoderDesktop.Dns.DirectFile
import CoderDesktop.Dns.FailedConfigure
import CoderDesktop.Dns.Resolver
import CoderDesktop.Collections.Scatter
import CoderDesktop.Dlp.WatermarkExtraction
import CoderDesktop.Dlp.Fingerprint
import CoderDesktop.Data.CredentialFrame
import CoderDesktop.Data.LoginRollback
import CoderDesktop.Dlp.ProxyGrants
import CoderDesktop.Models.RowView
import CoderDesktop.Api.ChangeNotifications
import CoderDesktop.FileSync.ScpProgress
import CoderDesktop.FileSync.ProgressRange
import CoderDesktop.FileSync.TransferPurge
import CoderDesktop.FileSync.SessionPolling
import CoderDesktop.Dlp.XwaylandScene
import CoderDesktop.Dlp.XwaylandOrder
import CoderDesktop.Api.Reconnection
import CoderDesktop.Terminal.PtySize
import CoderDesktop.Api.BuildLogWebSocket
import CoderDesktop.Collections.Outline
import CoderDesktop.FileSync.RemoteDirectoryPicker
import CoderDesktop.Updater.AutoUpdater
import CoderDesktop.Updater.Precedence
import CoderDesktop.Apps.ExecLine
import CoderDesktop.Apps.AppDiscovery
import CoderDesktop.Dlp.WatermarkSeed
import CoderDesktop.Collections.RecentKeys
import CoderDesktop.Notifications.NotificationManager
import CoderDesktop.Collections.BackwardSweep
import CoderDesktop.Dlp.ClientCount
import CoderDesktop.Webview.AppBrowserWidget
import CoderDesktop.Dlp.ArgumentVector
import CoderDesktop.Dlp.DisplayIsolation
import CoderDesktop.Dlp.Fleet
import CoderDesktop.Dlp.WatermarkIdentity
import CoderDesktop.Semantics.Projection
import CoderDesktop.Vpn.Authorization
import CoderDesktop.Updater.UpdateChecks
import CoderDesktop.Data.CredentialFlow
import CoderDesktop.Application.Desktop
import CoderDesktop.Data.SessionRestore
import CoderDesktop.Notifications.Delivery
import CoderDesktop.Vpn.DnsLifetime
import CoderDesktop.Collections.Sorting
import CoderDesktop.Apps.AppPicker
import CoderDesktop.FileSync.FileBrowser
import CoderDesktop.Vpn.PeerBoard
import CoderDesktop.Workspaces.DetailPage
