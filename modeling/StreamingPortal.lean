import StreamingPortal.Shared.Runs
import StreamingPortal.Shared.Tasks
import StreamingPortal.Shared.Table
import StreamingPortal.Shared.Alone
import StreamingPortal.Shared.Claims
import StreamingPortal.Shared.Overlay
import StreamingPortal.Sessions.Model
import StreamingPortal.Sessions.Database
import StreamingPortal.Sessions.Connect
import StreamingPortal.Sessions.EndSession
import StreamingPortal.Sessions.Watchers
import StreamingPortal.Sessions.Requests
import StreamingPortal.Sessions.Start
import StreamingPortal.Sessions.System
import StreamingPortal.Sessions.Copies
import StreamingPortal.Sessions.Terminal
import StreamingPortal.Sessions.IdleExpiry
import StreamingPortal.Sessions.Quota
import StreamingPortal.Sessions.Connected
import StreamingPortal.Sessions.Admission
import StreamingPortal.Sessions.Registry
import StreamingPortal.Sessions.Disconnect
import StreamingPortal.Sessions.Ownership
import StreamingPortal.Sessions.Isolation
import StreamingPortal.Sessions.Saves
import StreamingPortal.Sessions.Columns
import StreamingPortal.Sessions.Dates
import StreamingPortal.Sessions.AllOrNothing
import StreamingPortal.Shared.Pagination
import StreamingPortal.Sessions.Listing
import StreamingPortal.Sessions.SessionPages
import StreamingPortal.Sessions.Classification
import StreamingPortal.Sessions.Errors
import StreamingPortal.Sessions.EndMetrics
import StreamingPortal.Sessions.Gauge
import StreamingPortal.Sessions.TimeoutPass
import StreamingPortal.Mcp.Model
import StreamingPortal.Mcp.Provider
import StreamingPortal.Mcp.Events
import StreamingPortal.Mcp.SingleUse
import StreamingPortal.Mcp.Provenance
import StreamingPortal.Mcp.Pairs
import StreamingPortal.Mcp.Revocation
import StreamingPortal.Settings.Model
import StreamingPortal.Settings.Reload
import StreamingPortal.Settings.Rejected
import StreamingPortal.ApiKeys.Model
import StreamingPortal.ApiKeys.Watch
import StreamingPortal.Auth.Model
import StreamingPortal.Auth.Admin
import StreamingPortal.Shared.Utf8
import StreamingPortal.Shared.Percent
import StreamingPortal.Shared.Url
import StreamingPortal.Web.Router
import StreamingPortal.Web.DeepLink
import StreamingPortal.Web.AppLinks
import StreamingPortal.Shared.OrderedMap
import StreamingPortal.Shared.Prefixes
import StreamingPortal.Web.Apps
import StreamingPortal.Web.AppsKept
import StreamingPortal.Web.LatestVersion
import StreamingPortal.Shared.Comparators
import StreamingPortal.Web.VersionOrder
import StreamingPortal.Shared.SortBy
import StreamingPortal.Web.Pages
import StreamingPortal.Web.SetPages
import StreamingPortal.Web.PageUpdates
import StreamingPortal.Shared.Promises
import StreamingPortal.Web.StorageAuth
import StreamingPortal.Web.StorageSteps
import StreamingPortal.Web.Renewals
import StreamingPortal.Web.Answers
import StreamingPortal.Web.Announcements
import StreamingPortal.Web.LogOut
import StreamingPortal.Shared.SlidingWindow
import StreamingPortal.Web.Latency
import StreamingPortal.Apps.Listing
import StreamingPortal.Apps.Publish
import StreamingPortal.Shared.Words
import StreamingPortal.Apps.Slug
import StreamingPortal.Shared.Cookies
import StreamingPortal.Sessions.SessionCookies
import StreamingPortal.Shared.Pump
import StreamingPortal.Sessions.Relay
import StreamingPortal.Sessions.SignIn
import StreamingPortal.Shared.Thin
import StreamingPortal.Shared.Lockstep
import StreamingPortal.Mcp.Purge
import StreamingPortal.Mcp.PurgeRuns
import StreamingPortal.Shared.Listeners
import StreamingPortal.Web.Listeners
import StreamingPortal.Web.Managers
import StreamingPortal.Web.ListenerRuns
import StreamingPortal.Shared.CachedCalls
import StreamingPortal.Apps.NvcfCache
import StreamingPortal.Apps.Catalogue
import StreamingPortal.Apps.Integrity
import StreamingPortal.Shared.Receipts
import StreamingPortal.Apps.Removals
import StreamingPortal.Apps.Authority
import StreamingPortal.Auth.Groups
import StreamingPortal.Shared.Origins
import StreamingPortal.Sessions.Authority
import StreamingPortal.Shared.Quiescence
import StreamingPortal.Shared.Without
import StreamingPortal.Sessions.Quiescence
import StreamingPortal.Sessions.Purge
import StreamingPortal.Sessions.Retention
import StreamingPortal.Sessions.Accounts
import StreamingPortal.Web.PointCloud
import StreamingPortal.Shared.Relational
import StreamingPortal.Migrations.Model
import StreamingPortal.Migrations.Upgrade
import StreamingPortal.Migrations.Downgrade
import StreamingPortal.Mcp.Lifetimes
import StreamingPortal.Sessions.Disclosure
