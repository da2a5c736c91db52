import GdtCache.Lib.ByteSize
import GdtCache.Lib.DateTime
import GdtCache.Lib.Decimal
import GdtCache.Lib.Fifo
import GdtCache.Lib.Html
import GdtCache.Lib.Json
import GdtCache.Lib.Json.Raw
import GdtCache.Lib.LongestFit
import GdtCache.Lib.Machine
import GdtCache.Lib.Pages
import GdtCache.Lib.Rounds
import GdtCache.Lib.SqlText
import GdtCache.Lib.Throttle
import GdtCache.Lib.Trim
import GdtCache.Lib.UnorderedMap
import GdtCache.Utils.Exception
import GdtCache.Utils.Profiler
import GdtCache.Utils.StringUtils
import GdtCache.Utils.Time
import GdtCache.Utils.Equiv.StringUtils
import GdtCache.Utils.Equiv.Time
import GdtCache.Model.Config
import GdtCache.Model.GdtEntry
import GdtCache.Model.GdtEntryList
import GdtCache.Model.Equiv.GdtEntryList
import GdtCache.Model.Equiv.Sorted
import GdtCache.View.View
import GdtCache.View.GdtEntryList
import GdtCache.View.Loops
import GdtCache.View.Equiv.View
import GdtCache.View.Equiv.Canonical
import GdtCache.View.Equiv.GdtEntryList
import GdtCache.View.Equiv.Json
import GdtCache.View.Equiv.Size
import GdtCache.View.Equiv.Window
import GdtCache.View.Equiv.Loops
import GdtCache.Lithium.Statement
import GdtCache.Lithium.Equiv.Statement
import GdtCache.Mysql.Connection
import GdtCache.Mysql.Customer
import GdtCache.Mysql.GdtEntry
import GdtCache.Mysql.Equiv.Customer
import GdtCache.Mysql.Equiv.Statement
import GdtCache.Mysql.Equiv.GdtEntry
import GdtCache.Mysql.Equiv.DateString
import GdtCache.Mysql.Equiv.EmptyDate
import GdtCache.Mysql.Equiv.Normalised
import GdtCache.Mysql.Equiv.ByEmail
import GdtCache.CacheServer.Basic
import GdtCache.CacheServer.Run
import GdtCache.CacheServer.Publication
import GdtCache.CacheServer.Account
import GdtCache.CacheServer.AllowedIps
import GdtCache.CacheServer.UpdateStatus
import GdtCache.CacheServer.UpdateAllowedIps
import GdtCache.CacheServer.Worker
import GdtCache.CacheServer.Numbered
import GdtCache.CacheServer.Equiv.LoadFromDb
import GdtCache.CacheServer.Equiv.ReloadCacheAfterTimeout
import GdtCache.CacheServer.Equiv.ReloadGdtEntry
import GdtCache.CacheServer.Equiv.Run
import GdtCache.CacheServer.Equiv.ReloadThrottle
import GdtCache.CacheServer.Equiv.Incremental
import GdtCache.CacheServer.Equiv.Freshness
import GdtCache.CacheServer.Equiv.Publication
import GdtCache.CacheServer.Equiv.UpdateStatus
import GdtCache.CacheServer.Equiv.ListPerEmailApi
import GdtCache.CacheServer.Equiv.Worker
import GdtCache.CacheServer.Equiv.Endpoints
import GdtCache.CacheServer.Equiv.RefreshThrottle
import GdtCache.CacheServer.Equiv.Numbered
import GdtCache.CacheServer.Equiv.UpdateAllowedIps
import GdtCache.CacheServer.Equiv.LockDiscipline
import GdtCache.CacheServer.Equiv.AllowedIps
import GdtCache.CacheServer.Equiv.AllowedAddresses
import GdtCache.CacheServer.Equiv.ReachableTable
import GdtCache.CacheServer.Equiv.SteadySlot
import GdtCache.BackgroundTasks.WorkerThread
import GdtCache.BackgroundTasks.UpdateCacheWorker
import GdtCache.BackgroundTasks.UpdateGdtEntryList
import GdtCache.BackgroundTasks.Equiv.WorkerThread
import GdtCache.BackgroundTasks.Equiv.WakeUp
import GdtCache.BackgroundTasks.Equiv.Stop
import GdtCache.BackgroundTasks.Equiv.UpdateGdtEntryList
import GdtCache.Logging.ContainerSingleton
import GdtCache.Logging.Equiv.ContainerSingleton
import GdtCache.Logging.Equiv.Markup
import GdtCache.Logging.Equiv.Window
import GdtCache.Lithium.RoutingTable
import GdtCache.Lithium.Api
import GdtCache.Lithium.Request
import GdtCache.Lithium.Response
import GdtCache.Lithium.OutputBuffer
import GdtCache.Lithium.Equiv.RoutingTable
import GdtCache.Lithium.Equiv.Api
import GdtCache.Lithium.Equiv.Request
import GdtCache.Lithium.Equiv.OutputBuffer
import GdtCache.Main.CheckIpAuthorized
import GdtCache.Main.Shutdown
import GdtCache.Main.Status
import GdtCache.Main.Routes
import GdtCache.Main.Equiv.CheckIpAuthorized
import GdtCache.Main.Equiv.Log
import GdtCache.Main.Equiv.Overlap
import GdtCache.Main.Equiv.Shutdown
import GdtCache.Main.Equiv.Status
import GdtCache.Main.Equiv.Routes
import GdtCache.Main.Equiv.Requests
import GdtCache.Main.Equiv.Queries
import GdtCache.Main.Equiv.StatusLine
