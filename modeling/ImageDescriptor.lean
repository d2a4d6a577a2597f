import ImageDescriptor.Lib.Run
import ImageDescriptor.Lib.Table
import ImageDescriptor.Lib.Expiring
import ImageDescriptor.Lib.Journal
import ImageDescriptor.Lib.Percent
import ImageDescriptor.Lib.DotSegments
import ImageDescriptor.Lib.Checked
import ImageDescriptor.Lib.Pages
import ImageDescriptor.Lib.Schedule
import ImageDescriptor.Lib.Transactions
import ImageDescriptor.Lib.Tally
import ImageDescriptor.Python.Exceptions
import ImageDescriptor.Python.Json
import ImageDescriptor.Python.Numbers
import ImageDescriptor.Python.Text
import ImageDescriptor.Python.Floats
import ImageDescriptor.Python.Base64
import ImageDescriptor.Python.Ipaddress
import ImageDescriptor.Python.Uuid
import ImageDescriptor.Config
import ImageDescriptor.Cache.Store
import ImageDescriptor.Cache.Expiry
import ImageDescriptor.Cache.Races
import ImageDescriptor.Cache.Statements
import ImageDescriptor.Cache.CleanupLoop
import ImageDescriptor.Cache.Restarts
import ImageDescriptor.Cache.Counters
import ImageDescriptor.Cache.Migrator
import ImageDescriptor.Cache.InterruptedMigrations
import ImageDescriptor.Cache.MigrationFiles
import ImageDescriptor.Db.Supabase
import ImageDescriptor.Db.Calls
import ImageDescriptor.Db.Sessions
import ImageDescriptor.Db.Backoff
import ImageDescriptor.Db.Discards
import ImageDescriptor.Db.Creation
import ImageDescriptor.Db.Outages
import ImageDescriptor.Db.LongOutages
import ImageDescriptor.Db.Paging
import ImageDescriptor.Api.Schemas
import ImageDescriptor.Api.Routes
import ImageDescriptor.Utils.Errors
import ImageDescriptor.Utils.Retry
import ImageDescriptor.Utils.CircuitBreaker
import ImageDescriptor.Utils.BreakerHistory
import ImageDescriptor.Utils.StatusReads
import ImageDescriptor.Utils.Logging
import ImageDescriptor.Utils.RequestIds
import ImageDescriptor.Modules.Lookup
import ImageDescriptor.Modules.Geocoder
import ImageDescriptor.Modules.Landcover
import ImageDescriptor.Modules.LandcoverClasses
import ImageDescriptor.Modules.Mission
import ImageDescriptor.Modules.Context
import ImageDescriptor.Modules.Describer
import ImageDescriptor.Modules.CachedCalls
import ImageDescriptor.Modules.CacheCoherence
import ImageDescriptor.Modules.KeyIsolation
import ImageDescriptor.Modules.NominatimRate
import ImageDescriptor.Modules.GeocodeCalls
import ImageDescriptor.Modules.SharedLookups
import ImageDescriptor.Modules.RequestedPoint
import ImageDescriptor.Modules.Download
import ImageDescriptor.Modules.Rebinding
import ImageDescriptor.Modules.BoundedDownload
import ImageDescriptor.Auth.Jwks
import ImageDescriptor.Auth.KeySets
import ImageDescriptor.Auth.Authenticate
import ImageDescriptor.Services.Composer
import ImageDescriptor.Services.BreakerAccounting
import ImageDescriptor.Services.OpenPeriod
import ImageDescriptor.Services.CallRecords
import ImageDescriptor.Services.UnusableAnswers
import ImageDescriptor.Services.OneComposition
import ImageDescriptor.Services.CompletionOrder
import ImageDescriptor.Services.MissingParts
import ImageDescriptor.Services.RequestFaults
import ImageDescriptor.Services.PlaceNames
import ImageDescriptor.Api.Validation
import ImageDescriptor.Modules.CacheKeys
import ImageDescriptor.Api.Etags
import ImageDescriptor.Api.StoredDescriptions
import ImageDescriptor.Api.ImageHistory
import ImageDescriptor.Api.RepeatedSaves
import ImageDescriptor.Api.Batch
import ImageDescriptor.Api.BatchItems
import ImageDescriptor.App.InFlight
import ImageDescriptor.Utils.RequestLog
import ImageDescriptor.Lib.Layers
import ImageDescriptor.App.Stack
import ImageDescriptor.Modules.Thumbnails
import ImageDescriptor.Python.JsonText
import ImageDescriptor.Cache.StoredTexts
import ImageDescriptor.App.HttpClient
import ImageDescriptor.App.RateLimits
import ImageDescriptor.App.Shutdown
import ImageDescriptor.App.BatchJobs
import ImageDescriptor.App.GracefulStop
import ImageDescriptor.App.Probes
import ImageDescriptor.Legacy.Routes
import ImageDescriptor.Legacy.Redirect
import ImageDescriptor.Legacy.Routing
import ImageDescriptor.Api.DescribedAgain
