import Gochoreo.L1Value.GoLib
import Gochoreo.L1Value.Version
import Gochoreo.L1Value.Value
import Gochoreo.L1Value.Errors
import Gochoreo.L1Value.VersionUtils
import Gochoreo.L2Detect.Detector
import Gochoreo.L3Registry.Metrics
import Gochoreo.L3Registry.Manager
import Gochoreo.L3Registry.Compatibility
import Gochoreo.L3Registry.CompatibilityMatrix
import Gochoreo.L4Migrate.Migrator
import Gochoreo.L4Migrate.Automatic
import Gochoreo.L5Concurrency.Registration
import Gochoreo.L6Client.Dragonfly.Metrics
import Gochoreo.L6Client.Dragonfly.Latency
import Gochoreo.L6Client.Dragonfly.Counters
import Gochoreo.L6Client.Dragonfly.Health
import Gochoreo.L6Client.Dragonfly.Config
import Gochoreo.L6Client.Dragonfly.Retry
import Gochoreo.L6Client.Dragonfly.Info
import Gochoreo.L6Client.Dragonfly.Utils
import Gochoreo.L6Client.Vault.Cache
import Gochoreo.L6Client.Postgres.Config
