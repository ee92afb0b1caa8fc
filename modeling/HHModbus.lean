import HHModbus.Lib.Transition
import HHModbus.Lib.WriteBehind
import HHModbus.Bits
import HHModbus.BitUpdates
import HHModbus.Controller
import HHModbus.Lib.Numerals
import HHModbus.Encoding
import HHModbus.ForceCommands
import HHModbus.LinkLoss
import HHModbus.ClientManager
import HHModbus.Dispatch
import HHModbus.DispatchStop
import HHModbus.DispatchReadBack
import HHModbus.Decode
import HHModbus.Lib.Ranges
import HHModbus.SensorGroup
import HHModbus.Recovery
import HHModbus.RecoveryLinkFailure
import HHModbus.RecoveryGroups
import HHModbus.Lib.Assembly
import HHModbus.RecoveryIsolation
import HHModbus.SolisSensor
import HHModbus.RegisterSpaces
import HHModbus.TornValues
import HHModbus.StorageModes
import HHModbus.FailedToggle
import HHModbus.CompanionWrites
import HHModbus.SunsynkSensors
import HHModbus.SunsynkDecode
import HHModbus.PollDelivery
import HHModbus.Lib.Cooperative
import HHModbus.PollProgram
import HHModbus.PollTraffic
import HHModbus.PollConnections
import HHModbus.PollSilence
import HHModbus.Watchdog
import HHModbus.WatchdogGuard
import HHModbus.WatchdogStop
import HHModbus.WatchdogTraffic
import HHModbus.Lib.Debounce
import HHModbus.SpikeFilter
import HHModbus.ClockDrift
import HHModbus.ConnectFailures
import HHModbus.NumberEntity
import HHModbus.StorageModeSelect
import HHModbus.FrameSpacing
import HHModbus.SerialProxy
import HHModbus.SolisConfig
import HHModbus.ConfigFlow
import HHModbus.Lib.Suspension
import HHModbus.CachePoll
import HHModbus.CacheDiscipline
import HHModbus.CacheOrder
import HHModbus.Lib.Renaming
import HHModbus.SolisEntities
import HHModbus.EntityKeys
import HHModbus.SerialMigration
import HHModbus.Lib.Stripping
import HHModbus.TextRegisters
import HHModbus.CacheKeys
import HHModbus.Lib.TwosComplement
import HHModbus.WordPairs
import HHModbus.Identifications
import HHModbus.PollProfileMigration
import HHModbus.Clusters
import HHModbus.RegistryTable
import HHModbus.DictMigration
import HHModbus.DictMigrationGroups
import HHModbus.DictMigrationRuns
import HHModbus.GroupConservation
import HHModbus.DerivedSensor
import HHModbus.DerivedPower
import HHModbus.DerivedFeeds
import HHModbus.Lib.Segments
import HHModbus.SunsynkGroups
import HHModbus.SunsynkConnector
import HHModbus.SunsynkWrites
import HHModbus.SunsynkSettings
import HHModbus.SunsynkReading
import HHModbus.Lib.Worklist
import HHModbus.SunsynkOptions
import HHModbus.SunsynkCommands
import HHModbus.SunsynkNewest
import HHModbus.SunsynkReports
import HHModbus.SunsynkHistories
import HHModbus.SunsynkBounds
import HHModbus.SunsynkBoundSteps
import HHModbus.SunsynkBoundRuns
import HHModbus.TimeEntity
import HHModbus.SunsynkTimes
