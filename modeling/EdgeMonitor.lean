import EdgeMonitor.Backend.AlertAgreement
import EdgeMonitor.Backend.AlertDomain
import EdgeMonitor.Backend.AlertEngine
import EdgeMonitor.Backend.AlertHistory
import EdgeMonitor.Backend.AlertIntervals
import EdgeMonitor.Backend.AlertRepository
import EdgeMonitor.Backend.AlertService
import EdgeMonitor.Backend.Availability
import EdgeMonitor.Backend.Database
import EdgeMonitor.Backend.DeviceRepository
import EdgeMonitor.Backend.DeviceTimestamp
import EdgeMonitor.Backend.DisabledRules
import EdgeMonitor.Backend.LegacySource
import EdgeMonitor.Backend.MessageIsolation
import EdgeMonitor.Backend.MessageSchemas
import EdgeMonitor.Backend.MigrationRuns
import EdgeMonitor.Backend.NewestTelemetry
import EdgeMonitor.Backend.RuleChanges
import EdgeMonitor.Backend.SchemaMigration
import EdgeMonitor.Backend.StoredRules
import EdgeMonitor.Backend.Subscriber
import EdgeMonitor.Backend.Validation
import EdgeMonitor.Base.Autocommit
import EdgeMonitor.Base.CMemory
import EdgeMonitor.Base.Calendar
import EdgeMonitor.Base.Check
import EdgeMonitor.Base.Decimal
import EdgeMonitor.Base.Durable
import EdgeMonitor.Base.Episodes
import EdgeMonitor.Base.Failing
import EdgeMonitor.Base.Json
import EdgeMonitor.Base.JsonText
import EdgeMonitor.Base.Layout
import EdgeMonitor.Base.LineReading
import EdgeMonitor.Base.Lockout
import EdgeMonitor.Base.Machine
import EdgeMonitor.Base.Numeral
import EdgeMonitor.Base.Raising
import EdgeMonitor.Base.Replacing
import EdgeMonitor.Base.Session
import EdgeMonitor.Base.SignedRange
import EdgeMonitor.Base.Stages
import EdgeMonitor.Base.Table
import EdgeMonitor.Base.Text
import EdgeMonitor.Base.Threads
import EdgeMonitor.Base.Url
import EdgeMonitor.Base.Utf8
import EdgeMonitor.Firmware.AccessControl
import EdgeMonitor.Firmware.Activation
import EdgeMonitor.Firmware.Application
import EdgeMonitor.Firmware.Bme280
import EdgeMonitor.Firmware.BootLimit
import EdgeMonitor.Firmware.BootSelection
import EdgeMonitor.Firmware.BrokerUri
import EdgeMonitor.Firmware.CandidateRequest
import EdgeMonitor.Firmware.Compensation
import EdgeMonitor.Firmware.ConfigOperations
import EdgeMonitor.Firmware.ConfigStorage
import EdgeMonitor.Firmware.ConfigStore
import EdgeMonitor.Firmware.ConfigValidate
import EdgeMonitor.Firmware.ConfigurationResponses
import EdgeMonitor.Firmware.DeviceConfig
import EdgeMonitor.Firmware.DeviceHealth
import EdgeMonitor.Firmware.DiagnosticLog
import EdgeMonitor.Firmware.DiagnosticRing
import EdgeMonitor.Firmware.HealthChanges
import EdgeMonitor.Firmware.HealthRevision
import EdgeMonitor.Firmware.HealthTask
import EdgeMonitor.Firmware.LogCursor
import EdgeMonitor.Firmware.LoginLimit
import EdgeMonitor.Firmware.MaintenanceWindow
import EdgeMonitor.Firmware.MetadataSteps
import EdgeMonitor.Firmware.OnlineAvailability
import EdgeMonitor.Firmware.OperationPlans
import EdgeMonitor.Firmware.Payloads
import EdgeMonitor.Firmware.ProvisioningHttp
import EdgeMonitor.Firmware.ProvisioningPage
import EdgeMonitor.Firmware.ProvisioningSecurity
import EdgeMonitor.Firmware.PublicationLoop
import EdgeMonitor.Firmware.ReplacedSecrets
import EdgeMonitor.Firmware.ReportedState
import EdgeMonitor.Firmware.Rollback
import EdgeMonitor.Firmware.SecretComparison
import EdgeMonitor.Firmware.SensorHandles
import EdgeMonitor.Firmware.SerialRecovery
import EdgeMonitor.Firmware.SessionTokens
import EdgeMonitor.Firmware.SetupSecret
import EdgeMonitor.Firmware.Staging
import EdgeMonitor.Firmware.StorageFormat
import EdgeMonitor.Firmware.StreamGenerations
import EdgeMonitor.Firmware.StreamLifecycle
import EdgeMonitor.Firmware.StreamService
import EdgeMonitor.Firmware.StreamSession
import EdgeMonitor.Firmware.StreamSockets
import EdgeMonitor.Firmware.StreamStop
import EdgeMonitor.Firmware.TelemetryCycle
import EdgeMonitor.Scripts.AcceptedPackages
import EdgeMonitor.Scripts.BrokerIsolation
import EdgeMonitor.Scripts.BrokerUris
import EdgeMonitor.Scripts.ConcurrentUpdates
import EdgeMonitor.Scripts.CredentialCommands
import EdgeMonitor.Scripts.CredentialUpdates
import EdgeMonitor.Scripts.DeviceCredentials
import EdgeMonitor.Scripts.DeviceIdentities
import EdgeMonitor.Scripts.DeviceLifecycle
import EdgeMonitor.Scripts.GeneratedBundle
import EdgeMonitor.Scripts.MosquittoSecurity
import EdgeMonitor.Scripts.PlannedBundles
import EdgeMonitor.Scripts.PublishedMessages
import EdgeMonitor.Scripts.PublishedRuns
import EdgeMonitor.Scripts.Revocation
