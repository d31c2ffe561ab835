import OpcUaAdapter.AdapterThread
import OpcUaAdapter.AddressSpace
import OpcUaAdapter.Config
import OpcUaAdapter.ExplicitMapping
import OpcUaAdapter.FluxRead
import OpcUaAdapter.Generator.Config
import OpcUaAdapter.Generator.ConfigTree
import OpcUaAdapter.Generator.Directory
import OpcUaAdapter.Generator.MapGenerator
import OpcUaAdapter.Generator.PythonText
import OpcUaAdapter.HealthMonitoring
import OpcUaAdapter.Historizing
import OpcUaAdapter.HistoryAccess
import OpcUaAdapter.HistoryBackend
import OpcUaAdapter.HistorySetups
import OpcUaAdapter.ImplicitMapping
import OpcUaAdapter.InfluxClient
import OpcUaAdapter.LdsRegistration
import OpcUaAdapter.Library.Acyclic
import OpcUaAdapter.Library.Agreement
import OpcUaAdapter.Library.Conveyor
import OpcUaAdapter.Library.Delimited
import OpcUaAdapter.Library.Effects
import OpcUaAdapter.Library.FirstByKey
import OpcUaAdapter.Library.FirstFound
import OpcUaAdapter.Library.FloorLog
import OpcUaAdapter.Library.KeyedUpdates
import OpcUaAdapter.Library.Machine
import OpcUaAdapter.Library.Paging
import OpcUaAdapter.Library.Paths
import OpcUaAdapter.Library.Quoted
import OpcUaAdapter.LineProtocol
import OpcUaAdapter.LineReader
import OpcUaAdapter.MapFile
import OpcUaAdapter.Numeral
import OpcUaAdapter.Proofs.AccessFaults
import OpcUaAdapter.Proofs.AdapterGrowth
import OpcUaAdapter.Proofs.AdapterStop
import OpcUaAdapter.Proofs.AdditionalVariables
import OpcUaAdapter.Proofs.ArrayHistory
import OpcUaAdapter.Proofs.AsyncError
import OpcUaAdapter.Proofs.BatchAttempts
import OpcUaAdapter.Proofs.BatchEquivalence
import OpcUaAdapter.Proofs.BatchPayload
import OpcUaAdapter.Proofs.ClientCounters
import OpcUaAdapter.Proofs.ComponentReferences
import OpcUaAdapter.Proofs.ConfigReading
import OpcUaAdapter.Proofs.ConfigReloading
import OpcUaAdapter.Proofs.ConfigRewriting
import OpcUaAdapter.Proofs.CopiedFolder
import OpcUaAdapter.Proofs.CopiedNames
import OpcUaAdapter.Proofs.CopiedSpace
import OpcUaAdapter.Proofs.CsvLine
import OpcUaAdapter.Proofs.CsvTables
import OpcUaAdapter.Proofs.DecimalText
import OpcUaAdapter.Proofs.DeepCopy
import OpcUaAdapter.Proofs.ErrorReports
import OpcUaAdapter.Proofs.ExcludeCoverage
import OpcUaAdapter.Proofs.ExcludePatterns
import OpcUaAdapter.Proofs.FolderCopies
import OpcUaAdapter.Proofs.FolderFaults
import OpcUaAdapter.Proofs.FolderGraph
import OpcUaAdapter.Proofs.FolderLinks
import OpcUaAdapter.Proofs.FolderNames
import OpcUaAdapter.Proofs.FolderNodes
import OpcUaAdapter.Proofs.FolderPaths
import OpcUaAdapter.Proofs.FolderTable
import OpcUaAdapter.Proofs.FolderWalks
import OpcUaAdapter.Proofs.FundamentalError
import OpcUaAdapter.Proofs.GeneratedSettings
import OpcUaAdapter.Proofs.GeneratorNames
import OpcUaAdapter.Proofs.GeneratorTree
import OpcUaAdapter.Proofs.HealthCallback
import OpcUaAdapter.Proofs.HealthNodes
import OpcUaAdapter.Proofs.HealthSteps
import OpcUaAdapter.Proofs.HistorizingTable
import OpcUaAdapter.Proofs.HistoryBounds
import OpcUaAdapter.Proofs.HistoryIndependence
import OpcUaAdapter.Proofs.HistoryOrder
import OpcUaAdapter.Proofs.HistoryPaging
import OpcUaAdapter.Proofs.HistoryRegistrations
import OpcUaAdapter.Proofs.HistorySaving
import OpcUaAdapter.Proofs.HistorySelection
import OpcUaAdapter.Proofs.HistoryWindow
import OpcUaAdapter.Proofs.ImplicitNodes
import OpcUaAdapter.Proofs.InPlaceUpdates
import OpcUaAdapter.Proofs.LdsRegistrations
import OpcUaAdapter.Proofs.LineRoundTrip
import OpcUaAdapter.Proofs.LoadAtomicity
import OpcUaAdapter.Proofs.LoadFailures
import OpcUaAdapter.Proofs.MapLoading
import OpcUaAdapter.Proofs.MapReloading
import OpcUaAdapter.Proofs.MappingComparison
import OpcUaAdapter.Proofs.MappingFaults
import OpcUaAdapter.Proofs.MappingSteps
import OpcUaAdapter.Proofs.NumberHistory
import OpcUaAdapter.Proofs.NumberRounding
import OpcUaAdapter.Proofs.NumberText
import OpcUaAdapter.Proofs.OwnNodes
import OpcUaAdapter.Proofs.PythonInteger
import OpcUaAdapter.Proofs.QueryText
import OpcUaAdapter.Proofs.ResponseFailures
import OpcUaAdapter.Proofs.RetryDelays
import OpcUaAdapter.Proofs.RootFolder
import OpcUaAdapter.Proofs.Sending
import OpcUaAdapter.Proofs.SettingNumbers
import OpcUaAdapter.Proofs.SetupReading
import OpcUaAdapter.Proofs.SpaceIntegrity
import OpcUaAdapter.Proofs.SpaceSteps
import OpcUaAdapter.Proofs.StopTermination
import OpcUaAdapter.Proofs.StringHistory
import OpcUaAdapter.Proofs.StringLiteral
import OpcUaAdapter.Proofs.TableReading
import OpcUaAdapter.Proofs.TagMerging
import OpcUaAdapter.Proofs.TimestampRoundTrip
import OpcUaAdapter.Proofs.ValueReadBack
import OpcUaAdapter.Proofs.ValueWriting
import OpcUaAdapter.Proofs.VariableEntries
import OpcUaAdapter.Proofs.VariableIds
import OpcUaAdapter.Proofs.VariableNodes
import OpcUaAdapter.Proofs.VariableRenaming
import OpcUaAdapter.Proofs.VariableSorting
import OpcUaAdapter.Proofs.VariableSteps
import OpcUaAdapter.Proofs.VariableUpdates
import OpcUaAdapter.Proofs.WorkerExit
import OpcUaAdapter.Proofs.WriteCapacity
import OpcUaAdapter.Proofs.WriteCounters
import OpcUaAdapter.Proofs.WriteDrain
import OpcUaAdapter.Proofs.WriteHistory
import OpcUaAdapter.Proofs.WriteOrder
import OpcUaAdapter.Proofs.WritePrecision
import OpcUaAdapter.Proofs.WriteSteps
import OpcUaAdapter.Proofs.WrittenConfig
import OpcUaAdapter.Proofs.XmlElements
import OpcUaAdapter.ServerSettings
import OpcUaAdapter.Text
import OpcUaAdapter.UaAdapter
import OpcUaAdapter.UaValue
import OpcUaAdapter.ValueAccess
import OpcUaAdapter.WriteWorker
