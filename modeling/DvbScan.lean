import DvbScan.Main
import DvbScan.Scan.Bench
import DvbScan.Store.Listing
import DvbScan.Store.Topology
import DvbScan.Store.Worker
import DvbScan.Proofs.SweepRun
import DvbScan.Proofs.SweepNotes
import DvbScan.Proofs.SweepPlans
import DvbScan.Proofs.ArrivalOrder
import DvbScan.Proofs.BlankSweep
import DvbScan.Proofs.BoundedRun
import DvbScan.Proofs.CarriedServices
import DvbScan.Proofs.ChannelRestart
import DvbScan.Proofs.ChannelSuccess
import DvbScan.Proofs.ClosedFilters
import DvbScan.Proofs.CompleteTables
import DvbScan.Proofs.FilterIsolation
import DvbScan.Proofs.FutureSections
import DvbScan.Proofs.GrowingTopology
import DvbScan.Proofs.JobQueue
import DvbScan.Proofs.JustifiedEnd
import DvbScan.Proofs.LineupMeaning
import DvbScan.Proofs.Lookup
import DvbScan.Proofs.MultiplexLine
import DvbScan.Proofs.NetworkLayout
import DvbScan.Proofs.NoMisstep
import DvbScan.Proofs.NetworkChecksum
import DvbScan.Proofs.RepeatedCommit
import DvbScan.Proofs.Rescan
import DvbScan.Proofs.WriteHistory
import DvbScan.Proofs.StoredNetworks
import DvbScan.Proofs.StoredTunings
import DvbScan.Proofs.ServiceChecksum
import DvbScan.Proofs.ServiceFreshness
import DvbScan.Proofs.ServiceLayout
import DvbScan.Proofs.SourceIsolation
import DvbScan.Proofs.StaleEvents
import DvbScan.Proofs.StalledSweep
import DvbScan.Proofs.SweepLifecycle
import DvbScan.Proofs.TableHistory
import DvbScan.Proofs.ToldOnce
import DvbScan.Proofs.ToldTopology
import DvbScan.Proofs.TransponderLine
import DvbScan.Proofs.TriedTransports
import DvbScan.Proofs.TuneHarvest
import DvbScan.Proofs.TuneOnce
import DvbScan.Proofs.TuningOrder
import DvbScan.Proofs.TuningRoundTrip
import DvbScan.Proofs.VersionContest
import DvbScan.Proofs.HeardAgain
import DvbScan.Proofs.PrivateDescriptors
import DvbScan.Proofs.PropertyOrder
import DvbScan.Proofs.RefusedLines
import DvbScan.Proofs.ChannelKeys
import DvbScan.Proofs.NearTunings
import DvbScan.Proofs.ProviderLinks
import DvbScan.Proofs.StoredLineup
import DvbScan.Proofs.LoopFraming
import DvbScan.Proofs.ListDescriptors
import DvbScan.Proofs.RetoldTunings
import DvbScan.Proofs.LetterCase
import DvbScan.Proofs.SectionFraming
import DvbScan.Proofs.FirstCell
import DvbScan.Proofs.RasterReading
import DvbScan.Proofs.TextUnits
import DvbScan.Proofs.FieldValues
import DvbScan.Proofs.RetentionWindow
