import RecordRing.Binary64
import RecordRing.Buffer
import RecordRing.ByteRing
import RecordRing.Channel.Basic
import RecordRing.Channel.Control
import RecordRing.Channel.Crossing
import RecordRing.Channel.Producer
import RecordRing.Clock
import RecordRing.ControlPage
import RecordRing.Descriptors
import RecordRing.EventTarget
import RecordRing.LittleEndian
import RecordRing.LoadGenerator
import RecordRing.LoadPattern
import RecordRing.Log.Directive
import RecordRing.Log.Event
import RecordRing.Log.Filter
import RecordRing.Log.Line
import RecordRing.Main
import RecordRing.MappedFile
import RecordRing.Measure.ByteSize
import RecordRing.Measure.Report
import RecordRing.Measure.Summary
import RecordRing.Measure.Table
import RecordRing.Measure.Timing
import RecordRing.Measure.Usage
import RecordRing.NumberText
import RecordRing.Process.ConsumerRun
import RecordRing.Process.FailureReport
import RecordRing.Process.Feed
import RecordRing.Process.FileTree
import RecordRing.Process.Launch
import RecordRing.Process.ProducerRun
import RecordRing.Proofs.Attachment
import RecordRing.Proofs.Creation
import RecordRing.Proofs.DropEpisodes
import RecordRing.Proofs.Fifo
import RecordRing.Proofs.Framing
import RecordRing.Proofs.HostileMemory
import RecordRing.Proofs.PageInvariant
import RecordRing.Proofs.Publication
import RecordRing.Proofs.PublishedStream
import RecordRing.Proofs.RecordQueue
import RecordRing.Proofs.Settling
import RecordRing.Proofs.StoredBytes
import RecordRing.Proofs.Story
import RecordRing.Proofs.TailRecord
import RecordRing.Proofs.Unattended
import RecordRing.Reader
import RecordRing.Record
import RecordRing.Region
import RecordRing.RingError
import RecordRing.RingPlan
import RecordRing.Session.Basic
import RecordRing.Session.Command
import RecordRing.Session.Perform
import RecordRing.Settings
import RecordRing.ShortestDecimal
import RecordRing.SystemError
import RecordRing.Text.Alphabetic
import RecordRing.Text.Alphanumeric
import RecordRing.Text.Pattern
import RecordRing.Text.Pattern.CharacterClass
import RecordRing.Text.Pattern.Sign
import RecordRing.Text.Pieces
import RecordRing.Text.Quoted
import RecordRing.Text.Ranges
import RecordRing.Toml.Alphabet
import RecordRing.Toml.Bare
import RecordRing.Toml.Document
import RecordRing.Toml.Fault
import RecordRing.Toml.Grammar
import RecordRing.Toml.Moment
import RecordRing.Toml.Quoted
import RecordRing.Toml.Reading
import RecordRing.Toml.Token
import RecordRing.Toml.Value
import RecordRing.Watermark
import RecordRing.Proofs.Crossings
import RecordRing.Proofs.FillSteps
import RecordRing.Proofs.Notifications
import RecordRing.Proofs.Wakeups
import RecordRing.Proofs.PatternRoundTrip
import RecordRing.Proofs.SequenceWalk
import RecordRing.Proofs.GeneratorTraffic
import RecordRing.Proofs.LongestPrefix
import RecordRing.Proofs.UnreadBytes
import RecordRing.Proofs.EmptiedRing
import RecordRing.Proofs.StaleBytes
import RecordRing.Proofs.FreshStart
import RecordRing.Proofs.SecondMapping
import RecordRing.Proofs.AdmittedPages
import RecordRing.Proofs.FileViews
import RecordRing.Proofs.ConsumerIdling
import RecordRing.Proofs.GeneratorSizes
import RecordRing.Proofs.SettingsAgreement
import RecordRing.Proofs.WholeRecords
import RecordRing.Proofs.DrainingWays
import RecordRing.Proofs.PushReadOrder
import RecordRing.Proofs.FileLocations
import RecordRing.Proofs.MappedRing
import RecordRing.Proofs.ProducerAccounts
import RecordRing.Proofs.ProducerBalance
import RecordRing.Proofs.PushTimes
import RecordRing.Proofs.UndrainedRuns
import RecordRing.Proofs.DamagedPayload
import RecordRing.Proofs.EarlierEffects
import RecordRing.Proofs.RefusedCalls
import RecordRing.Proofs.SharedCounter
import RecordRing.Proofs.UndrainedProducer
import RecordRing.Proofs.NearestRanks
import RecordRing.Proofs.RecordFormat
import RecordRing.Proofs.AwaitedRing
import RecordRing.Proofs.AdoptedDescriptor
import RecordRing.Proofs.RemainderIndexing
