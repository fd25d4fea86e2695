import QsoRipper.Lib.Program
import QsoRipper.Lib.Contract
import QsoRipper.Lib.Transition
import QsoRipper.Lib.Fallible
import QsoRipper.Lib.Locks
import QsoRipper.Lib.Number
import QsoRipper.Lib.Tasks
import QsoRipper.Lib.Pool
import QsoRipper.Lib.Unicode
import QsoRipper.Lib.Text
import QsoRipper.Lib.Float64
import QsoRipper.Domain.Record
import QsoRipper.Storage.Store
import QsoRipper.Storage.Memory
import QsoRipper.Ports
import QsoRipper.Domain.Station
import QsoRipper.Lib.ReadModifyWrite
import QsoRipper.Application.Logbook
import QsoRipper.Server.Matching
import QsoRipper.Server.Merge
import QsoRipper.Server.Upload
import QsoRipper.Server.Sync
import QsoRipper.Server.Contract
import QsoRipper.Server.Interference
import QsoRipper.Server.Linkage
import QsoRipper.Application.Operators
import QsoRipper.Server.Purge
import QsoRipper.Server.Exclusion
import QsoRipper.Server.Deletion
import QsoRipper.Server.Download
import QsoRipper.Server.LotwDownload
import QsoRipper.Server.Fidelity
import QsoRipper.Server.Redownload
import QsoRipper.Server.Stranding
import QsoRipper.Lib.SharedCell
import QsoRipper.Lotw.Sync
import QsoRipper.Lotw.Metadata
import QsoRipper.Lotw.Confirmation
import QsoRipper.Application.Edits
import QsoRipper.Application.Backfill
import QsoRipper.Application.Import
import QsoRipper.Application.Reimport
import QsoRipper.Lotw.HighWater
import QsoRipper.Lotw.Signing
import QsoRipper.Domain.Callsign
import QsoRipper.Lookup.Provider
import QsoRipper.Lookup.Coordinator
import QsoRipper.Cw.Watchdog
import QsoRipper.Cw.Worker
import QsoRipper.Lookup.InFlight
import QsoRipper.Lookup.Freshness
import QsoRipper.Wsjtx.Splitter
import QsoRipper.Wsjtx.Tail
import QsoRipper.Adif.Mapper
import QsoRipper.Adif.LotwColumns
import QsoRipper.Lib.NetText
import QsoRipper.DotNet.Storage
import QsoRipper.DotNet.Ports
import QsoRipper.DotNet.QrzSync
import QsoRipper.DotNet.SyncRun
import QsoRipper.DotNet.Conflicts
import QsoRipper.Lib.Trace
import QsoRipper.DotNet.LotwSync
import QsoRipper.DotNet.Metadata
import QsoRipper.DotNet.Parity
import QsoRipper.DotNet.Logbook
import QsoRipper.Lib.Amend
import QsoRipper.DotNet.Linkage
import QsoRipper.Server.Insertion
import QsoRipper.DotNet.Insertion
import QsoRipper.DotNet.CwKeying
import QsoRipper.DotNet.CwWatchdog
import QsoRipper.DotNet.Setup
import QsoRipper.DotNet.Profiles
import QsoRipper.DotNet.SetupFailure
import QsoRipper.Rig.Rigctld
import QsoRipper.Rig.Session
import QsoRipper.Lib.FloatText
import QsoRipper.Setup.ProfileId
import QsoRipper.Setup.Persisted
import QsoRipper.Setup.Values
import QsoRipper.Setup.Mutation
import QsoRipper.Setup.Components
import QsoRipper.Lib.Toml
import QsoRipper.Setup.Document
import QsoRipper.Setup.RoundTrip
import QsoRipper.Setup.Saving
import QsoRipper.Setup.Catalog
import QsoRipper.Win32.Form
import QsoRipper.Win32.Window
import QsoRipper.Win32.Selection
import QsoRipper.Win32.Content
import QsoRipper.Win32.Typing
import QsoRipper.Win32.Alike
import QsoRipper.Win32.Inherit
import QsoRipper.Tui.Form
import QsoRipper.Tui.App
import QsoRipper.Tui.Provenance
import QsoRipper.Tui.Saves
import QsoRipper.Lib.Lines
import QsoRipper.Tui.Grpc
import QsoRipper.Tui.Texts
import QsoRipper.Tui.ExtraFields
import QsoRipper.Tui.RoundTrip
import QsoRipper.DotNet.Import
import QsoRipper.DotNet.Contacts
import QsoRipper.DotNet.Replay
import QsoRipper.Lib.Decimal
import QsoRipper.Adif.Frequency
import QsoRipper.Application.Duplicates
import QsoRipper.Application.Diagnostic
import QsoRipper.Domain.HomeCall
import QsoRipper.Gui.Logger
import QsoRipper.Gui.Inherited
import QsoRipper.Lib.NetUpper
import QsoRipper.Gui.Card
import QsoRipper.Gui.CardTexts
import QsoRipper.Gui.CardExtra
import QsoRipper.Cw.Template
import QsoRipper.Cw.Port
import QsoRipper.Lib.BigEndian
import QsoRipper.Wsjtx.Datagram
import QsoRipper.DotNet.Wsjtx
import QsoRipper.DotNet.Frequency
import QsoRipper.Server.Redeletion
import QsoRipper.DotNet.Redeletion
import QsoRipper.Lookup.Streaming
import QsoRipper.Lib.DisjointSets
import QsoRipper.Lib.Grouping
import QsoRipper.Server.PurgeDuplicates
import QsoRipper.Server.PurgeChains
import QsoRipper.Lib.Replace
import QsoRipper.Lib.AsciiCase
import QsoRipper.Adif.Serialized
import QsoRipper.Qrz.Fetch
import QsoRipper.Qrz.Folding
import QsoRipper.Qrz.FetchExact
import QsoRipper.DotNet.CallsignParser
import QsoRipper.Lib.Utf8
import QsoRipper.Lib.Tail
import QsoRipper.Lib.Segments
import QsoRipper.Lib.Calendar
import QsoRipper.Ffi.DateTime
import QsoRipper.Ffi.Calendar
import QsoRipper.Ffi.Reading
import QsoRipper.Ffi.Exactness
import QsoRipper.Setup.Migration
import QsoRipper.Contest.Wa7bnm
import QsoRipper.Contest.Feed
import QsoRipper.Application.Monitors
import QsoRipper.Lib.JsonText
import QsoRipper.Win32.JsonParser
import QsoRipper.Win32.CliOutput
import QsoRipper.Win32.CommandLine
import QsoRipper.Cli.Arguments
import QsoRipper.Cli.Contacts
import QsoRipper.Win32.CliSaves
