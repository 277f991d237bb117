import CrashCatcher.Lib.Int64
import CrashCatcher.Lib.Text
import CrashCatcher.Model.Record
import CrashCatcher.Model.GroupKey
import CrashCatcher.Merge.Pending
import CrashCatcher.Lib.Selection
import CrashCatcher.Merge.Selection
import CrashCatcher.Merge.OneRecord
import CrashCatcher.Daemon.KeyAccounting
import CrashCatcher.Store.Ids
import CrashCatcher.Store.IdOrder
import CrashCatcher.Store.Atomic
import CrashCatcher.Store.Walk
import CrashCatcher.Store.History
import CrashCatcher.Merge.Identity
import CrashCatcher.Merge.SingleShot
import CrashCatcher.Daemon.Pages
import CrashCatcher.Daemon.Export
import CrashCatcher.Watch.Loop
import CrashCatcher.Daemon.CorruptConfig
import CrashCatcher.Daemon.Mutes
import CrashCatcher.Daemon.SelfHandled
import CrashCatcher.Store.Ceilings
import CrashCatcher.Daemon.Announced
import CrashCatcher.Daemon.CursorText
import CrashCatcher.Daemon.GroupPages
import CrashCatcher.Bridge.Pending
import CrashCatcher.Bridge.Routing
import CrashCatcher.Daemon.Handshake
import CrashCatcher.Daemon.Undecodable
import CrashCatcher.Manager.Exchanges
import CrashCatcher.Manager.Texts
import CrashCatcher.Daemon.Reingest
import CrashCatcher.Daemon.FailedMute
import CrashCatcher.Daemon.EventBus
import CrashCatcher.Daemon.PackageReload
import CrashCatcher.Daemon.Reclassify
import CrashCatcher.Manager.FrameCodec
import CrashCatcher.Collect.NativeRebuild
import CrashCatcher.Logd.EventFormat
import CrashCatcher.Bridge.Session
import CrashCatcher.Daemon.UnlockRace
import CrashCatcher.Manager.RequestMeaning
import CrashCatcher.Manager.ReplyMeaning
import CrashCatcher.Store.Deletion
import CrashCatcher.Daemon.Chunks
import CrashCatcher.Merge.Skew
import CrashCatcher.Merge.Flush
import CrashCatcher.Auth.Authenticator
import CrashCatcher.Auth.ReaderTotal
import CrashCatcher.Daemon.LogSink
import CrashCatcher.Store.Statistics
import CrashCatcher.Store.Orphans
import CrashCatcher.Watch.Poll
import CrashCatcher.Daemon.GlobalConfig
import CrashCatcher.Daemon.Apps
import CrashCatcher.Manager.CrashList
import CrashCatcher.Manager.GroupPage
import CrashCatcher.Collect.HeaderText
import CrashCatcher.Collect.FrameText
import CrashCatcher.Logd.CrashBuffer
import CrashCatcher.Watch.InotifyBuffer
import CrashCatcher.Manager.PayloadText
import CrashCatcher.Manager.StackFrames
import CrashCatcher.Merge.TwoFragments
import CrashCatcher.Collect.Fragments
import CrashCatcher.Lib.LineByLine
import CrashCatcher.Lib.TwoRuns
import CrashCatcher.Collect.Renumbered
import CrashCatcher.Model.JavaFrames
import CrashCatcher.Collect.Rebuild
import CrashCatcher.Auth.Platform
import CrashCatcher.Bridge.Answers
import CrashCatcher.Bridge.Link
import CrashCatcher.Collect.Activity
import CrashCatcher.Daemon.LogRuns
import CrashCatcher.Bridge.Supervisor
import CrashCatcher.Store.Migration
import CrashCatcher.Collect.DropBox
