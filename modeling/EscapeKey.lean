import EscapeKey.Text.Blank
import EscapeKey.Text.Uppercase
import EscapeKey.Text.Decimal
import EscapeKey.Key
import EscapeKey.Key.Names
import EscapeKey.Action
import EscapeKey.Mods.Basic
import EscapeKey.Modifier
import EscapeKey.Mods.Held
import EscapeKey.Mods.Spelling
import EscapeKey.Combo
import EscapeKey.Combo.Spelling
import EscapeKey.Combo.Strokes
import EscapeKey.PressedKeys
import EscapeKey.Override
import EscapeKey.Host
import EscapeKey.Host.Guard
import EscapeKey.Host.Script
import EscapeKey.Counter
import EscapeKey.Tap
import EscapeKey.Engine
import EscapeKey.Engine.Session
import EscapeKey.Trace
import EscapeKey.Trace.Reading
import EscapeKey.Trace.Replay
import EscapeKey.Log
import EscapeKey.Log.Host
import EscapeKey.Log.Engine
import EscapeKey.Log.Trace
import EscapeKey.Text.Padding
import EscapeKey.Text.Control
import EscapeKey.Toml.Value
import EscapeKey.Toml.Reader
import EscapeKey.Toml.Text
import EscapeKey.Toml.Number
import EscapeKey.Toml.DateTime
import EscapeKey.Toml.Statement
import EscapeKey.Toml.Document
import EscapeKey.Config
import EscapeKey.Config.Settings
import EscapeKey.Config.Validation
import EscapeKey.Log.Config
import EscapeKey.CommandLine.Invocation
import EscapeKey.CommandLine.Failure
import EscapeKey.CommandLine.Run
import EscapeKey.Config.Decoding
import EscapeKey.CommandLine.Program
import EscapeKey.Main
import EscapeKey.Proofs.Mods.HeldKeys
import EscapeKey.Proofs.Host.HeldMods
import EscapeKey.Proofs.Engine.TimedPresses
import EscapeKey.Proofs.Engine.Runs
import EscapeKey.Proofs.Tap.Runs
import EscapeKey.Proofs.Engine.TapProjection
import EscapeKey.Proofs.Tap.Presses
import EscapeKey.Proofs.Tap.Readings
import EscapeKey.Proofs.Counter.Elapsed
import EscapeKey.Proofs.Tap.YoungRuns
import EscapeKey.Proofs.Engine.Readings
import EscapeKey.Proofs.Trace.TimedEvents
import EscapeKey.Proofs.Trace.Rollover
import EscapeKey.Proofs.Combo.StrokeKeys
import EscapeKey.Proofs.Host.DownKeys
import EscapeKey.Proofs.Host.ScriptRuns
import EscapeKey.Proofs.Host.StuckKeys
import EscapeKey.Proofs.Host.Reports
import EscapeKey.Proofs.Host.Chords
import EscapeKey.Proofs.Host.Histories
import EscapeKey.Proofs.Host.Calls
import EscapeKey.Proofs.Host.GuardedMods
import EscapeKey.Proofs.Engine.Emissions
import EscapeKey.Proofs.Text.Words
import EscapeKey.Proofs.Key.Names
import EscapeKey.Proofs.Mods.Labels
import EscapeKey.Proofs.Trace.RoundTrip
import EscapeKey.Proofs.Trace.Delays
import EscapeKey.Proofs.Engine.HostIndependence
import EscapeKey.Proofs.Trace.Cuts
import EscapeKey.Proofs.Tap.Histories
import EscapeKey.Proofs.Tap.MultiTapRuns
import EscapeKey.Proofs.Combo.Spelling
import EscapeKey.Proofs.Config.Checks
import EscapeKey.Proofs.Config.Validity
import EscapeKey.Proofs.Host.AppliedRules
import EscapeKey.Proofs.Tap.TwoTaps
import EscapeKey.Proofs.Text.Pieces
import EscapeKey.Proofs.Key.Spellings
import EscapeKey.Proofs.Combo.Grammar
import EscapeKey.Proofs.Combo.Language
import EscapeKey.Proofs.Combo.RoundTrip
import EscapeKey.Proofs.Combo.Insertions
import EscapeKey.Proofs.Tap.ToggleRuns
import EscapeKey.Proofs.Combo.StrokeSides
import EscapeKey.Proofs.Host.StrokeCounts
import EscapeKey.Proofs.Host.AlikeChords
import EscapeKey.Proofs.Text.Lines
import EscapeKey.Proofs.Trace.FirstFault
import EscapeKey.Proofs.Tap.LatchProgress
import EscapeKey.Proofs.Override.Matches
import EscapeKey.Proofs.Override.GenericRules
import EscapeKey.Proofs.Override.TableEdits
import EscapeKey.Proofs.Mods.Lists
import EscapeKey.Proofs.Trace.Fields
import EscapeKey.Proofs.Trace.Layout
import EscapeKey.Proofs.Config.Defaults
import EscapeKey.Proofs.Counter.ExactTimes
import EscapeKey.Proofs.Tap.Consistency
import EscapeKey.Proofs.CommandLine.ReportSection
import EscapeKey.Proofs.CommandLine.Outcomes
