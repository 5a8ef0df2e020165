import Marquee.Editor.Listing
import Marquee.Editor.Picky
import Marquee.Main
import Marquee.Proofs.Editor.Place
import Marquee.Proofs.Editor.Growth
import Marquee.Proofs.Editor.Forest
import Marquee.Proofs.Editor.Unrepeated
import Marquee.Proofs.Editor.Making
import Marquee.Proofs.Editor.Shown
import Marquee.Proofs.Editor.Laying
import Marquee.Proofs.Editor.RoundTrip
import Marquee.Proofs.Editor.Subtree
import Marquee.Proofs.Editor.Saving
import Marquee.Proofs.Editor.Reload
import Marquee.Proofs.Editor.Logging
import Marquee.Proofs.Editor.Accounting
import Marquee.Proofs.Editor.Clean
import Marquee.Proofs.Editor.Connecting
import Marquee.Proofs.Editor.Complete
import Marquee.Proofs.Editor.Repeats
import Marquee.Proofs.Editor.Filling
import Marquee.Proofs.Editor.Alongside
import Marquee.Proofs.Editor.Loose
import Marquee.Proofs.Editor.Refusing
import Marquee.Proofs.Editor.Adjoining
import Marquee.Proofs.Editor.Unbounded
import Marquee.Proofs.Editor.Emission
import Marquee.Proofs.Editor.Numbering
import Marquee.Proofs.Editor.Order
import Marquee.Proofs.Editor.Marking
import Marquee.Proofs.Json.Integers
import Marquee.Proofs.Json.Scanning
import Marquee.Proofs.Json.Sorting
import Marquee.Proofs.Program.Parts
import Marquee.Proofs.Program.Reading
import Marquee.Proofs.Program.Scopes
import Marquee.Proofs.Program.Gist
import Marquee.Proofs.Program.Entails
import Marquee.Proofs.Program.Sockets
import Marquee.Proofs.Program.Pruning
import Marquee.Proofs.Document.RoundTrip
import Marquee.Proofs.Document.Roles
import Marquee.Proofs.Run.Acts
import Marquee.Proofs.Run.Live
import Marquee.Proofs.Run.Ending
import Marquee.Proofs.Run.Foresight
import Marquee.Proofs.Run.Lockstep
import Marquee.Proofs.Run.Formatting
import Marquee.Proofs.Run.Stopping
import Marquee.Proofs.Run.Shift
import Marquee.Proofs.Run.Withering
import Marquee.Proofs.Run.Beside
import Marquee.Proofs.Run.Passing
import Marquee.Proofs.Run.Isolation
import Marquee.Proofs.Document.Agreement
import Marquee.Proofs.Document.Respelling
import Marquee.Proofs.Run.Silence
import Marquee.Proofs.Run.Chronicle
import Marquee.Proofs.Run.Clocks
import Marquee.Proofs.Document.Canonical
import Marquee.Proofs.Run.Moments
import Marquee.Proofs.Run.Frames
import Marquee.Proofs.Run.Schedule
import Marquee.Proofs.Run.Elapsed
import Marquee.Proofs.Run.Course
import Marquee.Proofs.Run.Pacing
import Marquee.Proofs.Run.Agenda
import Marquee.Proofs.Run.Twins
import Marquee.Proofs.Run.Unrolling
import Marquee.Proofs.Run.Inert
import Marquee.Proofs.Run.Skipping
import Marquee.Proofs.Run.Undisturbed
import Marquee.Proofs.Run.Bounded
import Marquee.Proofs.Run.Termination
import Marquee.Proofs.Run.Pins
import Marquee.Proofs.Document.Misreads
import Marquee.Proofs.Document.Places
import Marquee.Proofs.Editor.Failing
import Marquee.Proofs.Text.Numerals
import Marquee.Proofs.Color.Spelling
import Marquee.Proofs.Panel.Pixels
import Marquee.Proofs.Panel.Views
import Marquee.Proofs.Panel.Screen
import Marquee.Proofs.Editor.FieldText
import Marquee.Proofs.Editor.Visiting
import Marquee.Proofs.Run.Readings
import Marquee.Proofs.Run.Assignments
import Marquee.Proofs.Panel.Colors
import Marquee.Proofs.Run.Comparisons
import Marquee.Proofs.Panel.Animations
import Marquee.Proofs.Program.Stripping
