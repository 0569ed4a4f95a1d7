import ProfileShell.Command.Tally
import ProfileShell.Main
import ProfileShell.Record.MemoryStore
import ProfileShell.Proofs.Command.Arguments
import ProfileShell.Proofs.Command.Delivery
import ProfileShell.Proofs.Command.Resolution
import ProfileShell.Proofs.Launcher.Addressing
import ProfileShell.Proofs.Launcher.Effects
import ProfileShell.Proofs.Launcher.Ending
import ProfileShell.Proofs.Launcher.Stores
import ProfileShell.Proofs.Launcher.WellFormed
import ProfileShell.Proofs.Profile.Renaming
import ProfileShell.Proofs.Profile.Rewriting
import ProfileShell.Proofs.Session.Recording
import ProfileShell.Proofs.Session.Resumption
import ProfileShell.Proofs.Command.Extension
import ProfileShell.Proofs.Command.Permutation
import ProfileShell.Proofs.Command.Refusal
import ProfileShell.Proofs.Record.Probing
import ProfileShell.Proofs.Binding.Fault
import ProfileShell.Proofs.Command.Emptiness
import ProfileShell.Proofs.Launcher.Suggestion
import ProfileShell.Proofs.Command.Suggestion
import ProfileShell.Proofs.Command.Policy
import ProfileShell.Proofs.Launcher.FileName
import ProfileShell.Proofs.Launcher.Questions
import ProfileShell.Proofs.Shell.Folding
import ProfileShell.Proofs.Command.Wire
import ProfileShell.Proofs.Settings.File
import ProfileShell.Proofs.Settings.Initialisation
import ProfileShell.Proofs.Record.Listing
import ProfileShell.Proofs.Record.FileAllocation
import ProfileShell.Proofs.Profile.Listing
import ProfileShell.Proofs.Record.Succession
import ProfileShell.Proofs.Profile.Repetition
import ProfileShell.Proofs.Record.Containment
