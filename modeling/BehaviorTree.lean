import BehaviorTree.Main
import BehaviorTree.Proofs.Document.Issued
import BehaviorTree.Proofs.Document.Settled
import BehaviorTree.Proofs.Graph.AnySequence
import BehaviorTree.Proofs.Graph.Boards
import BehaviorTree.Proofs.Graph.CopyNames
import BehaviorTree.Proofs.Graph.Declared
import BehaviorTree.Proofs.Graph.Descendants
import BehaviorTree.Proofs.Graph.Loading
import BehaviorTree.Proofs.Graph.Outlines
import BehaviorTree.Proofs.Graph.Untouched
import BehaviorTree.Proofs.Graph.World
import BehaviorTree.Proofs.History.Timeline
import BehaviorTree.Proofs.Lua.Evaluated
import BehaviorTree.Proofs.Lua.Exportable
import BehaviorTree.Proofs.Lua.Lossless
import BehaviorTree.Proofs.Lua.MainTree
import BehaviorTree.Proofs.Lua.NumericDetails
import BehaviorTree.Proofs.Lua.ScriptSyntax
import BehaviorTree.Proofs.Lua.ShortStrings
import BehaviorTree.Proofs.Lua.SubtreeNames
import BehaviorTree.Proofs.Lua.WholeNumbers
import BehaviorTree.Proofs.Session.Burst
import BehaviorTree.Proofs.Session.Import
import BehaviorTree.Proofs.Session.Listing
import BehaviorTree.Proofs.Session.Refused
import BehaviorTree.Proofs.Session.Renaming
import BehaviorTree.Proofs.Session.Reopen
import BehaviorTree.Proofs.Session.Start
import BehaviorTree.Proofs.Session.Stores
import BehaviorTree.Proofs.Validation.Conversions
import BehaviorTree.Proofs.Validation.Flagged
import BehaviorTree.Session
