import TypeBridge.Mapping.Node
import TypeBridge.Source.Construction
import TypeBridge.Proofs.Atomicity
import TypeBridge.Proofs.Batch
import TypeBridge.Proofs.Footprint
import TypeBridge.Proofs.OverrideReach
import TypeBridge.Proofs.ParsedSpelling
import TypeBridge.Proofs.Schema
import TypeBridge.Proofs.Session
import TypeBridge.Proofs.TemplateGrammar
import TypeBridge.Proofs.Unguarded
import TypeBridge.Proofs.Loading
import TypeBridge.Proofs.TemplateAppend
import TypeBridge.Proofs.DepthLimit
import TypeBridge.Proofs.LongestChain
import TypeBridge.Proofs.Marks
import TypeBridge.Proofs.Parentheses
import TypeBridge.Proofs.StrippedName
import TypeBridge.Proofs.Collections
import TypeBridge.Proofs.Promotion
import TypeBridge.Proofs.Origin
import TypeBridge.Proofs.Binding
import TypeBridge.Proofs.Inference
import TypeBridge.Proofs.Fallback
import TypeBridge.Proofs.DistinctNames
import TypeBridge.Proofs.UnusedArguments
import TypeBridge.Proofs.GenericHead
import TypeBridge.Proofs.NodeForms
import TypeBridge.Proofs.Display
