import ProxyBridge.Config.Files
import ProxyBridge.Embedding.Client
import ProxyBridge.Log.FilterText
import ProxyBridge.Proofs.Cascade
import ProxyBridge.Proofs.Conservation
import ProxyBridge.Proofs.Contest
import ProxyBridge.Proofs.Wrapping
import ProxyBridge.Script.Run
import ProxyBridge.Proofs.Clients
import ProxyBridge.Proofs.Refusal
import ProxyBridge.Proofs.Counting
import ProxyBridge.Proofs.Hints
import ProxyBridge.Proofs.CappedMap
import ProxyBridge.Proofs.Identity
import ProxyBridge.Proofs.Catalog
import ProxyBridge.Proofs.Covering
import ProxyBridge.Proofs.ObjectMap
import ProxyBridge.Proofs.Transparency
import ProxyBridge.Proofs.Installation
import ProxyBridge.Proofs.Detection
import ProxyBridge.Proofs.ConfigRoundTrip
import ProxyBridge.Proofs.HeapAccounts
import ProxyBridge.Proofs.MapLength
import ProxyBridge.Proofs.Inspection
import ProxyBridge.Proofs.TagMemory
import ProxyBridge.Proofs.CallBinding
import ProxyBridge.Proofs.Getters
import ProxyBridge.Proofs.Atomicity
import ProxyBridge.Proofs.LengthReading
import ProxyBridge.Proofs.UndefinedMembers
import ProxyBridge.Proofs.Callability
import ProxyBridge.Proofs.Registration
import ProxyBridge.Proofs.SlotUnion
import ProxyBridge.Proofs.Prewarming
import ProxyBridge.Proofs.TraceLog
import ProxyBridge.Proofs.ExactLength
