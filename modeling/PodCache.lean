import PodCache.Annotations.Basic
import PodCache.Annotations.Integer
import PodCache.Cache.Basic
import PodCache.Cache.Container
import PodCache.Cache.Error
import PodCache.Cache.Pod
import PodCache.Cache.Query
import PodCache.Cache.Refresh
import PodCache.Codec
import PodCache.CommandLine
import PodCache.Cri.Container
import PodCache.Cri.Sandbox
import PodCache.Cri.State
import PodCache.Decimal.Binary64
import PodCache.Decimal.Shortest
import PodCache.IntRange
import PodCache.Json.Number
import PodCache.Json.Printer
import PodCache.Json.Reader
import PodCache.Json.Token
import PodCache.Main
import PodCache.Outcome
import PodCache.Qos
import PodCache.Quantity.Basic
import PodCache.Quantity.Document
import PodCache.Quantity.Machine
import PodCache.Quantity.Reader
import PodCache.Replay.Apply
import PodCache.Replay.Document
import PodCache.Replay.Event
import PodCache.Replay.Run
import PodCache.Replay.Summary
import PodCache.Resources
import PodCache.Table
import PodCache.Text.Blank
import PodCache.Text.Digits
import PodCache.Text.Printable
import PodCache.Text.Quoted
import PodCache.Value
import PodCache.Yaml.Cursor
import PodCache.Yaml.Node
import PodCache.Yaml.Part
import PodCache.Yaml.Property
import PodCache.Yaml.Resolve
import PodCache.Yaml.Scalar
import PodCache.Yaml.Scanner
import PodCache.Yaml.Token
import PodCache.Proofs.Table
import PodCache.Proofs.Changes
import PodCache.Proofs.Run
import PodCache.Proofs.Deletion
import PodCache.Proofs.Edit
import PodCache.Proofs.Counts
import PodCache.Proofs.WellFormed
import PodCache.Proofs.ProvisionalId
import PodCache.Proofs.RejectedEvent
import PodCache.Proofs.PodRefresh
import PodCache.Proofs.ContainerRefresh
import PodCache.Proofs.PendingCreation
import PodCache.Proofs.QosClass
import PodCache.Proofs.Numerals
import PodCache.Proofs.IntegerText
import PodCache.Proofs.QuantityGrammar
import PodCache.Proofs.QuantityText
import PodCache.Proofs.MachineSteps
import PodCache.Proofs.MachineReader
import PodCache.Proofs.ReadingOrder
import PodCache.Proofs.StoppedPod
import PodCache.Proofs.RefusedInsertion
import PodCache.Proofs.Namespace
import PodCache.Proofs.Mask
import PodCache.Proofs.NotedClass
import PodCache.Proofs.Session
import PodCache.Proofs.StoppedReplay
import PodCache.Proofs.LenientReplay
import PodCache.Proofs.StrictReplay
import PodCache.Proofs.Summary
import PodCache.Proofs.Record
import PodCache.Proofs.JsonText
import PodCache.Proofs.Spelling
import PodCache.Proofs.Messages
import PodCache.Proofs.QuantityDisplay
import PodCache.Proofs.QuantityRange
import PodCache.Proofs.QuantityReadBack
import PodCache.Proofs.ResourceModel
import PodCache.Proofs.AnsweredCreation
import PodCache.Proofs.ReportedChanges
import PodCache.Proofs.ContainerKinds
import PodCache.Proofs.UnnamedContainer
import PodCache.Proofs.RefusedInteger
import PodCache.Proofs.QosTotals
import PodCache.Proofs.CoarseUnits
import PodCache.Proofs.LargeMagnitude
import PodCache.Proofs.IntegerNumber
