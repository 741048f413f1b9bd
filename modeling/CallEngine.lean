import CallEngine.Bignum
import CallEngine.Binary.Format
import CallEngine.Binary.Octets
import CallEngine.Binary.Power
import CallEngine.Binary.Shortest
import CallEngine.Call
import CallEngine.Context
import CallEngine.Engine
import CallEngine.Engine.Code
import CallEngine.Engine.ForeignCall
import CallEngine.Engine.Registry
import CallEngine.Error
import CallEngine.Event
import CallEngine.Event.Document
import CallEngine.FileSystem
import CallEngine.Foreign.Abi
import CallEngine.Foreign.CallBuilder
import CallEngine.Foreign.Declaration
import CallEngine.Foreign.Error
import CallEngine.Foreign.Library
import CallEngine.Foreign.Marshal
import CallEngine.Foreign.Memory
import CallEngine.Foreign.Native
import CallEngine.Foreign.Process
import CallEngine.Foreign.ProcessSymbols
import CallEngine.Foreign.Scalar
import CallEngine.Foreign.Signature
import CallEngine.Foreign.Type
import CallEngine.Frame
import CallEngine.Heap
import CallEngine.Interrupt
import CallEngine.Json
import CallEngine.Json.Field
import CallEngine.Json.Text
import CallEngine.Json.Token
import CallEngine.Literal
import CallEngine.Literal.Document
import CallEngine.Lock
import CallEngine.Lock.Document
import CallEngine.Lock.Program
import CallEngine.Machine
import CallEngine.OperandStack
import CallEngine.Outcome
import CallEngine.Path
import CallEngine.Proofs.Activity
import CallEngine.Proofs.ArgumentAddresses
import CallEngine.Proofs.ArgumentPlacement
import CallEngine.Proofs.Arguments
import CallEngine.Proofs.Bignums
import CallEngine.Proofs.BuilderReplay
import CallEngine.Proofs.BuilderUses
import CallEngine.Proofs.CallArguments
import CallEngine.Proofs.CallBalance
import CallEngine.Proofs.CallImage
import CallEngine.Proofs.CallPassage
import CallEngine.Proofs.CallResults
import CallEngine.Proofs.Change
import CallEngine.Proofs.Containment
import CallEngine.Proofs.ContextAccounts
import CallEngine.Proofs.ContextFates
import CallEngine.Proofs.ContextLimits
import CallEngine.Proofs.ContextLives
import CallEngine.Proofs.ContextUses
import CallEngine.Proofs.CourseEffects
import CallEngine.Proofs.Courses
import CallEngine.Proofs.Creation
import CallEngine.Proofs.Crossing
import CallEngine.Proofs.Deferral
import CallEngine.Proofs.EngineUses
import CallEngine.Proofs.Epochs
import CallEngine.Proofs.Evolution
import CallEngine.Proofs.FrameChain
import CallEngine.Proofs.FrameCounts
import CallEngine.Proofs.FrameLife
import CallEngine.Proofs.FrameOpening
import CallEngine.Proofs.FrameOperations
import CallEngine.Proofs.FrameTiling
import CallEngine.Proofs.Guarantee
import CallEngine.Proofs.GuardedRegions
import CallEngine.Proofs.HeapHistory
import CallEngine.Proofs.LifeParts
import CallEngine.Proofs.LockGuards
import CallEngine.Proofs.Marshaling
import CallEngine.Proofs.Outcome
import CallEngine.Proofs.PassedReals
import CallEngine.Proofs.PassedValues
import CallEngine.Proofs.PathParts
import CallEngine.Proofs.PendingWord
import CallEngine.Proofs.PrioritySet
import CallEngine.Proofs.ProjectSearch
import CallEngine.Proofs.Refusal
import CallEngine.Proofs.ReportedValues
import CallEngine.Proofs.RoundTrip
import CallEngine.Proofs.Routine
import CallEngine.Proofs.ScalarCodecs
import CallEngine.Proofs.ScalarForms
import CallEngine.Proofs.SessionCalls
import CallEngine.Proofs.SettingsLayers
import CallEngine.Proofs.SettingsMerge
import CallEngine.Proofs.SharedEngine
import CallEngine.Proofs.SlotContents
import CallEngine.Proofs.Slots
import CallEngine.Proofs.StackContents
import CallEngine.Proofs.StackLevels
import CallEngine.Proofs.StackRecovery
import CallEngine.Proofs.StoredArguments
import CallEngine.Proofs.StoredIntegers
import CallEngine.Proofs.TaggedWords
import CallEngine.Region
import CallEngine.Script.Action
import CallEngine.Script.Answer
import CallEngine.Script.Document
import CallEngine.Script.Instruction
import CallEngine.Script.Run
import CallEngine.Script.Session
import CallEngine.Settings
import CallEngine.Settings.Document
import CallEngine.Settings.Layers
import CallEngine.Table
import CallEngine.Table.Document
import CallEngine.Text.Bytes
import CallEngine.Text.Lossy
import CallEngine.Text.Quoted
import CallEngine.Text.Unprintable
import CallEngine.Toml
import CallEngine.Toml.Scalar
import CallEngine.Toml.Token
import CallEngine.Value
import CallEngine.ValueChannel
