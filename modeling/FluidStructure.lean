import FluidStructure.Act
import FluidStructure.Channel.Message
import FluidStructure.Channel.MessageChannel
import FluidStructure.Channel.ReceiveBuffer
import FluidStructure.Channel.Status
import FluidStructure.Channel.Variable
import FluidStructure.Config.Line
import FluidStructure.Config.Literal
import FluidStructure.Config.Reader
import FluidStructure.Config.Section
import FluidStructure.Config.Shelf
import FluidStructure.Config.Value
import FluidStructure.Coupling.Controller
import FluidStructure.Coupling.Convergence
import FluidStructure.Coupling.FluidSolver
import FluidStructure.Coupling.Overlap
import FluidStructure.Coupling.Parameters
import FluidStructure.Coupling.Phase
import FluidStructure.Coupling.Prediction
import FluidStructure.Coupling.Registration
import FluidStructure.Coupling.RunControl
import FluidStructure.Coupling.Session
import FluidStructure.Coupling.Setting
import FluidStructure.Coupling.Surroundings
import FluidStructure.Coupling.TimeStep
import FluidStructure.Decimal.Binary64
import FluidStructure.Decimal.Numeral
import FluidStructure.Decimal.Rounding
import FluidStructure.Decimal.Shortest
import FluidStructure.Decimal.Text
import FluidStructure.Discovery.Matching
import FluidStructure.Discovery.Outcome
import FluidStructure.Discovery.Registry
import FluidStructure.Fault
import FluidStructure.Journal.Level
import FluidStructure.Journal.Logger
import FluidStructure.Journal.Notice
import FluidStructure.KeyMap
import FluidStructure.Main
import FluidStructure.Overwrite
import FluidStructure.Parallel.Group
import FluidStructure.Parallel.Interface
import FluidStructure.Parallel.Lifecycle
import FluidStructure.Program
import FluidStructure.Programs.Configuration
import FluidStructure.Programs.Fluid
import FluidStructure.Programs.Oscillator
import FluidStructure.Programs.PulsatingChannel
import FluidStructure.Programs.Structure
import FluidStructure.Proofs.Config.Blanks
import FluidStructure.Proofs.Config.Filling
import FluidStructure.Proofs.Config.Getters
import FluidStructure.Proofs.Config.Grammar
import FluidStructure.Proofs.Config.Literals
import FluidStructure.Proofs.Config.Numerals
import FluidStructure.Proofs.Config.Overriding
import FluidStructure.Proofs.Config.Paths
import FluidStructure.Proofs.Config.Placement
import FluidStructure.Proofs.Config.Revisions
import FluidStructure.Proofs.Config.RoundTrip
import FluidStructure.Proofs.Config.Sharing
import FluidStructure.Proofs.Config.ShelfOperations
import FluidStructure.Proofs.Config.Shelves
import FluidStructure.Proofs.Config.TextArrays
import FluidStructure.Proofs.Counter
import FluidStructure.Proofs.Coupling.AfterLoss
import FluidStructure.Proofs.Coupling.Agreement
import FluidStructure.Proofs.Coupling.Aliasing
import FluidStructure.Proofs.Coupling.Conformance
import FluidStructure.Proofs.Coupling.Deeds
import FluidStructure.Proofs.Coupling.Deliveries
import FluidStructure.Proofs.Coupling.Diagram
import FluidStructure.Proofs.Coupling.DryLaps
import FluidStructure.Proofs.Coupling.DryRun
import FluidStructure.Proofs.Coupling.Effects
import FluidStructure.Proofs.Coupling.FailedRegistration
import FluidStructure.Proofs.Coupling.Generations
import FluidStructure.Proofs.Coupling.Laps
import FluidStructure.Proofs.Coupling.LastStep
import FluidStructure.Proofs.Coupling.Lifecycle
import FluidStructure.Proofs.Coupling.Loss
import FluidStructure.Proofs.Coupling.Negotiation
import FluidStructure.Proofs.Coupling.Operation
import FluidStructure.Proofs.Coupling.Outcomes
import FluidStructure.Proofs.Coupling.Pacing
import FluidStructure.Proofs.Coupling.Parameters
import FluidStructure.Proofs.Coupling.Plan
import FluidStructure.Proofs.Coupling.Ranks
import FluidStructure.Proofs.Coupling.Readiness
import FluidStructure.Proofs.Coupling.ReferenceLength
import FluidStructure.Proofs.Coupling.Rescheduling
import FluidStructure.Proofs.Coupling.SharedVertices
import FluidStructure.Proofs.Coupling.Silence
import FluidStructure.Proofs.Coupling.Sizes
import FluidStructure.Proofs.Coupling.Stages
import FluidStructure.Proofs.Coupling.Stagewise
import FluidStructure.Proofs.Coupling.Standing
import FluidStructure.Proofs.Coupling.Steady
import FluidStructure.Proofs.Coupling.Step
import FluidStructure.Proofs.Coupling.StepsLeft
import FluidStructure.Proofs.Coupling.SubIteration
import FluidStructure.Proofs.Coupling.SubIterationCount
import FluidStructure.Proofs.Coupling.Transport
import FluidStructure.Proofs.Coupling.Unfailing
import FluidStructure.Proofs.Coupling.Unison
import FluidStructure.Proofs.Coupling.Verdict
import FluidStructure.Proofs.Coupling.WindDown
import FluidStructure.Proofs.Course
import FluidStructure.Proofs.Discovery.Building
import FluidStructure.Proofs.Discovery.Enrolment
import FluidStructure.Proofs.Discovery.Peers
import FluidStructure.Proofs.Discovery.Records
import FluidStructure.Proofs.Discovery.World
import FluidStructure.Proofs.Doubles
import FluidStructure.Proofs.Journal.RequestedLevels
import FluidStructure.Proofs.Lockstep
import FluidStructure.Proofs.Network
import FluidStructure.Proofs.Network.Alignment
import FluidStructure.Proofs.Network.Fields
import FluidStructure.Proofs.Network.Incoming
import FluidStructure.Proofs.Network.Mailbox
import FluidStructure.Proofs.Network.Receipts
import FluidStructure.Proofs.Network.Transfer
import FluidStructure.Proofs.Programs.CommittedSteps
import FluidStructure.Proofs.Programs.Concord
import FluidStructure.Proofs.Programs.Crew
import FluidStructure.Proofs.Programs.Driver
import FluidStructure.Proofs.Programs.Meetings
import FluidStructure.Proofs.Programs.Preparations
import FluidStructure.Proofs.Programs.PressureTime
import FluidStructure.Proofs.Programs.Reports
import FluidStructure.Proofs.Programs.Rounds
import FluidStructure.Proofs.Programs.StepBound
import FluidStructure.Proofs.Programs.StepMessages
import FluidStructure.Proofs.Programs.Strips
import FluidStructure.Proofs.Programs.TimeSteps
import FluidStructure.Proofs.Programs.WholeRuns
import FluidStructure.Proofs.Requests
import FluidStructure.Proofs.Runs
import FluidStructure.Proofs.Simulation.Answers
import FluidStructure.Proofs.Surface.Extraction
import FluidStructure.Proofs.Surface.LastWriter
import FluidStructure.Proofs.Surface.Scattering
import FluidStructure.Proofs.Surface.Vertices
import FluidStructure.Simulation.PartitionedGroup
import FluidStructure.Simulation.ScriptedFluid
import FluidStructure.Simulation.ScriptedPeer
import FluidStructure.Simulation.ScriptedProcess
import FluidStructure.Surface.Interface
import FluidStructure.Surface.Location
import FluidStructure.Surface.Scatter
import FluidStructure.Surface.Strip
import FluidStructure.Text.Blank
import FluidStructure.Text.Label
