import TypeConversion.Engine
import TypeConversion.Declaration
import TypeConversion.Inspection
import TypeConversion.Proofs.Universe.Growth
import TypeConversion.Proofs.Universe.WellFormed
import TypeConversion.Proofs.Universe.Initial
import TypeConversion.Proofs.Universe.Change
import TypeConversion.Proofs.Universe.Constructions
import TypeConversion.Proofs.Universe.Steps
import TypeConversion.Proofs.Universe.Preservation
import TypeConversion.Proofs.Universe.Bases
import TypeConversion.Proofs.Universe.Interfaces
import TypeConversion.Proofs.Universe.Mentions
import TypeConversion.Proofs.Universe.Representation
import TypeConversion.Proofs.Universe.Entries
import TypeConversion.Proofs.Universe.AppendOnly
import TypeConversion.Proofs.Universe.Spelling
import TypeConversion.Proofs.Universe.Names
import TypeConversion.Proofs.Universe.FullNames
import TypeConversion.Proofs.Reference.Unfolding
import TypeConversion.Proofs.Reference.Implicit
import TypeConversion.Proofs.Reference.Transitivity
import TypeConversion.Proofs.Reference.Order
import TypeConversion.Proofs.Reference.Boxing
import TypeConversion.Proofs.Soundness.Typing
import TypeConversion.Proofs.Soundness.Instructions
import TypeConversion.Proofs.Soundness.Standard
import TypeConversion.Proofs.UserDefined.Candidates
import TypeConversion.Proofs.Soundness.Conversion
import TypeConversion.Proofs.UserDefined.Choice
import TypeConversion.Proofs.UserDefined.Resolution
import TypeConversion.Proofs.Standard.Growth
import TypeConversion.Proofs.UserDefined.Growth
import TypeConversion.Proofs.UserDefined.Reordering
import TypeConversion.Proofs.UserDefined.Independence
import TypeConversion.Proofs.Engine.Classified
import TypeConversion.Proofs.Engine.Coherence
import TypeConversion.Proofs.Engine.Queries
import TypeConversion.Proofs.Engine.Natives
import TypeConversion.Proofs.Engine.Session
import TypeConversion.Proofs.Reference.Return
import TypeConversion.Proofs.Standard.Return
import TypeConversion.Proofs.Numeric.Widening
import TypeConversion.Proofs.Soundness.Implicit
import TypeConversion.Proofs.Program.Meaning
import TypeConversion.Proofs.Program.Modes
import TypeConversion.Proofs.Program.Outcomes
import TypeConversion.Proofs.Program.Boxes
import TypeConversion.Proofs.Program.Optionals
import TypeConversion.Proofs.UserDefined.Lifting
import TypeConversion.Proofs.Engine.Stability
import TypeConversion.Proofs.Universe.Structure
import TypeConversion.Proofs.Universe.OpenDefinitions
import TypeConversion.Proofs.Universe.FailedBuilds
import TypeConversion.Proofs.Engine.CacheHistory
import TypeConversion.Proofs.Numeric.Integers
import TypeConversion.Proofs.Numeric.Denotation
import TypeConversion.Proofs.Numeric.Floats
import TypeConversion.Proofs.Numeric.Detours
import TypeConversion.Proofs.UserDefined.Signatures
import TypeConversion.Proofs.Engine.Precedence
import TypeConversion.Proofs.Reference.Questions
import TypeConversion.Proofs.Universe.OperatorTable
import TypeConversion.Proofs.Native.RoundTrip
import TypeConversion.Proofs.Universe.InterfaceClosure
import TypeConversion.Proofs.UserDefined.Lookups
import TypeConversion.Proofs.Numeric.Overflow
