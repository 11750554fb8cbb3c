import CircuitScript.Expansion
import CircuitScript.Main
import CircuitScript.Proofs.Arithmetic
import CircuitScript.Proofs.Assigned
import CircuitScript.Proofs.Bindings
import CircuitScript.Proofs.Bisimulation
import CircuitScript.Proofs.BitWidths
import CircuitScript.Proofs.Canonical
import CircuitScript.Proofs.CodeSections
import CircuitScript.Proofs.Definitions
import CircuitScript.Proofs.Extremes
import CircuitScript.Proofs.Flattening
import CircuitScript.Proofs.Histories
import CircuitScript.Proofs.Identifiers
import CircuitScript.Proofs.InstanceNames
import CircuitScript.Proofs.Joined
import CircuitScript.Proofs.Lexical
import CircuitScript.Proofs.Lines
import CircuitScript.Proofs.Literals
import CircuitScript.Proofs.Loops
import CircuitScript.Proofs.Nesting
import CircuitScript.Proofs.NumberLiterals
import CircuitScript.Proofs.Positions
import CircuitScript.Proofs.Presence
import CircuitScript.Proofs.Printing
import CircuitScript.Proofs.ReadBack
import CircuitScript.Proofs.Reentry
import CircuitScript.Proofs.References
import CircuitScript.Proofs.Refused
import CircuitScript.Proofs.Rendering
import CircuitScript.Proofs.Resolution
import CircuitScript.Proofs.Shapes
import CircuitScript.Proofs.Siblings
import CircuitScript.Proofs.Skeleton
import CircuitScript.Proofs.Staying
import CircuitScript.Proofs.Terminators
import CircuitScript.Proofs.WellRun
import CircuitScript.Proofs.Written
