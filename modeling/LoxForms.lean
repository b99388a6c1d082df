import LoxForms.Number.Exact
import LoxForms.Printer
import LoxForms.Reading.Source
import LoxForms.Traversal
import LoxForms.Proofs.Blockers
import LoxForms.Proofs.Classification
import LoxForms.Proofs.Concatenation
import LoxForms.Proofs.Contexts
import LoxForms.Proofs.CutOff
import LoxForms.Proofs.Dependence
import LoxForms.Proofs.Equality
import LoxForms.Proofs.Failures
import LoxForms.Proofs.Kinds
import LoxForms.Proofs.Layout
import LoxForms.Proofs.Origins
import LoxForms.Proofs.Reading.Defects
import LoxForms.Proofs.Reading.Descent
import LoxForms.Proofs.References
import LoxForms.Proofs.Refolding
import LoxForms.Proofs.RoundTrip
import LoxForms.Proofs.Simplified
import LoxForms.Proofs.Slices
import LoxForms.Proofs.Spacing
import LoxForms.Proofs.StringLiterals
