import ValueMethods.Build
import ValueMethods.Evaluation.Allocation
import ValueMethods.Evaluation.Invocation
import ValueMethods.Main
import ValueMethods.Proofs.DocumentOrder
import ValueMethods.Proofs.DryRuns
import ValueMethods.Proofs.ExpressionGrammar
import ValueMethods.Proofs.Failures
import ValueMethods.Proofs.FieldAgreement
import ValueMethods.Proofs.HashContract
import ValueMethods.Proofs.HashPolynomials
import ValueMethods.Proofs.HelperNames
import ValueMethods.Proofs.Hiding
import ValueMethods.Proofs.Identities
import ValueMethods.Proofs.IdentityRows
import ValueMethods.Proofs.LongestWalk
import ValueMethods.Proofs.Merging
import ValueMethods.Proofs.MethodLayout
import ValueMethods.Proofs.Overloads
import ValueMethods.Proofs.Ownership
import ValueMethods.Proofs.PrintedSuperclasses
import ValueMethods.Proofs.RecordedSources
import ValueMethods.Proofs.Refinement
import ValueMethods.Proofs.Reindenting
import ValueMethods.Proofs.Rereading
import ValueMethods.Proofs.Serialization
import ValueMethods.Proofs.SettingUp
import ValueMethods.Proofs.StringLiterals
import ValueMethods.Proofs.SwitchReading
import ValueMethods.Proofs.Walking
import ValueMethods.Proofs.WellFormedTrees
