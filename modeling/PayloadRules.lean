import PayloadRules.CommandLine.Plan
import PayloadRules.Main
import PayloadRules.Proofs.Presence
import PayloadRules.Proofs.RuleKeys
import PayloadRules.Proofs.LabelKeys
import PayloadRules.Proofs.Agreement
import PayloadRules.Proofs.Verdict
import PayloadRules.Proofs.RequiredBindings
import PayloadRules.Proofs.RequiredFields
import PayloadRules.Proofs.Renaming
import PayloadRules.Proofs.ArrayTexts
import PayloadRules.Proofs.Redescription
import PayloadRules.Proofs.FieldIndependence
import PayloadRules.Proofs.Declarations
import PayloadRules.Proofs.MergedTrees
import PayloadRules.Proofs.Form.Request
import PayloadRules.Proofs.Separation
import PayloadRules.Proofs.Commands
import PayloadRules.Proofs.BindingChains
import PayloadRules.Proofs.Suppression
import PayloadRules.Proofs.Mismatches
import PayloadRules.Proofs.BracketPairs
import PayloadRules.Proofs.ComposedNames
import PayloadRules.Proofs.Substitution
import PayloadRules.Proofs.Latest
import PayloadRules.Proofs.Resolution
import PayloadRules.Proofs.QuotedFields
import PayloadRules.Proofs.Templates
import PayloadRules.Proofs.Identifiers
import PayloadRules.Proofs.Filing
import PayloadRules.Proofs.Runs
import PayloadRules.Proofs.Reports
