import ComponentLint.Analysis
import ComponentLint.Command.Run
import ComponentLint.Command.Wanted
import ComponentLint.Conformance.Lint
import ComponentLint.Logging
import ComponentLint.Main
import ComponentLint.Policy.Loading
import ComponentLint.Proofs.BindingExtraction
import ComponentLint.Proofs.BoundTexts
import ComponentLint.Proofs.CheckedOnce
import ComponentLint.Proofs.ChildPaths
import ComponentLint.Proofs.DisabledRules
import ComponentLint.Proofs.DocumentOrder
import ComponentLint.Proofs.EscapedCommas
import ComponentLint.Proofs.FilledPlaceholders
import ComponentLint.Proofs.FollowedAdvice
import ComponentLint.Proofs.ImplicitKeys
import ComponentLint.Proofs.ImportOrder
import ComponentLint.Proofs.InstalledHandlers
import ComponentLint.Proofs.LiteralKeys
import ComponentLint.Proofs.MemberChains
import ComponentLint.Proofs.ModuleOrder
import ComponentLint.Proofs.NarrowedPolicy
import ComponentLint.Proofs.PathBindings
import ComponentLint.Proofs.PathPrefixes
import ComponentLint.Proofs.PreorderWalks
import ComponentLint.Proofs.QuotedBindings
import ComponentLint.Proofs.ReadsAndWrites
import ComponentLint.Proofs.RegistrationReading
import ComponentLint.Proofs.ReportOrder
import ComponentLint.Proofs.RequirementEntries
import ComponentLint.Proofs.ScriptPlaces
import ComponentLint.Proofs.Serialization
import ComponentLint.Proofs.TemplateScope
import ComponentLint.Proofs.TreeBuilding
import ComponentLint.Proofs.UnusableSettings
import ComponentLint.Proofs.WalkingBack
import ComponentLint.Rule.Registry
import ComponentLint.Run
import ComponentLint.Settings.Loading
