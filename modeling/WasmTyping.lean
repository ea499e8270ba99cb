import WasmTyping.Dump
import WasmTyping.Opcode.Table
import WasmTyping.Proofs.DeclarativeTyping
import WasmTyping.Proofs.RegionBracketing
import WasmTyping.Proofs.BodyBracketing
import WasmTyping.Proofs.FaultReports
import WasmTyping.Proofs.DeadCode
import WasmTyping.Proofs.RegionIsolation
import WasmTyping.Proofs.ControlEffects
import WasmTyping.Proofs.WiderAcceptance
import WasmTyping.Proofs.ConstantExpressions
import WasmTyping.Proofs.UnknownOperands
import WasmTyping.Proofs.DiagnosticLimit
import WasmTyping.Proofs.FeatureGates
import WasmTyping.Proofs.ComparisonRuns
import WasmTyping.Proofs.Subsumption
import WasmTyping.Proofs.ClosingConditions
import WasmTyping.Proofs.TableBranches
import WasmTyping.Proofs.FunctionExits
import WasmTyping.Proofs.ResolvedImmediates
import WasmTyping.Proofs.TypeAnnotations
import WasmTyping.Proofs.Renumbering
import WasmTyping.Proofs.RethrowTargets
import WasmTyping.Proofs.ContainedForms
import WasmTyping.Proofs.HandlerOrder
import WasmTyping.Proofs.TypeRendering
import WasmTyping.Proofs.ShownDifferences
import WasmTyping.Proofs.ReportedDifferences
import WasmTyping.Proofs.SignatureSplitting
import WasmTyping.Proofs.RegistryHistory
