import ApplianceConfig.Files.Store
import ApplianceConfig.Main
import ApplianceConfig.Proofs.Appliance.ShownFaults
import ApplianceConfig.Proofs.CommandLine.KeptProfiles
import ApplianceConfig.Proofs.CommandLine.SearchAnswers
import ApplianceConfig.Proofs.Compare.EqualDocuments
import ApplianceConfig.Proofs.Compare.ItemAccount
import ApplianceConfig.Proofs.Compare.MirroredDifferences
import ApplianceConfig.Proofs.Compare.NormalForm
import ApplianceConfig.Proofs.Compare.TruthfulDifferences
import ApplianceConfig.Proofs.Operations.ChangedFlag
import ApplianceConfig.Proofs.Operations.ClosedGates
import ApplianceConfig.Proofs.Operations.DriftVerdict
import ApplianceConfig.Proofs.Operations.FirmwareGates
import ApplianceConfig.Proofs.Operations.Idempotence
import ApplianceConfig.Proofs.Operations.JunctionPosts
import ApplianceConfig.Proofs.Operations.NoFalseDrift
import ApplianceConfig.Proofs.Operations.RefreshedFacts
import ApplianceConfig.Proofs.Operations.RightObjects
import ApplianceConfig.Proofs.Operations.Toleration
import ApplianceConfig.Proofs.Resource.TemplateReadings
import ApplianceConfig.Proofs.Resource.UpdateNeed
import ApplianceConfig.Proofs.State.InOrder
import ApplianceConfig.Proofs.State.Prediction
