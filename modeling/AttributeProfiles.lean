import AttributeProfiles.Main
import AttributeProfiles.Proofs.CommandChain
import AttributeProfiles.Proofs.CommandOutcomes
import AttributeProfiles.Proofs.DeclarationOrder
import AttributeProfiles.Proofs.FirstFault
import AttributeProfiles.Proofs.ImportLog
import AttributeProfiles.Proofs.ImportReads
import AttributeProfiles.Proofs.NestedLookup
import AttributeProfiles.Proofs.OwnerChanges
import AttributeProfiles.Proofs.ProfileIsolation
import AttributeProfiles.Proofs.ProfileLists
import AttributeProfiles.Proofs.RecordShape
import AttributeProfiles.Proofs.Template.Compilation
import AttributeProfiles.Proofs.Template.Concatenation
import AttributeProfiles.Proofs.Template.CallForms
import AttributeProfiles.Proofs.Template.Indexing
import AttributeProfiles.Proofs.Template.Kinds
import AttributeProfiles.Proofs.TemplateFailures
import AttributeProfiles.Proofs.Template.RenderedOutput
import AttributeProfiles.Proofs.Template.Markers
import AttributeProfiles.Proofs.Template.ListValues
import AttributeProfiles.Proofs.Template.WellFormed
import AttributeProfiles.Proofs.Template.SteadyWalks
