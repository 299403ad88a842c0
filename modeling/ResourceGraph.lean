import ResourceGraph.Main
import ResourceGraph.Proofs.Accounting
import ResourceGraph.Proofs.AddedResource
import ResourceGraph.Proofs.Consistency
import ResourceGraph.Proofs.Declarations
import ResourceGraph.Proofs.KeyedMaps
import ResourceGraph.Proofs.Linkage
import ResourceGraph.Proofs.MapPairs
import ResourceGraph.Proofs.Merging
import ResourceGraph.Proofs.Reading
import ResourceGraph.Proofs.Retention
import ResourceGraph.Proofs.RootNames
import ResourceGraph.Proofs.TableNames
import ResourceGraph.Proofs.MergedLinkage
import ResourceGraph.Proofs.Reordering
import ResourceGraph.Proofs.Layouts
import ResourceGraph.Proofs.Carriers
import ResourceGraph.Proofs.TemplateLookup
import ResourceGraph.Proofs.Located
import ResourceGraph.Proofs.AllOrNothing
import ResourceGraph.Proofs.BundleFiles
import ResourceGraph.Proofs.WrittenEndpoints
import ResourceGraph.Proofs.CanonicalNames
import ResourceGraph.Proofs.Classification
import ResourceGraph.Proofs.Rendering
import ResourceGraph.Proofs.Spelling
import ResourceGraph.Proofs.Resolution
import ResourceGraph.Proofs.Respelling
import ResourceGraph.Proofs.DataSources
import ResourceGraph.Proofs.Bindings
import ResourceGraph.Proofs.Invocations
import ResourceGraph.Proofs.PipelineOrder
import ResourceGraph.Proofs.TemplateSources
import ResourceGraph.Proofs.TableKeys
import ResourceGraph.Proofs.TemplateGroups
import ResourceGraph.Proofs.OwnTemplates
