import Prebuild.Main
import Prebuild.Proofs.Command.Preview
import Prebuild.Proofs.Configuration.Assembly
import Prebuild.Proofs.FileSystem.Opening
import Prebuild.Proofs.Generator.History
import Prebuild.Proofs.Generator.Refinement
import Prebuild.Proofs.Manifest.Loading
import Prebuild.Proofs.Manifest.Dependence
import Prebuild.Proofs.FileSystem.Frame
import Prebuild.Proofs.Generator.Frame
import Prebuild.Proofs.FileSystem.Addition
import Prebuild.Proofs.Manifest.Addition
import Prebuild.Proofs.Generator.Detection
import Prebuild.Proofs.Json.Printing
import Prebuild.Proofs.Generator.Configuration
import Prebuild.Proofs.Json.Reordering
import Prebuild.Proofs.Configuration.Reordering
import Prebuild.Proofs.FileSystem.Atomic
import Prebuild.Proofs.FileSystem.Order
import Prebuild.Proofs.Source.Order
import Prebuild.Proofs.Source.Declarations
import Prebuild.Proofs.Manifest.Registering
import Prebuild.Proofs.Source.KeyAndAlias
import Prebuild.Proofs.Manifest.Decoding
import Prebuild.Proofs.Path.Spelling
import Prebuild.Proofs.Source.Placement
import Prebuild.Proofs.Manifest.Failing
import Prebuild.Proofs.Manifest.Specifiers
import Prebuild.Proofs.FileSystem.LineEndings
import Prebuild.Proofs.Manifest.LineEndings
import Prebuild.Proofs.Json.Merging
import Prebuild.Proofs.Yaml.Keys
import Prebuild.Proofs.Settings.Reading
import Prebuild.Proofs.Source.Generated
