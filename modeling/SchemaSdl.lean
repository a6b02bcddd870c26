import SchemaSdl.Files.Tree
import SchemaSdl.Main
import SchemaSdl.Proofs.Factoring
import SchemaSdl.Proofs.Acceptance
import SchemaSdl.Proofs.Closure
import SchemaSdl.Proofs.Rendering
import SchemaSdl.Proofs.Collision
import SchemaSdl.Proofs.Narrowing
import SchemaSdl.Proofs.Referring
import SchemaSdl.Proofs.Corresponding
import SchemaSdl.Proofs.Descriptions
import SchemaSdl.Proofs.RootName
import SchemaSdl.Proofs.Ordering
import SchemaSdl.Proofs.Json.Bytes
import SchemaSdl.Proofs.Json.Scanning
import SchemaSdl.Proofs.Json.Literals
import SchemaSdl.Proofs.Json.Numerals
import SchemaSdl.Proofs.Json.Skipping
import SchemaSdl.Proofs.Json.Reading
import SchemaSdl.Proofs.Merging
import SchemaSdl.Proofs.Writing
import SchemaSdl.Proofs.Loading
import SchemaSdl.Proofs.Sessions
import SchemaSdl.Proofs.Chains
import SchemaSdl.Proofs.Files
import SchemaSdl.Proofs.Command
import SchemaSdl.Proofs.Trailing
import SchemaSdl.Proofs.Inlining
import SchemaSdl.Proofs.Cycles
import SchemaSdl.Proofs.Extending
import SchemaSdl.Proofs.Requiring
import SchemaSdl.Proofs.Bodies
import SchemaSdl.Proofs.Enclosing
import SchemaSdl.Proofs.Enumerations
import SchemaSdl.Proofs.Quoting
import SchemaSdl.Proofs.Escaping
import SchemaSdl.Proofs.Differing
