import EntitySchema.Files.Tree
import EntitySchema.Main
import EntitySchema.TypeExpr.Family
import EntitySchema.Proofs.Entity.Records
import EntitySchema.Proofs.Narrowing
import EntitySchema.Proofs.Property.Nullability
import EntitySchema.Proofs.Entity.Columns
import EntitySchema.Proofs.Entity.FurtherKeys
import EntitySchema.Proofs.Property.Lengths
import EntitySchema.Proofs.Entity.Stability
import EntitySchema.Proofs.Entity.Literals
import EntitySchema.Proofs.TypeExpr.Constructors
import EntitySchema.Proofs.Entity.Extension
import EntitySchema.Proofs.Selections
import EntitySchema.Proofs.Edits
import EntitySchema.Proofs.Entity.Sharing
import EntitySchema.Proofs.Validation.Compilations
import EntitySchema.Proofs.LastChecks
import EntitySchema.Proofs.Stream
import EntitySchema.Proofs.Registry
import EntitySchema.Proofs.Batches
import EntitySchema.Proofs.Property.Lossless
import EntitySchema.Proofs.Columnwise
import EntitySchema.Proofs.Property.Unions
import EntitySchema.Proofs.Property.DerivedTypes
import EntitySchema.Proofs.Property.EmptyArrays
import EntitySchema.Proofs.TypeExpr.Modifiers
import EntitySchema.Proofs.Storage.Quoting
import EntitySchema.Proofs.Entity.Refusals
import EntitySchema.Proofs.Presence
import EntitySchema.Proofs.Validation.Labels
