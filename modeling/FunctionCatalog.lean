import FunctionCatalog.CType.Spelling
import FunctionCatalog.Declaration.OfNode
import FunctionCatalog.Declaration.Meaning
import FunctionCatalog.Comment.Attachment
import FunctionCatalog.LinkageGuard
import FunctionCatalog.Text.Alphabetic
import FunctionCatalog.Text.Lowercase
import FunctionCatalog.Text.Quoted
import FunctionCatalog.Path
import FunctionCatalog.Record.Format
import FunctionCatalog.Extraction.File
import FunctionCatalog.Tree.Interchange
import FunctionCatalog.FileTree.Basic
import FunctionCatalog.FileTree.Build
import FunctionCatalog.Harvest.Run
import FunctionCatalog.Harvest.System
import FunctionCatalog.Config.Load
import FunctionCatalog.Program
import FunctionCatalog.Main
import FunctionCatalog.Proofs.Harvest.Step
import FunctionCatalog.Proofs.Harvest.Lifecycle
import FunctionCatalog.Proofs.Harvest.Progress
import FunctionCatalog.Proofs.Harvest.Union
import FunctionCatalog.Proofs.Harvest.Schedule
import FunctionCatalog.Proofs.CType.Brackets
import FunctionCatalog.Proofs.CType.Layers
import FunctionCatalog.Proofs.CType.WellFormed
import FunctionCatalog.Proofs.CType.DeclaratorText
import FunctionCatalog.Proofs.CType.Unambiguous
import FunctionCatalog.Proofs.Declaration.Operators
import FunctionCatalog.Proofs.Declaration.InsideOut
import FunctionCatalog.Proofs.Extraction.FunctionRecord
import FunctionCatalog.Proofs.Extraction.TypeNames
import FunctionCatalog.Proofs.Extraction.Containers
import FunctionCatalog.Proofs.Harvest.Strictness
import FunctionCatalog.Proofs.Harvest.Rerun
import FunctionCatalog.Proofs.Json.Lexemes
import FunctionCatalog.Proofs.Record.JsonText
import FunctionCatalog.Proofs.Text.Encoding
import FunctionCatalog.Proofs.Harvest.Artifact
import FunctionCatalog.Proofs.Declaration.InOnePass
import FunctionCatalog.Proofs.Declaration.Unnamed
import FunctionCatalog.Proofs.Extraction.Restated
import FunctionCatalog.Proofs.CType.Parts
import FunctionCatalog.Proofs.Declaration.Sustained
import FunctionCatalog.Proofs.Extraction.Invariant
import FunctionCatalog.Proofs.Extraction.Representation
import FunctionCatalog.Proofs.Text.Characters
import FunctionCatalog.Proofs.TypeName.OneLine
import FunctionCatalog.Proofs.CType.OneLine
import FunctionCatalog.Proofs.Extraction.OneLine
import FunctionCatalog.Proofs.Harvest.OneLine
import FunctionCatalog.Proofs.LinkageGuard.Masking
import FunctionCatalog.Proofs.LinkageGuard.Code
import FunctionCatalog.Proofs.Comment.Exact
import FunctionCatalog.Proofs.Comment.Trailing
import FunctionCatalog.Proofs.Extraction.Masking
import FunctionCatalog.Proofs.Extraction.Linkage
import FunctionCatalog.Proofs.Extraction.UnnamedTags
import FunctionCatalog.Proofs.Extraction.References
import FunctionCatalog.Proofs.Record.Delimiters
import FunctionCatalog.Proofs.Harvest.DistinctLines
import FunctionCatalog.Proofs.Extraction.ArrayParameters
import FunctionCatalog.Proofs.TypeName.BuiltinWords
import FunctionCatalog.Proofs.Extraction.SizedSpecifiers
import FunctionCatalog.Proofs.Harvest.Reports
import FunctionCatalog.Proofs.Harvest.Units
import FunctionCatalog.Proofs.Path.FileName
import FunctionCatalog.Proofs.FileTree.Surroundings
import FunctionCatalog.Proofs.Harvest.SingleFile
import FunctionCatalog.Proofs.TypeName.NormalForm
import FunctionCatalog.Proofs.Text.Runs
import FunctionCatalog.Proofs.Comment.Tokenization
import FunctionCatalog.Proofs.TypeName.BuiltinNames
import FunctionCatalog.Proofs.Text.Lowercase
import FunctionCatalog.Proofs.Config.Extensions
import FunctionCatalog.Proofs.Extraction.OperatorNames
import FunctionCatalog.Proofs.CType.Qualified
import FunctionCatalog.Proofs.Declaration.Qualified
import FunctionCatalog.Proofs.Declaration.Flattened
import FunctionCatalog.Proofs.Declaration.Alike
import FunctionCatalog.Proofs.Extraction.QualifierLayers
import FunctionCatalog.Proofs.Extraction.Qualifiers
