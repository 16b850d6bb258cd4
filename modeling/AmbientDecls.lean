import AmbientDecls.Main
import AmbientDecls.Proofs.Declaration.Documentation
import AmbientDecls.Proofs.Declaration.Linewise
import AmbientDecls.Proofs.Declaration.Outline
import AmbientDecls.Proofs.Json.Document
import AmbientDecls.Proofs.Layout.Balance
import AmbientDecls.Proofs.Layout.BlankLines
import AmbientDecls.Proofs.Layout.Idempotence
import AmbientDecls.Proofs.Signature.Unambiguous
import AmbientDecls.Proofs.Json.Skip
import AmbientDecls.Proofs.Json.Value
import AmbientDecls.Proofs.Json.Record
import AmbientDecls.Proofs.Metadata.RoundTrip
import AmbientDecls.Proofs.Metadata.Form
import AmbientDecls.Proofs.Metadata.Merge
import AmbientDecls.Proofs.Layout.Indentation
import AmbientDecls.Proofs.Declaration.Returns
import AmbientDecls.Proofs.Declaration.ClassNames
import AmbientDecls.Proofs.Pipeline.Run
import AmbientDecls.Proofs.Layout.Terminators
import AmbientDecls.Proofs.Signature.Shape
import AmbientDecls.Proofs.DocComment.Steps
import AmbientDecls.Proofs.DocComment.Reflow
import AmbientDecls.Proofs.Declaration.SummaryType
import AmbientDecls.Proofs.Declaration.ReturnUnion
import AmbientDecls.Proofs.Declaration.MethodComment
import AmbientDecls.Proofs.Declaration.EmptyText
import AmbientDecls.Proofs.Pipeline.Expansion
import AmbientDecls.Proofs.Format.External
