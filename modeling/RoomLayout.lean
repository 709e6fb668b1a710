import RoomLayout.Room.Tiling
import RoomLayout.Room.Stitching
import RoomLayout.Room.Definition
import RoomLayout.Catalogue
import RoomLayout.Placement.Cursor
import RoomLayout.Text.Alphanumeric
import RoomLayout.Script.Tokenization
import RoomLayout.Script.Program
import RoomLayout.Session.CompileError
import RoomLayout.Level.Compile
import RoomLayout.Level.Bundle
import RoomLayout.Files.Access
import RoomLayout.Files.TextureRoot
import RoomLayout.Decimal.Format
import RoomLayout.Yaml.Document
import RoomLayout.Yaml.Layout
import RoomLayout.Session.ConfigFile
import RoomLayout.Level.BundleFile
import RoomLayout.Command.Run
import RoomLayout.Main
import RoomLayout.Proofs.Stitching.PairStep
import RoomLayout.Proofs.Stitching.Deletion
import RoomLayout.Proofs.Stitching.Fixpoint
import RoomLayout.Proofs.Stitching.Incremental
import RoomLayout.Proofs.Stitching.Survivors
import RoomLayout.Proofs.Stitching.SharedQuad
import RoomLayout.Proofs.Stitching.Groups
import RoomLayout.Proofs.Stitching.Settings
import RoomLayout.Proofs.Lexing.Cut
import RoomLayout.Proofs.Lexing.Lossless
import RoomLayout.Proofs.Lexing.Languages
import RoomLayout.Proofs.Lexing.LongestMatch
import RoomLayout.Proofs.Lexing.Boundary
import RoomLayout.Proofs.Lexing.LineByLine
import RoomLayout.Proofs.Lexing.Trailing
import RoomLayout.Proofs.Lexing.Faults
import RoomLayout.Proofs.Reading.Accounting
import RoomLayout.Proofs.Reading.Grammar
import RoomLayout.Proofs.Reading.SilentLines
import RoomLayout.Proofs.Reading.Headers
import RoomLayout.Proofs.Reading.SilentRules
import RoomLayout.Proofs.Reading.Renumbering
import RoomLayout.Proofs.Reading.Layout
import RoomLayout.Proofs.Reading.Appending
import RoomLayout.Proofs.Tiling.Grid
import RoomLayout.Proofs.Tiling.FlushFaces
import RoomLayout.Proofs.Construction.Effects
import RoomLayout.Proofs.Construction.CursorPlace
import RoomLayout.Proofs.Construction.Lockstep
import RoomLayout.Proofs.Construction.Branches
import RoomLayout.Proofs.Construction.Effectiveness
import RoomLayout.Proofs.Construction.Tracing
import RoomLayout.Proofs.Construction.Rejection
import RoomLayout.Proofs.Naming.Names
import RoomLayout.Proofs.Naming.DefinedNames
import RoomLayout.Proofs.Texturing.Independence
import RoomLayout.Proofs.Texturing.Used
import RoomLayout.Proofs.Construction.Inlining
import RoomLayout.Proofs.Construction.Lights
import RoomLayout.Proofs.Export.RoundTrip
import RoomLayout.Proofs.Tiling.TileCap
import RoomLayout.Proofs.Lexing.Separated
import RoomLayout.Proofs.Construction.Recompiling
import RoomLayout.Proofs.Construction.ReportOrder
import RoomLayout.Proofs.Tiling.TouchingRooms
import RoomLayout.Proofs.Placement.Snapshots
import RoomLayout.Proofs.Construction.AppendOnly
import RoomLayout.Proofs.Construction.DefinitionsInForce
import RoomLayout.Proofs.Reading.Blocks
import RoomLayout.Proofs.Placement.AlignedBoxes
import RoomLayout.Proofs.Tiling.Mesh
import RoomLayout.Proofs.Tiling.FaceByFace
import RoomLayout.Proofs.Tiling.ClosedBox
import RoomLayout.Proofs.Stitching.BoxTest
import RoomLayout.Proofs.Lexing.Printing
import RoomLayout.Proofs.Reading.OverriddenCodes
import RoomLayout.Proofs.Construction.Renaming
import RoomLayout.Proofs.Tiling.UnusableTileSizes
import RoomLayout.Proofs.Texturing.TextureRoots
import RoomLayout.Proofs.Texturing.WrittenForms
import RoomLayout.Proofs.Session.ConfigFiles
import RoomLayout.Proofs.Lexing.Expressions
import RoomLayout.Proofs.Lexing.Viability
import RoomLayout.Proofs.Reading.AlignmentCodes
