import ThermalLabel.Design.Conversion
import ThermalLabel.Main
import ThermalLabel.Raster.Access
import ThermalLabel.Proofs.Layout
import ThermalLabel.Proofs.Fields
import ThermalLabel.Proofs.Command.Parsing
import ThermalLabel.Proofs.Graphic.Scanning
import ThermalLabel.Proofs.Accounting
import ThermalLabel.Proofs.Number.Range
import ThermalLabel.Proofs.Script.HalfUp
import ThermalLabel.Proofs.Script.Corners
import ThermalLabel.Proofs.Script.Sizes
import ThermalLabel.Proofs.Overflow
import ThermalLabel.Proofs.Completion
import ThermalLabel.Proofs.Command.Exchange
import ThermalLabel.Proofs.Locality
import ThermalLabel.Proofs.Number.Characters
import ThermalLabel.Proofs.Terminators
import ThermalLabel.Proofs.Number.Reading
import ThermalLabel.Proofs.Script.Decoding
import ThermalLabel.Proofs.Graphic.Placement
import ThermalLabel.Proofs.Recalls
import ThermalLabel.Proofs.Command.Writing
import ThermalLabel.Proofs.Command.Moves
import ThermalLabel.Proofs.Agreement
import ThermalLabel.Proofs.Strictness
import ThermalLabel.Proofs.Design.Loading
import ThermalLabel.Proofs.Design.Naming
import ThermalLabel.Proofs.Raster.Hexadecimal
import ThermalLabel.Proofs.Design.Traces
import ThermalLabel.Proofs.Design.Accounting
import ThermalLabel.Proofs.Design.Pictures
import ThermalLabel.Proofs.Design.Completion
import ThermalLabel.Proofs.Design.Comparing
import ThermalLabel.Proofs.Design.Cancelling
import ThermalLabel.Proofs.Design.Isolation
import ThermalLabel.Proofs.Design.Drafting
import ThermalLabel.Proofs.CommandLine.Running
import ThermalLabel.Proofs.Command.Grammar
import ThermalLabel.Proofs.Command.Block
import ThermalLabel.Proofs.Command.FieldData
import ThermalLabel.Proofs.Graphic.Expansion
import ThermalLabel.Proofs.Graphic.Retrieval
import ThermalLabel.Proofs.Script.Calls
import ThermalLabel.Proofs.Graphic.Sites
import ThermalLabel.Proofs.Graphic.Naming
import ThermalLabel.Proofs.Raster.Inking
import ThermalLabel.Proofs.Start
import ThermalLabel.Proofs.Storing
import ThermalLabel.Proofs.CommandLine.Verbosity
import ThermalLabel.Proofs.Delivery.Files
