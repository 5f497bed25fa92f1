/-
  Faults: why a graphic, a command, an element or a whole run is refused.

  A fault is a cause with the values that a message shows; `Fault.message` words it. Most
  faults only skip the item in which they arise and become a diagnostic of the kind
  `Fault.diagnosticKind?`; those without a kind end the run.
-/
import ThermalLabel.Number.Quantity

namespace ThermalLabel

/-- What a diagnostic is about. -/
inductive DiagnosticKind where
  | decode
  | resource
  | structural
  | reference
  | position
  | malformed
  | unsupported
  | cancelled
  deriving DecidableEq

/-- The name of a kind in the list of diagnostics. -/
def DiagnosticKind.name : DiagnosticKind → String
  | decode => "decode"
  | resource => "resource"
  | structural => "structure"
  | reference => "reference"
  | position => "position"
  | malformed => "syntax"
  | unsupported => "unsupported"
  | cancelled => "cancelled"

/-- What kept an image from being had. -/
inductive LoadObstacle where
  /-- There is no image at its source. -/
  | unavailable
  /-- A file or a connection failed. -/
  | inputOutput
  /-- The image is malformed. -/
  | malformed
  /-- The image is too large. -/
  | oversized
  deriving DecidableEq

/-- Why an image could not be had. -/
inductive LoadFault where
  /-- The image is missing or unreadable; the message says why. -/
  | refused (obstacle : LoadObstacle) (message : String)
  /-- The loader itself failed, in the way named. -/
  | crashed (failure : String)
  deriving DecidableEq

/-- A cause of refusal. -/
inductive Fault where
  /-- The payload ends with a count that has nothing to repeat. -/
  | danglingCount (count : Char) (offset : Nat)
  /-- The payload of the named graphic expands to something else than hexadecimal digits. -/
  | notHexadecimal (graphic : Text)
  /-- A whole number has more digits than are read. -/
  | tooManyDigits (count : Nat)
  /-- The value is no length in pixels. -/
  | notPixels (given : Quantity)
  /-- The text is no double. -/
  | notNumeral (given : Text)
  /-- The value is a negative or unbounded size. -/
  | notSize (given : Quantity)
  /-- The coordinate is unbounded. -/
  | notFinite (given : Quantity)
  /-- The coordinate does not fit a position field. -/
  | outsideField (pixels : Binary64)
  /-- A whole number is out of the range of doubles. -/
  | outOfRange
  /-- A value of another kind stands where a number is needed. -/
  | notNumber
  /-- A parameter is no whole number. -/
  | notInteger (parameter opcode parameters : Text)
  /-- The parameters of a field origin are no numbers. -/
  | notOrigin (parameters : Text)
  /-- A value of another kind stands where a text is needed. -/
  | notText
  /-- The symbology of a barcode is no text. -/
  | symbologyNotText
  /-- There is no command at the index. -/
  | noSuchCommand
  /-- An element lacks a size. -/
  | sizeMissing (element : Text) (dimension : String)
  /-- An image element lacks its source. -/
  | sourceMissing (element : Text)
  /-- An image name has characters other than word characters. -/
  | notImageName (name : Text)
  /-- No element has this tag. -/
  | unknownTag (tag : Text)
  /-- An image was to be stored under a name with other characters than word characters. -/
  | storedNameNotWord
  /-- An image was to be stored with other data than capital hexadecimal digits. -/
  | storedDataNotHexadecimal
  /-- A threshold is outside the brightness scale. -/
  | thresholdOutside
  /-- A bitmap has more or fewer bits than its dimensions say. -/
  | bitCount
  /-- An image could not be had. -/
  | loading (reason : LoadFault)
  deriving DecidableEq

namespace Fault

open Text (shown quoted)

/-- The wording of a fault. -/
def message : Fault → String
  | danglingCount count offset =>
    "count character " ++ shown (quoted [count]) ++ " at offset " ++ toString offset ++
      " has no data character"
  | notHexadecimal graphic => "graphic " ++ shown graphic ++ " is not hex after decompression"
  | tooManyDigits count =>
    "Exceeds the limit (4300 digits) for integer string conversion: value has " ++
      toString count ++ " digits; use sys.set_int_max_str_digits() to increase the limit"
  | notPixels given => "invalid pixel value " ++ shown given.inMessage
  | notNumeral given => "could not convert string to float: " ++ shown (quoted given)
  | notSize given => "invalid size " ++ shown given.inMessage
  | notFinite given => "position " ++ shown given.inMessage ++ " is not a finite number"
  | outsideField pixels => "position " ++ shown pixels.numeral ++ " outside 0..9999"
  | outOfRange => "whole number out of range"
  | notNumber => "not a number"
  | notText => "not a text"
  | symbologyNotText => "symbology is not a text"
  | notInteger parameter opcode parameters =>
    "invalid parameter " ++ shown (quoted parameter) ++ " in ^" ++ shown opcode ++
      shown parameters
  | notOrigin parameters => "invalid field origin ^FO" ++ shown parameters
  | noSuchCommand => "no such command"
  | sizeMissing element dimension => shown element ++ " element needs a " ++ dimension
  | sourceMissing element => shown element ++ " element has no src"
  | notImageName name => "invalid image name " ++ shown (quoted name)
  | unknownTag tag => "Unsupported element type: " ++ shown tag
  | storedNameNotWord => "image name may only contain word characters"
  | storedDataNotHexadecimal => "image data must be uppercase hex"
  | thresholdOutside => "threshold must be between 0 and 256"
  | bitCount => "bitmap size does not match dimensions"
  | loading (.refused _ message) => message
  | loading (.crashed failure) => failure

/-- The kind of diagnostic that a fault becomes; none if it ends the run. -/
def diagnosticKind? : Fault → Option DiagnosticKind
  | danglingCount .. | notHexadecimal .. => some .decode
  | notFinite .. | outsideField .. => some .position
  | notPixels .. | notNumeral .. | notSize .. | notInteger .. | notOrigin .. | sizeMissing ..
  | sourceMissing .. | notImageName .. => some .malformed
  | unknownTag .. => some .unsupported
  | loading (.refused ..) => some .resource
  | tooManyDigits .. | outOfRange | notNumber | notText | symbologyNotText | noSuchCommand
  | storedNameNotWord | storedDataNotHexadecimal | thresholdOutside | bitCount
  | loading (.crashed _) => none

end Fault

end ThermalLabel
