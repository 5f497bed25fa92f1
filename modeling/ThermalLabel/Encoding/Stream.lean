/-
  Streams of text.

  A stream is read as a whole: its bytes are decoded, and then, if it unifies line ends, each
  line end becomes a line feed. A file that is opened as text unifies them. Which codecs there are
  and under which names is for the system to say, and the standard input is a stream that a
  program is started with: its codec, and what it does to line ends, are settled by then.
-/
import ThermalLabel.Encoding.Bytes

namespace ThermalLabel

/-- A codec: the text of a byte string, none if the bytes are no text in it. -/
abbrev Codec := Bytes → Option Text

/-- The codecs by the names under which they are looked up. -/
abbrev Codecs := Text → Option Codec

/-- A text with each line end, of whatever kind, written as a line feed. -/
def unifyLineEnds : Text → Text
  | [] => []
  | '\r' :: '\n' :: rest => '\n' :: unifyLineEnds rest
  | c :: rest => (if c = '\r' then '\n' else c) :: unifyLineEnds rest

/-- A stream of text. -/
structure TextStream where
  bytes : Bytes
  codec : Codec
  /-- Whether each line end is read as a line feed. -/
  unifies : Bool

namespace TextStream

/-- A file that is opened as text. -/
def ofFile (bytes : Bytes) (codec : Codec) : TextStream := ⟨bytes, codec, true⟩

/-- The text of a stream; none if its bytes are no text in its codec. -/
def text? (s : TextStream) : Option Text :=
  (s.codec s.bytes).map fun raw => if s.unifies then unifyLineEnds raw else raw

end TextStream

end ThermalLabel
