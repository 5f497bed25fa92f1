/-
  Log lines: what a run tells about its course, beside its result.
-/

namespace ThermalLabel

/-- How much a log line matters. -/
inductive LogLevel where
  | debug
  | warning
  | error
  deriving DecidableEq

/-- Which part of a run speaks. -/
inductive Logger where
  | conversion
  | delivery
  deriving DecidableEq

/-- A log line. -/
structure LogLine where
  level : LogLevel
  logger : Logger
  message : String
  deriving DecidableEq

namespace LogLine

/-- The name of a level. -/
def levelName : LogLevel → String
  | .debug => "DEBUG"
  | .warning => "WARNING"
  | .error => "ERROR"

/-- The name of a logger. -/
def loggerName : Logger → String
  | .conversion => "zpl2dpl.converter"
  | .delivery => "zpl2dpl.printer"

/-- A log line as it is printed. -/
def render (line : LogLine) : String :=
  levelName line.level ++ " " ++ loggerName line.logger ++ ": " ++ line.message ++ "\n"

/-- Whether a run prints the line; a quiet one leaves out those for debugging. -/
def isShown (verbose : Bool) (line : LogLine) : Bool := verbose || line.level != .debug

end LogLine

end ThermalLabel
