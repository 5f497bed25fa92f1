/-
  Files, and the system that finds them by their paths.

  A regular file is kept under a name of its own, the same whichever path leads to it; a file that
  is put under a name that is there takes its place. What a path leads to is for the system to say:
  it may follow links, walk through directories, refuse access, or lead to a device. A system is
  therefore given by its answers (`FileSystem`), and nothing is assumed of them but that writing to
  files does not change where paths lead.
-/
import ThermalLabel.Encoding.Bytes

namespace ThermalLabel

/-- The contents of regular files by name. -/
abbrev Directory := List (Text × Bytes)

namespace Directory

/-- The content of a file. -/
def get? (files : Directory) (name : Text) : Option Bytes := files.lookup name

/-- The directory after a file is given a content. -/
def put (files : Directory) (name : Text) (content : Bytes) : Directory :=
  match files with
  | [] => [(name, content)]
  | (other, bytes) :: rest =>
    if other = name then (name, content) :: rest else (other, bytes) :: put rest name content

end Directory

/-- Why a path leads to no file. -/
inductive PathFault where
  | noSuchFile
  /-- The path leads to a directory. -/
  | isDirectory
  /-- The path leads through a file. -/
  | notDirectory
  /-- The name or the path is too long. -/
  | tooLong
  /-- The path holds a null character. -/
  | nullInPath
  /-- The system has another reason, in its own words. -/
  | refused (reason : String)
  deriving DecidableEq

namespace PathFault

/-- The wording of a fault. -/
def message : PathFault → String
  | noSuchFile => "no such file or directory"
  | isDirectory => "is a directory"
  | notDirectory => "not a directory"
  | tooLong => "file name too long"
  | nullInPath => "embedded null byte"
  | refused reason => reason

end PathFault

/-- What a path to be read leads to. -/
inductive Source where
  /-- A regular file, by its name. -/
  | file (name : Text)
  /-- A device or a pipe, by what it gives. -/
  | device (content : Bytes)
  deriving DecidableEq

/-- Where a path to be written leads. -/
inductive Destination where
  /-- A regular file, by its name; it may be there or not. -/
  | file (name : Text)
  /-- A device or a pipe, by its name. -/
  | device (name : Text)
  /-- A device without space. -/
  | full
  deriving DecidableEq

/-- A system that keeps files, by what it answers to paths. -/
structure FileSystem where
  /-- What a path to be read leads to. -/
  source : Directory → Text → Except PathFault Source
  /-- Where a path to be written leads, if it leads anywhere; what is in the files does not matter
      to that. -/
  place? : Text → Option Destination
  /-- Why a path to be written leads nowhere. -/
  obstacle : Directory → Text → PathFault

namespace FileSystem

/-- The bytes that are read from a path. -/
def find (system : FileSystem) (files : Directory) (path : Text) : Except PathFault Bytes :=
  match system.source files path with
  | .ok (.file name) => (files.get? name).elim (.error .noSuchFile) .ok
  | .ok (.device content) => .ok content
  | .error reason => .error reason

/-- The place that a path to be written leads to. -/
def destination (system : FileSystem) (files : Directory) (path : Text) :
    Except PathFault Destination :=
  (system.place? path).elim (.error (system.obstacle files path)) .ok

/-! ## A single directory -/

/-- A step of a path that stays where it is. -/
def isStay (step : Text) : Bool := step == [] || step == ['.']

/-- The name at the end of a path that leaves the working directory at no step. -/
def plainName? (path : Text) : Option Text :=
  match (Text.fields '/' path).reverse with
  | [] => none
  | name :: steps =>
    if path.head? = some '/' ∨ '\x00' ∈ path ∨ isStay name ∨ name = ['.', '.'] ∨
        ¬ steps.all isStay then none
    else some name

/-- A system with a working directory and nothing around it: the directory has files only, each
    known by its name, and all other paths lead nowhere. -/
def flat : FileSystem where
  source _ path := (plainName? path).elim (.error .noSuchFile) fun name => .ok (.file name)
  place? path := (plainName? path).map .file
  obstacle _ _ := .noSuchFile

end FileSystem

end ThermalLabel
