/-
  The arguments of the command line.

  One positional argument names the label file. Options may stand anywhere before `--`; behind
  it everything is positional. A long option may be shortened as long as only one option starts
  so, and takes its value after `=` or from the next argument. Short options may be joined
  behind one dash, the last of them with its value, and `=` may stand behind the first. A single
  dash, a negative number and an argument with a space are positional even though they start
  with a dash. Of a repeated option the last counts. Two dashes as a value, which is possible
  only where it is joined to its option, leave the option without a value.
-/
import ThermalLabel.Conversion

namespace ThermalLabel

/-- What the command line asks for. -/
structure Arguments where
  input : Text
  output : Option Text
  host : Option Text
  service : Option Int
  strictness : Strictness
  encoding : Option Text
  verbose : Bool
  deriving DecidableEq

/-- Why a command line asks for no conversion. -/
inductive ArgumentsFault where
  /-- Help was asked for. -/
  | help
  /-- The arguments are in error. -/
  | usage
  deriving DecidableEq

/-- An option of the command line. -/
inductive CommandOption where
  | help
  | output
  | host
  | service
  | strict
  | encoding
  | verbose
  deriving DecidableEq

namespace CommandOption

/-- The names of the options. -/
def names : List (Text × CommandOption) :=
  [("-h".toList, help), ("--help".toList, help), ("-o".toList, output),
    ("--output".toList, output), ("--host".toList, host), ("--port".toList, service),
    ("--strict".toList, strict), ("--encoding".toList, encoding), ("-v".toList, verbose),
    ("--verbose".toList, verbose)]

/-- The option of a name. -/
def ofName? (name : Text) : Option CommandOption := names.lookup name

/-- The option is followed by a value. -/
def takesValue : CommandOption → Bool
  | output | host | service | encoding => true
  | help | strict | verbose => false

end CommandOption

namespace Arguments

/-! ## Classification -/

/-- What an argument is. -/
inductive Word where
  | positional (text : Text)
  /-- An option, whether it was given by a short name, and what is joined to the name. -/
  | option (option : CommandOption) (short : Bool) (joined : Option Text)
  /-- It starts like an option but is none. -/
  | unknown
  | separator
  deriving DecidableEq

/-- The parts of an argument before and after its first `=`. -/
def joinedValue (t : Text) : Text × Option Text :=
  match Text.cut? ['='] t with
  | some (name, value) => (name, some value)
  | none => (t, none)

/-- The options that a long name, perhaps shortened, may mean. -/
def longMatches (t : Text) : List Word :=
  let (name, value) := joinedValue t
  (CommandOption.names.filter fun n => name.isPrefixOf n.1).map fun n => .option n.2 false value

/-- The options that a short name may mean, with what is joined to it. -/
def shortMatches (t : Text) : List Word :=
  CommandOption.names.filterMap fun n =>
    if n.1 = t.take 2 then some (.option n.2 true (some (t.drop 2)))
    else if t.isPrefixOf n.1 then some (.option n.2 true none)
    else none

/-- The option that an argument names in full, with a value behind `=`. -/
def namedOption? (t : Text) : Option Word :=
  match CommandOption.ofName? t with
  | some o => some (.option o (t.length = 2) none)
  | none =>
    match joinedValue t with
    | (_, none) => none
    | (name, value) =>
      (CommandOption.ofName? name).map fun o => .option o (name.length = 2) value

/-- A number behind a minus sign, whole or with a point. -/
def isNegated (t : Text) : Bool :=
  match t with
  | '-' :: rest =>
    match rest.dropWhile Text.isDecimalDigit with
    | [] => rest != []
    | '.' :: fraction => fraction != [] && fraction.all Text.isDecimalDigit
    | _ => false
  | _ => false

/-- A negative number, perhaps with a line end. -/
def isNegativeNumber (t : Text) : Bool := isNegated ((Text.dropEnding? ['\n'] t).getD t)

/-- What an argument before `--` is. -/
def classify (t : Text) : Except ArgumentsFault Word :=
  if t.head? ≠ some '-' ∨ t = ['-'] then .ok (.positional t)
  else
    match namedOption? t with
    | some word => .ok word
    | none =>
      match (if ['-', '-'].isPrefixOf t then longMatches t else shortMatches t) with
      | [word] => .ok word
      | _ :: _ :: _ => .error .usage
      | [] => .ok (if isNegativeNumber t || t.contains ' ' then .positional t else .unknown)

/-- What the arguments are. -/
def classifyAll : List Text → Except ArgumentsFault (List Word)
  | [] => .ok []
  | t :: rest =>
    if t = ['-', '-'] then .ok (.separator :: rest.map .positional)
    else do return (← classify t) :: (← classifyAll rest)

/-! ## Collection -/

/-- The values collected so far. -/
structure Collected where
  input : Option Text
  /-- An argument was left over. -/
  excess : Bool
  rest : Arguments
  deriving DecidableEq

/-- The values before any argument. -/
def Collected.start : Collected where
  input := none
  excess := false
  rest := ⟨[], none, none, some 9100, .lenient, some "utf-8".toList, false⟩

/-- The value that an option is given, none for two dashes. -/
def givenValue (value : Text) : Option Text := if value = ['-', '-'] then none else some value

/-- Sets an option that takes a value. -/
def Collected.setValue (c : Collected) (value : Text) :
    CommandOption → Except ArgumentsFault Collected
  | .output => .ok { c with rest := { c.rest with output := givenValue value } }
  | .host => .ok { c with rest := { c.rest with host := givenValue value } }
  | .encoding => .ok { c with rest := { c.rest with encoding := givenValue value } }
  | .service =>
    match givenValue value, Numeral.integer? value with
    | none, _ => .ok { c with rest := { c.rest with service := none } }
    | some _, some n => .ok { c with rest := { c.rest with service := some n } }
    | some _, none => .error .usage
  | .help | .strict | .verbose => .error .usage

/-- Sets an option that takes no value. -/
def Collected.setFlag (c : Collected) : CommandOption → Except ArgumentsFault Collected
  | .strict => .ok { c with rest := { c.rest with strictness := .strict } }
  | .verbose => .ok { c with rest := { c.rest with verbose := true } }
  | .help => .error .help
  | .output | .host | .service | .encoding => .error .usage

/-- Sets several flags in order. -/
def Collected.setFlags (c : Collected) (flags : List CommandOption) :
    Except ArgumentsFault Collected :=
  flags.foldlM (fun c o => c.setFlag o) c

/-- What the short options joined behind one dash come to. -/
inductive Group where
  /-- Flags only. -/
  | flags (flags : List CommandOption)
  /-- Flags, then an option that takes the next argument as its value. -/
  | waiting (flags : List CommandOption) (last : CommandOption)
  /-- Flags, then an option with its value. -/
  | value (flags : List CommandOption) (last : CommandOption) (value : Text)
  deriving DecidableEq

/-- The group with one more flag in front. -/
def Group.push (o : CommandOption) : Group → Group
  | flags fs => flags (o :: fs)
  | waiting fs last => waiting (o :: fs) last
  | value fs last v => value (o :: fs) last v

/-- Reads what is joined to a short option: its value, or more options if it takes none. -/
def group (o : CommandOption) : (joined : Text) → Except ArgumentsFault Group
  | [] => .ok (if o.takesValue then .waiting [] o else .flags [o])
  | c :: rest =>
    if o.takesValue then .ok (.value [] o (c :: rest))
    else
      match CommandOption.ofName? ['-', c] with
      | some next => (group next rest).map (Group.push o)
      | none => .error .usage

/-- The group that an option with something joined to it starts. A long option that takes no
    value and an `=` with nothing behind it join nothing. -/
def Word.group (o : CommandOption) (short : Bool) (joined : Text) : Except ArgumentsFault Group :=
  if o.takesValue then .ok (.value [] o joined)
  else if short && joined != [] then Arguments.group o joined
  else .error .usage

/-- An option that waits for its value, and the flags joined in front of it. -/
structure Waiting where
  flags : List CommandOption
  option : CommandOption
  deriving DecidableEq

/-- Sets the flags of a group and the value of its last option; the result tells whether that
    one still waits for its value. -/
def Collected.setGroup (c : Collected) : Group → Except ArgumentsFault (Collected × Option Waiting)
  | .flags flags => do return (← c.setFlags flags, none)
  | .waiting flags last => .ok (c, some ⟨flags, last⟩)
  | .value flags last v => do return (← (← c.setFlags flags).setValue v last, none)

/-- Collects the values of classified arguments. `waiting` is an option whose value must come
    next. A separator belongs to the input before or behind it. -/
def collect (c : Collected) (waiting : Option Waiting) :
    List Word → Except ArgumentsFault Collected
  | [] => if waiting.isSome then .error .usage else .ok c
  | word :: rest =>
    match waiting, word with
    | some w, .positional t => do
      collect (← (← c.setFlags w.flags).setValue t w.option) none rest
    | some _, _ => .error .usage
    | none, .positional t =>
      if c.input.isSome then collect { c with excess := true } none rest
      else
        match rest with
        | .separator :: rest => collect { c with input := some t } none rest
        | rest => collect { c with input := some t } none rest
    | none, .separator => collect { c with excess := c.excess || c.input.isSome } none rest
    | none, .unknown => collect { c with excess := true } none rest
    | none, .option o short (some joined) => do
      let (c, waiting) ← c.setGroup (← Word.group o short joined)
      collect c waiting rest
    | none, .option o _ none =>
      if o.takesValue then collect c (some ⟨[], o⟩) rest
      else do collect (← c.setFlag o) none rest

/-- What a command line asks for. -/
def parse (argv : List Text) : Except ArgumentsFault Arguments := do
  let c ← collect .start none (← classifyAll argv)
  match c.input with
  | some input => if c.excess then throw .usage else return { c.rest with input }
  | none => throw .usage

end Arguments

end ThermalLabel
