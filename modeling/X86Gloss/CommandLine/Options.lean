/-
X86Gloss/CommandLine/Options.lean

The options of the command line and what can be wrong with the arguments that set them.
-/
import X86Gloss.Disassembly
import X86Gloss.Sink
import X86Gloss.Text.Integer
import X86Gloss.Text.Quoted

namespace X86Gloss

/-- The version of the program. -/
def programVersion : String := "1.0.0"

/-- The address of the first byte unless another is given. -/
def standardAddress : Int := 0x400000

/-- What a run is asked to do. Without `hex` the bytes come from standard input. -/
structure Options where
  hex : Option String := none
  address : Int := standardAddress
  architecture : Architecture := .standard
  capacity : Int := standardCapacity
  debug : Bool := false
deriving DecidableEq

/-- The options as arguments leave them. A switch whose value is the bare separator, behind the
equals sign, is set to nothing: the value from before is gone and no other takes its place. -/
structure Settings where
  hex : Option String := none
  address : Option Int := some standardAddress
  architecture : Option Architecture := some .standard
  capacity : Option Int := some standardCapacity
  debug : Bool := false
deriving DecidableEq

/-- The options that settings amount to. What is set to nothing takes its standard value here;
`Settings.run` says when a run gets that far without it. -/
def Settings.options (settings : Settings) : Options where
  hex := settings.hex
  address := settings.address.getD standardAddress
  architecture := settings.architecture.getD .standard
  capacity := settings.capacity.getD standardCapacity
  debug := settings.debug

/-- The switches of the command line. -/
inductive Switch where
  | help
  | address
  | architecture
  | capacity
  | debug
deriving DecidableEq

namespace Switch

/-- How the switches are spelled, in the order in which candidates are named. -/
def spellings : List (String × Switch) := [
  ("-h", .help), ("--help", .help), ("--address", .address), ("--arch", .architecture),
  ("--capacity", .capacity), ("--debug", .debug)]

/-- A switch as messages name it. -/
def title : Switch → String
  | .help => "-h/--help"
  | .address => "--address"
  | .architecture => "--arch"
  | .capacity => "--capacity"
  | .debug => "--debug"

end Switch

/-- What is wrong with the arguments. -/
inductive UsageError where
  /-- A shortened switch could be any of several. -/
  | ambiguous (argument : String) (candidates : List String)
  /-- A switch lacks its value. -/
  | noValue (switch : Switch)
  /-- A switch that takes no value was given one. -/
  | needlessValue (switch : Switch) (value : String)
  /-- The capacity is no integer. -/
  | badCapacity (value : String)
  /-- The address is no integer. -/
  | badAddress (value : String)
  /-- There is no such mode. -/
  | badArchitecture (value : String)
  /-- Arguments that nothing was done with. -/
  | surplus (arguments : List String)
deriving DecidableEq

namespace UsageError

/-- What is wrong with the value of a switch. -/
def about (switch : Switch) (complaint : String) : String :=
  "argument " ++ switch.title ++ ": " ++ complaint

/-- The error in words. -/
def message : UsageError → String
  | .ambiguous argument candidates =>
    "ambiguous option: " ++ argument ++ " could match " ++ ", ".intercalate candidates
  | .noValue switch => about switch "expected one argument"
  | .needlessValue switch value => about switch ("ignored explicit argument " ++ quoted value)
  | .badCapacity value => about .capacity ("invalid int value: " ++ quoted value)
  | .badAddress value => about .address ("invalid <lambda> value: " ++ quoted value)
  | .badArchitecture value =>
    about .architecture ("invalid choice: " ++ quoted value ++ " (choose from "
      ++ ", ".intercalate (Architecture.all.map fun mode => quoted mode.name) ++ ")")
  | .surplus arguments => "unrecognized arguments: " ++ " ".intercalate arguments

end UsageError

/-! ### Setting a switch -/

/-- Ends the switches; as the value of a switch it stands for no value. -/
def separatorText : String := "--"

namespace Settings

/-- The settings with the value of a switch. -/
def assign (settings : Settings) (switch : Switch) (value : String) :
    Except UsageError Settings :=
  match switch with
  | .address =>
    match Integer.ofLiteral? value with
    | some address => .ok { settings with address := some address }
    | none => .error (.badAddress value)
  | .architecture =>
    match Architecture.ofName? value with
    | some architecture => .ok { settings with architecture := some architecture }
    | none => .error (.badArchitecture value)
  | .capacity =>
    match Integer.ofDecimal? value with
    | some capacity => .ok { settings with capacity := some capacity }
    | none => .error (.badCapacity value)
  | .help | .debug => .error (.needlessValue switch value)

/-- The settings with a switch set to nothing. -/
def clear (settings : Settings) (switch : Switch) : Except UsageError Settings :=
  match switch with
  | .address => .ok { settings with address := none }
  | .architecture => .ok { settings with architecture := none }
  | .capacity => .ok { settings with capacity := none }
  | .help | .debug => .error (.needlessValue switch separatorText)

/-- The settings with what stands for the value of a switch; help and debug refuse any. -/
def set (settings : Settings) (switch : Switch) (value : String) : Except UsageError Settings :=
  if value = separatorText then settings.clear switch else settings.assign switch value

end Settings

end X86Gloss
