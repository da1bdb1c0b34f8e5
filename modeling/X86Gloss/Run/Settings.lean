/-
X86Gloss/Run/Settings.lean

A run of settings. Settings with a value for every switch run as the options that they amount
to. A switch that is set to nothing does no harm until the run needs its value; there the run
breaks off, without output and without an exit code of its own.

The capacity is needed first, the mode once the bytes are read. The address of the first byte is
needed only where it goes into a report: the records bring addresses of their own.
-/
import X86Gloss.Run

namespace X86Gloss

/-- What an address without a value was needed for. -/
inductive AddressUse where
  /-- A report shows it. -/
  | shown
  /-- The size of the records is added to it. -/
  | advanced
deriving DecidableEq

/-- Why a run breaks off. -/
inductive Breakdown where
  /-- A rule holds a text that is not ASCII. -/
  | notAscii
  /-- The capacity has no value to hold against its bounds. -/
  | noCapacity
  /-- There is no mode to decode in. -/
  | noArchitecture
  /-- The address of the first byte has no value. -/
  | noAddress (use : AddressUse)
deriving DecidableEq

/-- What a run with some bytes first needs the address of the first byte for, if anything. -/
def Options.addressUse (options : Options) (disassembler : Disassembler) (limit : Int)
    (code : List UInt8) : Option AddressUse :=
  match disassembler.start (.ok options.architecture) with
  | .error _ => none
  | .ok _ =>
    match disassembler.decode code options.address 0 with
    | .error (.stream _ _) => some .shown
    | .error _ => none
    | .ok [] => some .shown
    | .ok records =>
      match (Listing.ofRecords .standard limit.toNat options.capacity.toNat records).failure with
      | some _ => none
      | none => (options.shortfall code records).map fun _ => .advanced

namespace Settings

/-- What a run misses, if it misses anything. Bytes that cannot be read end the run before the
mode is looked at. -/
def missing (settings : Settings) (input : String) (disassembler : Disassembler) (limit : Int) :
    Option Breakdown :=
  if settings.capacity.isNone then some .noCapacity
  else
    match settings.options.code input limit with
    | .error _ => none
    | .ok code =>
      if settings.architecture.isNone then some .noArchitecture
      else if settings.address.isNone then
        (settings.options.addressUse disassembler limit code).map .noAddress
      else none

/-- A run of the settings. -/
def run (settings : Settings) (input : String) (disassembler : Disassembler) (limit : Int) :
    Except Breakdown Exit :=
  match settings.missing input disassembler limit with
  | some breakdown => .error breakdown
  | none =>
    match settings.options.run input disassembler limit with
    | .error _ => .error .notAscii
    | .ok exit => .ok exit

end Settings

end X86Gloss
