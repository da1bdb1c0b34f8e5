/-
X86Gloss/CommandLine/Arguments.lean

From arguments to settings. First every argument is sorted by its form alone; then they are
taken from left to right, each switch with the value that follows it.

A switch may be shortened as long as one spelling is meant, and may bring its value after an
equals sign. An argument that starts with a dash and is no switch still counts as a word when
it is a negative number or contains a space. `--` ends the switches; it is dropped where the
bytes are expected or directly after them.
-/
import X86Gloss.CommandLine.Options

namespace X86Gloss

/-! ### Sorting arguments -/

/-- What an argument is by its form. -/
inductive Token where
  | word (text : String)
  | option (switch : Switch) (value : Option String)
  /-- Looks like a switch and is none. -/
  | stranger (text : String)
  /-- The end of the switches. -/
  | separator
deriving DecidableEq

namespace Token

/-- The characters up to the first equals sign, and those after it when there is one. -/
def splitValue (argument : List Char) : List Char × Option (List Char) :=
  match argument.dropWhile (· ≠ '=') with
  | [] => (argument, none)
  | _ :: value => (argument.takeWhile (· ≠ '='), some value)

/-- Whether all characters are decimal digits. -/
def allDigits (text : List Char) : Bool := text.all fun c => (decimalValue? c).isSome

/-- A negative number, whole or with a point, with at least one digit at the end. One line feed
may follow it. -/
def isNegativeNumber (argument : List Char) : Bool :=
  match argument with
  | '-' :: rest =>
    let body := if rest.getLast? = some '\n' then rest.dropLast else rest
    let whole := body.takeWhile (· ≠ '.')
    match body.dropWhile (· ≠ '.') with
    | [] => !whole.isEmpty && allDigits whole
    | _ :: places => allDigits whole && !places.isEmpty && allDigits places
  | _ => false

/-- What follows the short form of help in the same argument, or behind its equals sign. The
letter may be repeated; anything else there is a value, which help does not take. -/
def helpWith (value : List Char) : Token :=
  let rest := value.dropWhile (· = 'h')
  if rest.isEmpty && !value.isEmpty then .option .help none
  else .option .help (some (String.ofList rest))

/-- The switches that an argument abbreviates, by the part before an equals sign. -/
def candidates (stem : List Char) : List (String × Switch) :=
  Switch.spellings.filter fun spelling => stem.isPrefixOf spelling.1.toList

/-- An argument that starts with a dash and is no switch. -/
def ofStranger (argument : List Char) : Token :=
  if isNegativeNumber argument || argument.contains ' ' then .word (String.ofList argument)
  else .stranger (String.ofList argument)

/-- An argument that starts with two dashes and spells no switch in full. -/
def ofAbbreviation (argument stem : List Char) (value : Option (List Char)) :
    Except UsageError Token :=
  match candidates stem with
  | [] => .ok (ofStranger argument)
  | [(_, switch)] => .ok (.option switch (value.map String.ofList))
  | several => .error (.ambiguous (String.ofList argument) (several.map (·.1)))

/-- What an argument before the separator is. -/
def ofArgument (argument : String) : Except UsageError Token :=
  match argument.toList with
  | '-' :: second :: rest =>
    match Switch.spellings.lookup argument with
    | some switch => .ok (.option switch none)
    | none =>
      let (stem, value) := splitValue ('-' :: second :: rest)
      match value, Switch.spellings.lookup (String.ofList stem) with
      | some value, some switch =>
        .ok (if stem = ['-', 'h'] then helpWith value
          else .option switch (some (String.ofList value)))
      | value, _ =>
        if second = '-' then ofAbbreviation ('-' :: second :: rest) stem value
        else if second = 'h' then .ok (helpWith rest)
        else .ok (ofStranger ('-' :: second :: rest))
  | _ => .ok (.word argument)

/-- The arguments sorted. Everything after the separator is a word. -/
def ofArguments : List String → Except UsageError (List Token)
  | [] => .ok []
  | argument :: rest =>
    if argument = separatorText then .ok (.separator :: rest.map .word)
    else
      match ofArgument argument with
      | .error fault => .error fault
      | .ok token => (ofArguments rest).map (token :: ·)

end Token

/-! ### Taking arguments -/

/-- What the arguments ask for. -/
inductive Invocation where
  | help
  | run (settings : Settings)
deriving DecidableEq

/-- What the arguments so far came to. -/
structure Taking where
  settings : Settings
  /-- Whether the word for the bytes has come. -/
  hexTaken : Bool
  /-- Whether it came just before. -/
  hexLast : Bool
  surplus : List String
deriving DecidableEq

namespace Taking

/-- Before the first argument. -/
def start : Taking := ⟨{}, false, false, []⟩

/-- An argument that nothing is done with. -/
def setAside (taking : Taking) (argument : String) : Taking :=
  { taking with hexLast := false, surplus := taking.surplus ++ [argument] }

/-- The first word names the bytes, all others are surplus. -/
def takeWord (taking : Taking) (word : String) : Taking :=
  if taking.hexTaken then taking.setAside word
  else
    { taking with
        settings := { taking.settings with hex := some word }
        hexTaken := true
        hexLast := true }

/-- The separator is dropped before and directly after the word for the bytes. -/
def takeSeparator (taking : Taking) : Taking :=
  if taking.hexTaken && !taking.hexLast then taking.setAside separatorText
  else { taking with hexLast := false }

/-- A switch with its value. -/
def takeValue (taking : Taking) (switch : Switch) (value : String) : Except UsageError Taking :=
  (taking.settings.set switch value).map fun settings =>
    { taking with settings, hexLast := false }

/-- Takes sorted arguments from left to right; surplus ones are reported after the last. -/
def run (taking : Taking) : List Token → Except UsageError Invocation
  | [] =>
    if taking.surplus.isEmpty then .ok (.run taking.settings)
    else .error (.surplus taking.surplus)
  | .word text :: rest => (taking.takeWord text).run rest
  | .separator :: rest => taking.takeSeparator.run rest
  | .stranger text :: rest => (taking.setAside text).run rest
  | .option .help none :: _ => .ok .help
  | .option .debug none :: rest =>
    run { taking with settings := { taking.settings with debug := true }, hexLast := false } rest
  | .option switch (some value) :: rest =>
    match taking.takeValue switch value with
    | .error fault => .error fault
    | .ok taking => taking.run rest
  | .option switch none :: .word value :: rest =>
    match taking.takeValue switch value with
    | .error fault => .error fault
    | .ok taking => taking.run rest
  | .option switch none :: _ => .error (.noValue switch)

end Taking

/-- What a list of arguments asks for. -/
def Invocation.ofArguments (arguments : List String) : Except UsageError Invocation :=
  match Token.ofArguments arguments with
  | .error fault => .error fault
  | .ok tokens => Taking.start.run tokens

end X86Gloss
