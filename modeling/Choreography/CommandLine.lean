import Choreography.Backend

/-!
# The command line

One positional argument, the snapshot, and a few options. An option's value stands behind an equals
sign, directly behind a short name, or in the next argument; two hyphens end the options.

An option that is given its value by the next argument is settled when the argument after that is
looked at, or at the end. This decides which of two faults is reported.
-/

namespace Choreography

/-- The parsed command line. -/
structure Arguments where
  snapshot : String
  output : Option String := none
  backend : Option Backend := none
  config : Option String := none
  logLevel : String := "info"
  deriving DecidableEq, Repr

/-- Why a command line is not carried out. -/
inductive ArgumentFault where
  | missingSnapshot
  | unknown (argument : String)
  | missingValue (option : String)
  | unexpectedValue (option : String)
  | badValue (option value : String)
  | repeated (option : String)
  | help
  | version
  deriving DecidableEq, Repr

/-- The fault in words. -/
def ArgumentFault.message : ArgumentFault → String
  | .missingSnapshot => "the path of the snapshot is missing"
  | .unknown argument => s!"unexpected argument `{argument}`"
  | .missingValue option => s!"option `--{option}` needs a value"
  | .unexpectedValue option => s!"option `--{option}` takes no value"
  | .badValue option value => s!"`{value}` is no value for option `--{option}`"
  | .repeated option => s!"option `--{option}` is given more than once"
  | .help => "help was asked for"
  | .version => "the version was asked for"

namespace CommandLine

/-- The options with a value. -/
inductive ValueOption where
  | output
  | backend
  | config
  | logLevel
  deriving DecidableEq, Repr

namespace ValueOption

/-- The long name of an option. -/
def name : ValueOption → String
  | .output => "output"
  | .backend => "backend"
  | .config => "config"
  | .logLevel => "log-level"

/-- The option of a long name. -/
def ofName? (name : List Char) : Option ValueOption :=
  [output, backend, config, logLevel].find? (·.name.toList = name)

/-- The option of a short name. -/
def ofLetter? : Char → Option ValueOption
  | 'o' => some .output
  | 'b' => some .backend
  | 'c' => some .config
  | _ => none

end ValueOption

/-- The flags that end the run at once. -/
def flagOfName? (name : List Char) : Option ArgumentFault :=
  if name = "help".toList then some .help
  else if name = "version".toList then some .version
  else none

/-- The flags by their short names. -/
def flagOfLetter? : Char → Option ArgumentFault
  | 'h' => some .help
  | 'V' => some .version
  | _ => none

/-- What has been read so far. -/
structure State where
  snapshot : Option String := none
  /-- The settled options. -/
  settled : List (ValueOption × String) := []
  /-- An option that is not settled yet, and its value if that has been seen. -/
  pending : Option (ValueOption × Option String) := none
  /-- Two hyphens have been seen. -/
  optionsOver : Bool := false

namespace State

/-- Settles an option: it has to have a value, to be new, and the value has to make sense. -/
def settleOption (st : State) (option : ValueOption) (value : Option String) :
    Except ArgumentFault State :=
  match value with
  | none => .error (.missingValue option.name)
  | some value =>
    if (st.settled.lookup option).isSome then .error (.repeated option.name)
    else if option = .backend && (Backend.ofName? value).isNone then
      .error (.badValue option.name value)
    else .ok { st with settled := (option, value) :: st.settled }

/-- Settles the pending option. -/
def settle (st : State) : Except ArgumentFault State :=
  match st.pending with
  | none => .ok st
  | some (option, value) => { st with pending := none }.settleOption option value

/-- An option, with its value or without. -/
def option (st : State) (option : ValueOption) (value : Option String) :
    Except ArgumentFault State := do
  let st ← st.settle
  match value with
  | some value => st.settleOption option (some value)
  | none => return { st with pending := some (option, none) }

/-- A flag ends the run, unless the pending option is at fault. -/
def flag (st : State) (fault : ArgumentFault) : Except ArgumentFault State := do
  let _ ← st.settle
  throw fault

/-- A positional argument. Only one is known. -/
def positional (st : State) (argument : String) : Except ArgumentFault State :=
  match st.snapshot with
  | some _ => .error (.unknown argument)
  | none => do return { ← st.settle with snapshot := some argument }

/-- An argument behind two hyphens: a long name and perhaps a value. -/
def long (st : State) (argument : String) (body : List Char) : Except ArgumentFault State :=
  let name := body.takeWhile (· ≠ '=')
  let value := match body.dropWhile (· ≠ '=') with
    | '=' :: rest => some (String.ofList rest)
    | _ => none
  match ValueOption.ofName? name, flagOfName? name with
  | some option, _ => st.option option value
  | none, some fault =>
    if value.isSome then .error (.unexpectedValue (String.ofList name)) else st.flag fault
  | none, none => .error (.unknown argument)

/-- An argument behind one hyphen: a letter, and what follows it is the value. -/
def short (st : State) (argument : String) (letter : Char) (rest : List Char) :
    Except ArgumentFault State :=
  match ValueOption.ofLetter? letter, flagOfLetter? letter with
  | some option, _ =>
    let value := match rest with
      | [] => none
      | '=' :: value => some (String.ofList value)
      | value => some (String.ofList value)
    st.option option value
  | none, some fault => st.flag fault
  | none, none => .error (.unknown argument)

/-- The next argument. -/
def next (st : State) (argument : String) : Except ArgumentFault State :=
  if st.optionsOver then st.positional argument
  else
    match argument.toList with
    | ['-', '-'] => .ok { st with optionsOver := true }
    | '-' :: '-' :: body => st.long argument body
    | '-' :: letter :: rest => st.short argument letter rest
    | _ =>
      match st.pending with
      | some (option, none) => .ok { st with pending := some (option, some argument) }
      | _ => st.positional argument

end State

/-- Parses a command line, without the name of the program. -/
def parse (arguments : List String) : Except ArgumentFault Arguments := do
  let st ← arguments.foldlM State.next {}
  let st ← st.settle
  match st.snapshot with
  | none => throw .missingSnapshot
  | some snapshot =>
    return {
      snapshot
      output := st.settled.lookup .output
      backend := (st.settled.lookup .backend).bind Backend.ofName?
      config := st.settled.lookup .config
      logLevel := (st.settled.lookup .logLevel).getD "info" }

end CommandLine

end Choreography
