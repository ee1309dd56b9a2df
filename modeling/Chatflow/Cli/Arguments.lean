/-!
# Command line arguments

Options with one or two dashes, in any order among the other arguments. A long option takes its
value after an equals sign or as the next argument, a short one also as the rest of its own
argument, and short options without values may stand together. After two dashes alone nothing is an
option.
-/

namespace Chatflow.Cli

/-- An option, with its names and whether a value follows. -/
structure OptionSpec where
  name : String
  long : String
  short : Option Char
  takesValue : Bool
deriving Repr, DecidableEq

/-- What the arguments say: each option as it was given, and all other arguments. -/
structure Arguments where
  options : List (String × Option String)
  others : List String
deriving Repr, DecidableEq

namespace Arguments

def none : Arguments := ⟨[], []⟩

def withOption (a : Arguments) (name : String) (value : Option String) : Arguments :=
  { a with options := a.options ++ [(name, value)] }

def withOther (a : Arguments) (other : String) : Arguments :=
  { a with others := a.others ++ [other] }

/-- Whether an option was given. -/
def has (a : Arguments) (name : String) : Bool := a.options.any (·.1 == name)

/-- All values of an option, in order. -/
def valuesOf (a : Arguments) (name : String) : List String :=
  (a.options.filter (·.1 == name)).filterMap (·.2)

/-- The value of an option; of several the last one counts. -/
def value? (a : Arguments) (name : String) : Option String := (a.valuesOf name).getLast?

end Arguments

/-- The option and the value of an argument that begins with two dashes. -/
def splitLong (arg : String) : String × Option String :=
  match arg.toList.span (· ≠ '=') with
  | (name, _ :: value) => (String.ofList name, some (String.ofList value))
  | (name, []) => (String.ofList name, none)

/-- The options in an argument of short options, and whether the last of them still needs a value.
An unknown option ends the reading. -/
def readShort (specs : List OptionSpec) :
    List Char → Option (List (String × Option String) × Option String)
  | [] => some ([], none)
  | c :: rest =>
    match specs.find? (·.short == some c) with
    | none => none
    | some spec =>
      if spec.takesValue then
        if rest.isEmpty then some ([], some spec.name)
        else some ([(spec.name, some (String.ofList rest))], none)
      else (readShort specs rest).map fun (options, open?) => ((spec.name, none) :: options, open?)

/-- Reads arguments; nothing if an option is unknown, lacks its value or has one too many. If other
arguments may not stand among the options, the first of them ends the options. -/
def readArguments (specs : List OptionSpec) (mixed : Bool) :
    Arguments → List String → Option Arguments
  | acc, [] => some acc
  | acc, arg :: rest =>
    if arg = "--" then some { acc with others := acc.others ++ rest }
    else if !(arg.startsWith "-" && 1 < arg.length) then
      if mixed then readArguments specs mixed (acc.withOther arg) rest
      else some { acc with others := acc.others ++ arg :: rest }
    else
      let (long, value) := splitLong arg
      match specs.find? (·.long == long), value with
      | some spec, some value =>
        if spec.takesValue then
          readArguments specs mixed (acc.withOption spec.name (some value)) rest
        else none
      | some spec, none =>
        if spec.takesValue then
          match rest with
          | value :: rest => readArguments specs mixed (acc.withOption spec.name (some value)) rest
          | [] => none
        else readArguments specs mixed (acc.withOption spec.name none) rest
      | none, _ =>
        if arg.startsWith "--" then none
        else
          match readShort specs (arg.toList.drop 1), rest with
          | none, _ => none
          | some (options, none), rest =>
            readArguments specs mixed { acc with options := acc.options ++ options } rest
          | some (options, some name), value :: rest =>
            readArguments specs mixed
              { acc with options := acc.options ++ options ++ [(name, some value)] } rest
          | some (_, some _), [] => none

end Chatflow.Cli
