import Rematch.Options

/-!
# Command-line arguments

What a run is told, and the library that reads it from the arguments. Of the library it is only known
what it documents. One that follows the usual conventions is written out: options stand after two hyphens
with a name, or after one hyphen with a letter, several letters together if they like, and a value is
attached or comes as the next argument. It accepts no option twice, and nothing but options.
-/

namespace Rematch
namespace CommandLine

structure Arguments where
  pattern : List Char
  ignoreCase : Bool := false
  multiline : Bool := false
  singleline : Bool := false
  culture : Bool := false
  replacement : Option (List Char) := none
  split : Bool := false
deriving DecidableEq, Repr

def Arguments.options (arguments : Arguments) : Options where
  ignoreCase := arguments.ignoreCase
  multiline := arguments.multiline
  singleline := arguments.singleline
  cultureSensitive := arguments.culture

/--
A library that reads the arguments of the command, or refuses them. The replacement is declared to
conflict with splitting, and the library documents that it refuses options that conflict.
-/
structure ArgumentParser where
  parse : List String → Option Arguments
  conflicts {args : List String} {arguments : Arguments} : parse args = some arguments →
    arguments.split = true → arguments.replacement = none

/-! ## The usual conventions -/

inductive Switch where
  | ignoreCase
  | multiline
  | singleline
  | culture
  | split
deriving DecidableEq, Repr

inductive Setting where
  | pattern
  | replacement
deriving DecidableEq, Repr

structure Given where
  switches : List Switch := []
  settings : List (Setting × List Char) := []
deriving DecidableEq, Repr

namespace Given

def turnOn (given : Given) (switch : Switch) : Option Given :=
  if switch ∈ given.switches then none
  else some { given with switches := switch :: given.switches }

def set (given : Given) (setting : Setting) (value : List Char) : Option Given :=
  if given.settings.any (·.1 = setting) then none
  else some { given with settings := (setting, value) :: given.settings }

def value? (given : Given) (setting : Setting) : Option (List Char) :=
  (given.settings.find? (·.1 = setting)).map (·.2)

def toArguments? (given : Given) : Option Arguments :=
  match given.value? .pattern with
  | none => none
  | some pattern =>
      let replacement := given.value? .replacement
      let split := given.switches.contains .split
      if split && replacement.isSome then none
      else
        some
          { pattern
            ignoreCase := given.switches.contains .ignoreCase
            multiline := given.switches.contains .multiline
            singleline := given.switches.contains .singleline
            culture := given.switches.contains .culture
            replacement
            split }

end Given

def letterSwitch? : Char → Option Switch
  | 'i' => some .ignoreCase
  | 'm' => some .multiline
  | 's' => some .singleline
  | _ => none

def namedSwitch? (name : List Char) : Option Switch :=
  if name = "ignore-case".toList then some .ignoreCase
  else if name = "multiline".toList then some .multiline
  else if name = "singleline".toList then some .singleline
  else if name = "culture".toList then some .culture
  else if name = "split".toList then some .split
  else none

def namedSetting? (name : List Char) : Option Setting :=
  if name = "regexp".toList then some .pattern
  else if name = "replace".toList then some .replacement
  else none

/--
Options written as letters after one hyphen. The letter of a setting takes the rest as its value, less
an equals sign in front; if nothing is left for it, the setting awaits the next argument.
-/
def readLetters (given : Given) : List Char → Option (Given × Option Setting)
  | [] => some (given, none)
  | ['E'] => some (given, some .pattern)
  | 'E' :: '=' :: value => (given.set .pattern value).map fun given => (given, none)
  | 'E' :: value => (given.set .pattern value).map fun given => (given, none)
  | letter :: rest =>
      match letterSwitch? letter with
      | none => none
      | some switch =>
          match given.turnOn switch with
          | none => none
          | some given => readLetters given rest

/-- An option written as a name after two hyphens, a value after an equals sign if there is one. -/
def readName (given : Given) (text : List Char) : Option (Given × Option Setting) :=
  let name := text.takeWhile (· ≠ '=')
  match namedSetting? name, text.dropWhile (· ≠ '=') with
  | some setting, [] => some (given, some setting)
  | some setting, _ :: value => (given.set setting value).map fun given => (given, none)
  | none, [] =>
      (namedSwitch? name).bind fun switch =>
        (given.turnOn switch).map fun given => (given, none)
  | none, _ :: _ => none

/--
Reads arguments, given the setting that awaits its value. A value may not begin with a hyphen, unless
it is a hyphen; two hyphens end the options, and nothing may follow them.
-/
def readFrom (given : Given) : (awaiting : Option Setting) → List (List Char) → Option Given
  | none, [] => some given
  | some _, [] => none
  | none, ['-', '-'] :: rest => if rest.isEmpty then some given else none
  | none, ('-' :: '-' :: text) :: rest =>
      match readName given text with
      | none => none
      | some (given, awaiting) => readFrom given awaiting rest
  | none, ('-' :: letter :: letters) :: rest =>
      match readLetters given (letter :: letters) with
      | none => none
      | some (given, awaiting) => readFrom given awaiting rest
  | none, _ :: _ => none
  | some _, ('-' :: _ :: _) :: _ => none
  | some setting, value :: rest =>
      match given.set setting value with
      | none => none
      | some given => readFrom given none rest

def read (arguments : List String) : Option Arguments :=
  (readFrom {} none (arguments.map String.toList)).bind Given.toArguments?

theorem replacement_eq_none_of_toArguments? {given : Given} {arguments : Arguments}
    (complete : given.toArguments? = some arguments) (split : arguments.split = true) :
    arguments.replacement = none := by
  unfold Given.toArguments? at complete
  split at complete
  · contradiction
  · extract_lets replacement asked at complete
    split at complete
    · contradiction
    · rename_i together
      cases complete
      have asked : asked = true := split
      rw [asked, Bool.true_and] at together
      exact Option.not_isSome_iff_eq_none.mp together

def ArgumentParser.conventional : ArgumentParser where
  parse := read
  conflicts accepted split := by
    obtain ⟨given, _, complete⟩ := Option.bind_eq_some_iff.mp accepted
    exact replacement_eq_none_of_toArguments? complete split

end CommandLine
end Rematch
