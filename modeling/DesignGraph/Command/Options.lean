/-!
# Options of a command

The words of a command line after the name of the command are options: a flag, or an
option with a value, which stands in the next word or after an equals sign in the same
one. Names are never abbreviated. A value of its own cannot begin with a hyphen, unless
it is the hyphen alone. A pair of hyphens ends the options, and nothing may follow it.
-/

namespace DesignGraph.Command

/-- How an option is given. -/
inductive Shape where
  | flag
  | value
  deriving DecidableEq, Repr

abbrev Known := List (String × Shape)

/-- Options as they were given, in order; a flag has an empty value. -/
abbrev Given := List (String × String)

/-- The option that makes the log speak, which every command knows and which may be
repeated. -/
def verbose : String := "verbose"

/-- The word is one of the short spellings of that option: a hyphen and letters v. -/
def isShortVerbose (word : List Char) : Bool :=
  match word with
  | '-' :: 'v' :: rest => rest.all (· == 'v')
  | _ => false

/-- The name of an option and the value after its equals sign. -/
def splitOption (text : List Char) : String × Option String :=
  let name := text.takeWhile (· ≠ '=')
  (String.ofList name,
    match text.drop name.length with
    | _ :: value => some (String.ofList value)
    | [] => none)

def canBeValue (word : String) : Bool := !word.startsWith "-" || word == "-"

/-- The options that the words spell; none when they do not. -/
def readOptions (known : Known) : List String → Option Given
  | [] => some []
  | word :: rest =>
    match word.toList with
    | ['-', '-'] => if rest.isEmpty then some [] else none
    | '-' :: '-' :: text =>
      let (name, value) := splitOption text
      match known.lookup name, value with
      | some .flag, none => (readOptions known rest).map ((name, "") :: ·)
      | some .value, some value => (readOptions known rest).map ((name, value) :: ·)
      | some .value, none =>
        match rest with
        | value :: rest =>
          if canBeValue value then (readOptions known rest).map ((name, value) :: ·) else none
        | [] => none
      | _, _ => none
    | text => if isShortVerbose text then readOptions known rest else none

/-- An option that may be repeated is given as often as one likes, any other one once. -/
def repeatsOnly (repeatable : List String) (given : Given) : Bool :=
  given.all fun (name, _) =>
    repeatable.contains name || given.countP (fun other => other.1 == name) == 1

def optional (given : Given) (name : String) : Option String := given.lookup name

/-- The values of an option that may be repeated, in order. -/
def repeated (given : Given) (name : String) : List String :=
  (given.filter fun entry => entry.1 == name).map Prod.snd

def flagged (given : Given) (name : String) : Bool := (given.lookup name).isSome

def path? (text : String) : Option String := if text = "" then none else some text

/-- An optional path: the option's, or else the one of a setting in the environment. A
path that is given and empty is none at all. -/
def pathOption (given : Given) (environment : List (String × String)) (name setting : String) :
    Option (Option String) :=
  match (given.lookup name).or (environment.lookup setting) with
  | some text => (path? text).map some
  | none => some none

end DesignGraph.Command
