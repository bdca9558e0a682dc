/-!
# Arguments

Options and positional arguments of one level of a command line. An option is written with its name behind two dashes,
or with its letter behind one; letters may be put together. Its value follows behind `=`, directly behind the letter,
or as the next argument, which then must not look like an option.
-/

namespace ChangeImpact.CommandLine

/-- What an option takes. -/
inductive Takes where
  | nothing
  /-- Nothing, and it may be repeated. -/
  | repetition
  /-- A value that passes a check. -/
  | value (isValid : String → Bool)

structure OptionSpec where
  name : String
  letter : Option Char
  takes : Takes

/-- Why a command line is not carried out. -/
inductive Refusal where
  | help
  /-- The version is asked for, of a command or of the whole program. -/
  | version (command : Option String)
  | misuse
  deriving DecidableEq, Repr

/-- An option that was given, with its value or an empty text. -/
structure Given where
  name : String
  value : String
  deriving DecidableEq, Repr

/-- Options that every level knows. -/
def asking? (command : Option String) (name : String) (letter : Option Char) : Option Refusal :=
  if name == "help" || letter == some 'h' then some .help
  else if name == "version" || letter == some 'V' then some (.version command)
  else none

/-- The argument may be the value of an option. -/
def isValue (argument : String) : Bool :=
  match argument.toList with
  | '-' :: _ :: _ => false
  | _ => true

/-- The value of an option that takes one, and the arguments that are left. -/
def takeValue (option : OptionSpec) (isValid : String → Bool) (attached : Option String) (rest : List String) :
    Except Refusal (Given × List String) :=
  match attached, rest with
  | some value, rest => if isValid value then .ok (⟨option.name, value⟩, rest) else .error .misuse
  | none, value :: rest =>
    if isValue value && isValid value then .ok (⟨option.name, value⟩, rest) else .error .misuse
  | none, [] => .error .misuse

/-- An option by its name, with what stands behind `=`. -/
def takeLong (options : List OptionSpec) (command : Option String) (name : String) (attached : Option String)
    (rest : List String) : Except Refusal (Given × List String) :=
  match asking? command name none with
  | some refusal => .error (if attached.isSome then .misuse else refusal)
  | none =>
    match options.find? (·.name == name) with
    | none => .error .misuse
    | some option =>
      match option.takes with
      | .value isValid => takeValue option isValid attached rest
      | .nothing | .repetition => if attached.isSome then .error .misuse else .ok (⟨name, ""⟩, rest)

/-- Options by their letters. -/
def takeShort (options : List OptionSpec) (command : Option String) (rest : List String) :
    List Char → Except Refusal (List Given × List String)
  | [] => .ok ([], rest)
  | letter :: letters =>
    match asking? command "" (some letter) with
    | some refusal => .error refusal
    | none =>
      match options.find? (·.letter == some letter) with
      | none => .error .misuse
      | some option =>
        match option.takes with
        | .value isValid => do
          let attached :=
            match letters with
            | [] => none
            | '=' :: value => some (String.ofList value)
            | value => some (String.ofList value)
          let (given, rest) ← takeValue option isValid attached rest
          return ([given], rest)
        | .nothing | .repetition => do
          let (givens, rest) ← takeShort options command rest letters
          return (⟨option.name, ""⟩ :: givens, rest)

/-- What the next argument is. -/
inductive Argument where
  | options (given : List Given) (rest : List String)
  | positional (value : String)
  /-- All arguments that follow are positional. -/
  | escape

def readArgument (options : List OptionSpec) (command : Option String) (argument : String) (rest : List String) :
    Except Refusal Argument :=
  match argument.toList with
  | ['-', '-'] => .ok .escape
  | '-' :: '-' :: long => do
    let name := String.ofList (long.takeWhile (· != '='))
    let attached :=
      match long.dropWhile (· != '=') with
      | _ :: value => some (String.ofList value)
      | [] => none
    let (given, rest) ← takeLong options command name attached rest
    return .options [given] rest
  | '-' :: letter :: letters => do
    let (given, rest) ← takeShort options command rest (letter :: letters)
    return .options given rest
  | _ => .ok (.positional argument)

/-- No option is given twice, unless it may be repeated. -/
def givenOnce (options : List OptionSpec) (given : List Given) : Bool :=
  options.all fun option =>
    match option.takes with
    | .repetition => true
    | _ => given.countP (·.name == option.name) ≤ 1

/-- The options and the positional arguments of a level, each refused as soon as it is read. `accepts` says which
positional arguments the level may have; reading takes at most as many steps as there are arguments. -/
def readLevel (options : List OptionSpec) (command : Option String) (accepts : List String → Bool) (given : List Given)
    (values : List String) : Nat → List String → Except Refusal (List Given × List String)
  | _, [] => .ok (given, values)
  | 0, _ => .error .misuse
  | fuel + 1, argument :: rest => do
    match ← readArgument options command argument rest with
    | .escape => if accepts (values ++ rest) then return (given, values ++ rest) else .error .misuse
    | .positional value =>
      if accepts (values ++ [value]) then readLevel options command accepts given (values ++ [value]) fuel rest
      else .error .misuse
    | .options more rest =>
      if givenOnce options (given ++ more) then readLevel options command accepts (given ++ more) values fuel rest
      else .error .misuse

/-- The options before the first positional argument, that argument, and all that follows it. -/
def readUntilPositional (options : List OptionSpec) (given : List Given) :
    Nat → List String → Except Refusal (List Given × String × List String)
  | _, [] => .error .misuse
  | 0, _ => .error .misuse
  | fuel + 1, argument :: rest => do
    match ← readArgument options none argument rest with
    | .escape => .error .misuse
    | .positional value => return (given, value, rest)
    | .options more rest =>
      if givenOnce options (given ++ more) then readUntilPositional options (given ++ more) fuel rest
      else .error .misuse

/-- The value of an option, if it is given. -/
def valueOf? (given : List Given) (name : String) : Option String :=
  (given.find? (·.name == name)).map Given.value

def isGiven (given : List Given) (name : String) : Bool :=
  given.any (·.name == name)

end ChangeImpact.CommandLine
