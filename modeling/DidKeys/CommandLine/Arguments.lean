import DidKeys.CommandLine.Place

/-! # Reading a command line

Arguments are read from left to right, walking down the tree of commands.

* `--name=value` and `--name value` give an option its value; a value of its own must not begin with
  a dash, unless it is one.  An option is given at most once at each place.
* Behind `--` everything is a text without a name.
* A value is looked at when the next option begins, or at the end; a place above a command looks at
  its last value only after the command has been read.
* Asking for help or for the version ends the reading, whatever follows.
* Variables of the environment stand in for options that are not given. -/

namespace DidKeys.CommandLine

/-- The variables that stand in for options.  `RUST_LOG` is left out: it only says what is
logged. -/
structure Environment where
  mnemonic : Option String
  passphrase : Option String
  backend : Option String
  deriving DecidableEq, Repr

/-- Why reading ends without a command. -/
inductive Stop where
  /-- The arguments are not used as they should be. -/
  | usage
  /-- Help is asked for. -/
  | help (place : Place)
  /-- The version is asked for. -/
  | version (place : Place)
  deriving DecidableEq, Repr

/-! ### What a place was given -/

/-- What a place was given so far. -/
structure Given where
  /-- The options whose values were looked at. -/
  values : List (Named × String)
  /-- The text without a name. -/
  text : Option String
  /-- The option that waits to be looked at, with its value if it has one. -/
  pending : Option (Named × Option String)
  /-- Whether everything that follows is a text without a name. -/
  textsOnly : Bool
  deriving DecidableEq, Repr

namespace Given

/-- Nothing was given. -/
def nothing : Given := ⟨[], none, none, false⟩

/-- The value of an option. -/
def value? (given : Given) (name : String) : Option String :=
  (given.values.find? fun entry => entry.1.name == name).map Prod.snd

/-- Whether an option was given. -/
def has (given : Given) (name : String) : Bool := (given.value? name).isSome

/-- Adds an option that nobody looks at, unless it is there. -/
def insert (given : Given) (option : Named) (value : String) : Except Stop Given :=
  if given.has option.name then .error .usage
  else .ok { given with values := given.values ++ [(option, value)] }

/-- Adds an option with its value, if that is one. -/
def add (given : Given) (option : Named) (value : String) : Except Stop Given :=
  if option.form.accepts value then given.insert option value else .error .usage

/-- Looks at the option that waits. -/
def settle (given : Given) : Except Stop Given :=
  match given.pending with
  | none => .ok given
  | some (_, none) => .error .usage
  | some (option, some value) => Given.add { given with pending := none } option value

/-- Adds the text without a name. -/
def addText (given : Given) (place : Place) (text : String) : Except Stop Given := do
  let given ← given.settle
  if place.takesText && given.text.isNone then return { given with text := some text }
  else throw .usage

/-- What was given at the end: the option that waits is looked at, and the variable that stands in
for the backend. -/
def finish (given : Given) (env : Environment) : Except Stop Given := do
  let given ← given.settle
  match env.backend with
  | some name =>
    if given.has "backend" || Form.backend.accepts name then return given else throw .usage
  | none => return given

end Given

/-! ### Arguments -/

/-- The kinds of arguments. -/
inductive Argument where
  /-- Two dashes. -/
  | stop
  /-- An option by its name, with what stands behind an equals sign. -/
  | long (name : String) (attached : Option String)
  /-- Letters behind a dash. -/
  | short (letters : List Char)
  /-- Anything else. -/
  | plain
  deriving DecidableEq, Repr

/-- The kind of an argument. -/
def Argument.ofChars : List Char → Argument
  | ['-', '-'] => .stop
  | '-' :: '-' :: cs =>
    match Text.splitFirst? '=' cs with
    | some (name, value) => .long (String.ofList name) (some (String.ofList value))
    | none => .long (String.ofList cs) none
  | ['-'] => .plain
  | '-' :: letters => .short letters
  | _ => .plain

/-- Begins an option at a place. -/
def beginOption (place : Place) (given : Given) (name : String) (attached : Option String) :
    Except Stop Given :=
  match place.option? name, attached with
  | none, _ => .error .usage
  | some option, some value => do (← given.settle).add option value
  | some option, none => do
    let given ← given.settle
    if option.form = .flag then given.insert option ""
    else return { given with pending := some (option, none) }

/-- Reads an argument that begins with a dash, where no value is waited for. -/
def readDashed (place : Place) (given : Given) : Argument → Except Stop Given
  | .stop => .ok { given with textsOnly := true }
  | .long "help" none => do let _ ← given.settle; throw (.help place)
  | .long "version" none => do let _ ← given.settle; throw (.version place)
  | .long name attached => beginOption place given name attached
  | .short ('h' :: _) => do let _ ← given.settle; throw (.help place)
  | .short ('V' :: _) => do let _ ← given.settle; throw (.version place)
  | .short _ | .plain => .error .usage

/-- Reads an argument that does not lead to another place. -/
def readHere (place : Place) (given : Given) (arg : String) : Except Stop Given :=
  if given.textsOnly then given.addText place arg
  else
    match given.pending, Argument.ofChars arg.toList with
    | some (option, none), .plain => .ok { given with pending := some (option, some arg) }
    | some (_, none), _ => .error .usage
    | _, .plain => given.addText place arg
    | _, argument => readDashed place given argument

/-- Where `help` and the names behind it lead. -/
def helpPlace? (place : Place) : List String → Option Place
  | [] => some place
  | name :: names => do helpPlace? (← place.child? name) names

/-- Whether an argument may lead to another place. -/
def mayDescend (given : Given) : Bool :=
  !given.textsOnly && !(given.pending.any fun entry => entry.2.isNone)

/-- Reads arguments from a place on: the place where they end, and what it was given. -/
def walk (env : Environment) (place : Place) (given : Given) :
    List String → Except Stop (Place × Given)
  | [] => do return (place, ← given.finish env)
  | arg :: args =>
    match if mayDescend given then place.child? arg else none with
    | some child => do
      let result ← walk env child .nothing args
      let _ ← given.finish env
      return result
    | none =>
      if mayDescend given && !place.children.isEmpty && arg == "help" then
        match helpPlace? place args with
        | some place => .error (.help place)
        | none => .error .usage
      else do walk env place (← readHere place given arg) args

/-! ### Requests -/

/-- From where a seed comes. -/
structure SeedSource where
  mnemonic : String
  passphrase : String
  deriving DecidableEq, Repr

/-- What the program is asked to do. -/
inductive Command where
  | newMnemonic (words : Nat)
  | checkMnemonic (phrase : String)
  | derive (seed : SeedSource) (path : String) (showPrivate : Bool)
  | createDid (seed : SeedSource) (didIndex : Nat)
  | inspectDid (did : String)
  | sign (seed : SeedSource) (path message : String)
  | verify (publicKey message signature : String)
  | version
  deriving DecidableEq, Repr

/-- A value that has to be there. -/
def require {α : Type} : Option α → Except Stop α
  | some a => .ok a
  | none => .error .usage

/-- The seed that a place was given, or that the environment has. -/
def seedSource (env : Environment) (given : Given) : Except Stop SeedSource := do
  let mnemonic ← require ((given.value? "mnemonic").or env.mnemonic)
  return ⟨mnemonic, ((given.value? "passphrase").or env.passphrase).getD ""⟩

/-- The words of a new mnemonic, unless another number is given. -/
def defaultWords : Nat := 12

/-- The path of the key that signs, unless another one is given. -/
def defaultPath : String := "m/0'/0'/0'"

/-- The command at a place, from what it was given. -/
def commandAt (env : Environment) (given : Given) : Place → Except Stop Command
  | .program | .mnemonic | .did => .error .usage
  | .newMnemonic => .ok (.newMnemonic (((given.value? "words").bind count?).getD defaultWords))
  | .checkMnemonic => do return .checkMnemonic (← require given.text)
  | .derive => do
    return .derive (← seedSource env given) (← require (given.value? "path"))
      (given.has "show-private")
  | .createDid => do
    return .createDid (← seedSource env given) (((given.value? "did-index").bind index?).getD 0)
  | .inspectDid => do return .inspectDid (← require given.text)
  | .sign => do
    return .sign (← seedSource env given) ((given.value? "path").getD defaultPath)
      (← require (given.value? "message"))
  | .verify => do
    return .verify (← require (given.value? "public-key")) (← require (given.value? "message"))
      (← require (given.value? "signature"))
  | .version => .ok .version

/-- The command that arguments ask for. -/
def parse (env : Environment) (args : List String) : Except Stop Command := do
  let (place, given) ← walk env .program .nothing args
  commandAt env given place

end DidKeys.CommandLine
