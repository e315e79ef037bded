import HeaderLint.Invocation.Argument

set_option autoImplicit false

namespace HeaderLint

/-- The words of a command line before the command's name, or after it, as far as they are read. An
argument that takes its value from the next word is `pending` until the argument after it, or the
end of the level, settles it. -/
structure Level where
  verb : Option Verb
  given : List (Argument × String) := []
  word : Option String := none
  pending : Option (Argument × Option String) := none
  deriving Repr, DecidableEq

namespace Level

def arguments (level : Level) : List Argument :=
  Argument.general ++ (level.verb.map Verb.own).getD []

def takesWord (level : Level) : Bool :=
  level.verb.any (·.takesWord)

def has (level : Level) (argument : Argument) : Bool :=
  level.given.any (·.1 == argument)

def value? (level : Level) (argument : Argument) : Option String :=
  level.given.lookup argument

def awaitsValue (level : Level) : Bool :=
  level.pending.any (·.2.isNone)

def give (level : Level) (argument : Argument) (value : String) : Except UsageError Level :=
  if level.has argument then .error .argumentConflict
  else .ok { level with given := level.given ++ [(argument, value)] }

def giveValue (level : Level) (argument : Argument) (value : String) : Except UsageError Level := do
  let level ← level.give argument value
  if argument.accepts value then return level else throw .invalidValue

def settle (level : Level) : Except UsageError Level :=
  match level.pending with
  | none => .ok level
  | some (_, none) => .error .invalidValue
  | some (argument, some value) => { level with pending := none }.giveValue argument value

def giveFlag (level : Level) (argument : Argument) : Except UsageError Level := do
  let level ← level.settle
  match argument with
  | .help => throw .helpRequested
  | .version => throw .versionRequested
  | argument => level.give argument ""

def giveOption (level : Level) (argument : Argument) (attached : Option String) :
    Except UsageError Level := do
  let level ← level.settle
  match attached with
  | some value => level.giveValue argument value
  | none => return { level with pending := some (argument, none) }

def readLong (level : Level) (body : List Char) : Except UsageError Level :=
  let name := String.ofList (body.takeWhile (· != '='))
  let attached := match body.dropWhile (· != '=') with
    | [] => none
    | _ :: value => some (String.ofList value)
  match level.arguments.find? (·.longName == name) with
  | none => .error .unknownArgument
  | some argument =>
      if argument.takesValue then level.giveOption argument attached
      else if attached.isSome then .error .tooManyValues
      else level.giveFlag argument

-- Flags may be run together; the first argument that takes a value takes the rest of the word.
def readShort (level : Level) : List Char → Except UsageError Level
  | [] => .ok level
  | c :: rest =>
      match level.arguments.find? (·.shortName? == some c) with
      | none => .error .unknownArgument
      | some argument =>
          if argument.takesValue then
            level.giveOption argument <|
              match rest with
              | [] => none
              | '=' :: value => some (String.ofList value)
              | value => some (String.ofList value)
          else do readShort (← level.giveFlag argument) rest

def readWord (level : Level) (word : String) : Except UsageError Level := do
  if level.takesWord && level.word.isNone then
    let level ← level.settle
    return { level with word := some word }
  else if level.verb.isNone then throw .invalidSubcommand
  else throw .unknownArgument

def read (level : Level) (word : String) : Except UsageError Level :=
  match word.toList with
  | '-' :: '-' :: body => level.readLong body
  | '-' :: c :: rest => level.readShort (c :: rest)
  | _ =>
      match level.pending with
      | some (argument, none) => .ok { level with pending := some (argument, some word) }
      | _ => level.readWord word

-- After `--` each word stands for itself, and a command's name comes too late.
def readPlain (level : Level) (word : String) : Except UsageError Level :=
  if level.verb.isNone && (word == "help" || (Verb.ofName? word).isSome) then
    .error .unknownArgument
  else level.readWord word

def finish (level : Level) (configured : Option String) : Except UsageError Level := do
  let level ← level.settle
  match configured with
  | none => return level
  | some value =>
      if level.has .config || Argument.config.accepts value then return level
      else throw .invalidValue

end Level

end HeaderLint
