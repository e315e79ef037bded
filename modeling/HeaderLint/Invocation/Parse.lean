import HeaderLint.Invocation.Level

set_option autoImplicit false

namespace HeaderLint

namespace Verb

def command (verb : Verb) (level : Level) : Command :=
  match verb with
  | lint => .lint level.word (level.value? .file) (level.has .verbose)
  | check => .check (level.word.getD "HEAD") (level.has .verbose)
  | rules => .rules
  | init => .init (level.has .force) ((level.value? .path).getD "cclint.toml")
  | version => .version

def conflicts (verb : Verb) (level : Level) : Bool :=
  verb == lint && level.word.isSome && level.has .file

end Verb

namespace Invocation

def outputFormat (name : String) : OutputFormat :=
  if name == "json" then .json else .text

def readPlainly (level : Level) : List String → Except UsageError Level
  | [] => .ok level
  | word :: rest => do readPlainly (← level.readPlain word) rest

def readInner (level : Level) : List String → Except UsageError Level
  | [] => .ok level
  | "--" :: rest => readPlainly level rest
  | word :: rest => do readInner (← level.read word) rest

def readOuter (level : Level) :
    List String → Except UsageError (Level × Option (Verb × List String))
  | [] => .ok (level, none)
  | word :: rest =>
      match level.awaitsValue, word, Verb.ofName? word with
      | false, "help", _ => .error (helpOn rest)
      | false, _, some verb => .ok (level, some (verb, rest))
      | _, "--", _ => do return (← readPlainly level rest, none)
      | _, word, _ => do readOuter (← level.read word) rest
where
  helpOn : List String → UsageError
    | [] => .helpRequested
    | [word] =>
        if word == "help" || (Verb.ofName? word).isSome then .helpRequested
        else .invalidSubcommand
    | _ => .invalidSubcommand

-- Reads a command line. What stands after the command's name counts before what stands in front of
-- it, and either before the environment, whose `configured` names a configuration.
def parse (words : List String) (configured : Option String) :
    Except UsageError Invocation := do
  let (outer, named) ← readOuter { verb := none } words
  match named with
  | none =>
      let outer ← outer.finish configured
      if outer.given.isEmpty && configured.isNone then throw .nothingGiven
      else throw .missingSubcommand
  | some (verb, rest) =>
      let inner ← readInner { verb := some verb } rest
      let inner ← inner.finish configured
      if verb.conflicts inner then throw .argumentConflict
      let outer ← outer.finish configured
      return {
        command := verb.command inner
        strict := inner.has .strict || outer.has .strict
        debug := inner.has .debug || outer.has .debug
        format := ((inner.value? .format).or (outer.value? .format)).map outputFormat
        config := ((inner.value? .config).or (outer.value? .config)).or configured }

end Invocation

end HeaderLint
