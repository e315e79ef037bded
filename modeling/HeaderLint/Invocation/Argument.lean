import HeaderLint.Invocation

set_option autoImplicit false

namespace HeaderLint

inductive Argument where
  | strict
  | debug
  | format
  | config
  | file
  | verbose
  | force
  | path
  | help
  | version
  deriving Repr, DecidableEq

namespace Argument

def longName : Argument → String
  | strict => "strict"
  | debug => "debug"
  | format => "format"
  | config => "config"
  | file => "file"
  | verbose => "verbose"
  | force => "force"
  | path => "path"
  | help => "help"
  | version => "version"

def shortName? : Argument → Option Char
  | debug => some 'd'
  | config => some 'c'
  | file => some 'f'
  | verbose => some 'v'
  | force => some 'f'
  | help => some 'h'
  | version => some 'V'
  | strict | format | path => none

def takesValue : Argument → Bool
  | format | config | file | path => true
  | _ => false

def accepts : Argument → String → Bool
  | format, value => value == "text" || value == "json"
  | _, value => !value.isEmpty

end Argument

inductive Verb where
  | lint
  | check
  | rules
  | init
  | version
  deriving Repr, DecidableEq

namespace Verb

def all : List Verb :=
  [lint, check, rules, init, version]

def name : Verb → String
  | lint => "lint"
  | check => "check"
  | rules => "rules"
  | init => "init"
  | version => "version"

def ofName? (word : String) : Option Verb :=
  all.find? (·.name == word)

def own : Verb → List Argument
  | lint => [.file, .verbose]
  | check => [.verbose]
  | init => [.force, .path]
  | rules | version => []

def takesWord : Verb → Bool
  | lint | check => true
  | rules | init | version => false

end Verb

def Argument.general : List Argument :=
  [strict, debug, format, config, help, version]

end HeaderLint
