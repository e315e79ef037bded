import HeaderLint.Invocation

set_option autoImplicit false

namespace HeaderLint

def UsageError.message : UsageError → String
  | unknownArgument => "unexpected argument"
  | invalidValue => "invalid or missing value for an argument"
  | tooManyValues => "unexpected value for an argument that takes none"
  | argumentConflict => "arguments that cannot be used together"
  | invalidSubcommand => "unrecognized subcommand"
  | missingSubcommand => "a subcommand is missing"
  | nothingGiven => "a subcommand is missing"
  | helpRequested => "Conventional commit header linter"
  | versionRequested => "Conventional commit header linter"

def usage : List String :=
  [ "Usage: cclint [OPTIONS] <COMMAND>",
    "",
    "Commands:",
    "  lint [MESSAGE]   Lint a commit message from an argument, a file, or stdin",
    "  check [TARGET]   Lint commit messages from git history",
    "  rules            List registered rules",
    "  init             Write an example configuration file",
    "  version          Print version information",
    "  help [COMMAND]   Print this message",
    "",
    "Options:",
    "      --strict             Treat failing warnings as errors",
    "  -d, --debug              Enable debug logging",
    "      --format <FORMAT>    Output format: text or json",
    "  -c, --config <CONFIG>    Path to configuration file [env: CCLINT_CONFIG]",
    "  -f, --file <FILE>        lint: read the message from a file",
    "  -v, --verbose            lint, check: show passing rules as well as failures",
    "  -f, --force              init: overwrite existing configuration",
    "      --path <PATH>        init: where to write the configuration",
    "  -h, --help               Print help",
    "  -V, --version            Print version" ]

end HeaderLint
