/-!
# The command line

The options that the program understands. Only the fallback catalog changes what the program does;
the options for logs and for the transport are there because editors pass them.
-/
set_option autoImplicit false
namespace FluxonAssist.CommandLine

structure Options where
  noColor : Bool := false
  logLevel : Option String := none
  noFileLogging : Bool := false
  /-- The built-in catalog, if it is not the one beside the program. -/
  fallbackCatalog : Option String := none
  stdio : Bool := false
  deriving DecidableEq, Repr

inductive Action where
  | serve (options : Options)
  | showHelp
  | showVersion
  deriving DecidableEq, Repr

inductive UsageError where
  | unexpected (argument : String)
  | missingValue (option : String)
  deriving DecidableEq, Repr

def UsageError.message : UsageError → String
  | .unexpected argument => "error: unexpected argument '" ++ argument ++ "' found"
  | .missingValue option =>
    "error: a value is required for '" ++ option ++ "' but none was supplied"

/-- The value of an option that is written with an equals sign. -/
def inlineValue? (option argument : String) : Option String :=
  if argument.startsWith (option ++ "=") then some (argument.drop (option.length + 1)).toString
  else none

def parseFrom (options : Options) : List String → Except UsageError Action
  | [] => .ok (.serve options)
  | "-h" :: _ => .ok .showHelp
  | "--help" :: _ => .ok .showHelp
  | "-V" :: _ => .ok .showVersion
  | "--version" :: _ => .ok .showVersion
  | "--no-color" :: rest => parseFrom { options with noColor := true } rest
  | "--no-file-logging" :: rest => parseFrom { options with noFileLogging := true } rest
  | "--stdio" :: rest => parseFrom { options with stdio := true } rest
  | ["--log-level"] => .error (.missingValue "--log-level <FILTER>")
  | "--log-level" :: value :: rest => parseFrom { options with logLevel := some value } rest
  | ["--fallback-catalog"] => .error (.missingValue "--fallback-catalog <FILE>")
  | "--fallback-catalog" :: value :: rest =>
    parseFrom { options with fallbackCatalog := some value } rest
  | argument :: rest =>
    match inlineValue? "--log-level" argument with
    | some value => parseFrom { options with logLevel := some value } rest
    | none =>
      match inlineValue? "--fallback-catalog" argument with
      | some value => parseFrom { options with fallbackCatalog := some value } rest
      | none => .error (.unexpected argument)

def parse (arguments : List String) : Except UsageError Action := parseFrom {} arguments

def help : String :=
  "Completion server for the Fluxon scripting language\n\n" ++
  "Usage: fluxon-language-server [OPTIONS]\n\n" ++
  "Options:\n" ++
  "      --no-color                 Disable ANSI colors in stderr logs\n" ++
  "      --log-level <FILTER>       Log filter for stderr\n" ++
  "      --no-file-logging          Do not write a session log to the user cache directory\n" ++
  "      --fallback-catalog <FILE>  Built-in catalog used when the configured one is empty or " ++
  "missing\n" ++
  "      --stdio                    Communicate over stdin/stdout\n" ++
  "  -h, --help                     Print help\n" ++
  "  -V, --version                  Print version\n"

end FluxonAssist.CommandLine
