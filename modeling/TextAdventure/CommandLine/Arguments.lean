/-!
# Command-line arguments

The program takes at most one world file, an option for an alias file, and flags. Arguments are
looked at from left to right, and the first one that asks for help or the version, or is wrong,
decides.
-/

namespace TextAdventure.CommandLine

/-- What to play and how much to log. -/
structure Options where
  world : Option String
  aliases : Option String
  verbosity : Nat
  deriving DecidableEq, Repr

/-- No arguments at all. -/
def Options.empty : Options :=
  ⟨none, none, 0⟩

/-- What the arguments ask for. -/
inductive Request
  | play (options : Options)
  | help
  | version
  /-- The arguments are wrong. -/
  | misuse
  deriving DecidableEq, Repr

namespace Options

/-- Looks like an option and not like a value. A single dash is a value. -/
def isOption (arg : String) : Bool :=
  match arg.toList with
  | '-' :: _ :: _ => true
  | _ => false

/-- Names the world file. There is at most one, and its name is not empty. -/
def withWorld? (o : Options) (file : String) : Option Options :=
  if o.world.isSome || file.isEmpty then none else some { o with world := some file }

/-- Names the alias file. There is at most one, and its name is not empty. -/
def withAliases? (o : Options) (file : String) : Option Options :=
  if o.aliases.isSome || file.isEmpty then none else some { o with aliases := some file }

def moreVerbose (o : Options) : Options :=
  { o with verbosity := o.verbosity + 1 }

/-- The options after a cluster of one-letter flags, or the request that one of them decides. -/
def flags (o : Options) : List Char → Except Request Options
  | [] => .ok o
  | 'v' :: cs => o.moreVerbose.flags cs
  | 'h' :: _ => .error .help
  | 'V' :: _ => .error .version
  | _ => .error .misuse

/-- The request of arguments none of which is an option. -/
def values (o : Options) : List String → Request
  | [] => .play o
  | arg :: args =>
    match o.withWorld? arg with
    | none => .misuse
    | some o => o.values args

/-- The name of a long option with its value, if it has one. -/
def long (arg : String) : String × Option String :=
  let cs := arg.toList.drop 2
  match cs.dropWhile (· ≠ '=') with
  | [] => (String.ofList cs, none)
  | _ :: value => (String.ofList (cs.takeWhile (· ≠ '=')), some (String.ofList value))

/-- The request of arguments that come after those with these options. -/
def request (o : Options) : List String → Request
  | [] => .play o
  | arg :: args =>
    if arg = "--" then o.values args
    else if arg.startsWith "--" then
      match long arg, args with
      | ("aliases", some file), args =>
        match o.withAliases? file with
        | none => .misuse
        | some o => o.request args
      | ("aliases", none), file :: args =>
        if isOption file then .misuse
        else
          match o.withAliases? file with
          | none => .misuse
          | some o => o.request args
      | ("verbose", none), args => o.moreVerbose.request args
      | ("help", none), _ => .help
      | ("version", none), _ => .version
      | _, _ => .misuse
    else if isOption arg then
      match o.flags (arg.toList.drop 1) with
      | .error request => request
      | .ok o => o.request args
    else
      match o.withWorld? arg with
      | none => .misuse
      | some o => o.request args

end Options

/-- What to play and how much to log. A request that plays nothing names no files. -/
def Request.options : Request → Options
  | play o => o
  | _ => .empty

/-- What the arguments ask for. -/
def Request.ofArgs (args : List String) : Request :=
  Options.empty.request args

/-- The text that explains the arguments. -/
def helpText : String :=
  "\n".intercalate
    ["Play a text adventure", "",
      "Usage: adventure [OPTIONS] [WORLD]", "",
      "Arguments:",
      "  [WORLD]  World description to load; the bundled sample world when omitted", "",
      "Options:",
      "      --aliases <FILE>  TOML file replacing the standard alias table",
      "  -v, --verbose...      Log more detail on stderr (-v for info, -vv for debug)",
      "  -h, --help            Print help",
      "  -V, --version         Print version", ""]

def versionText : String :=
  "adventure 0.1.0\n"

end TextAdventure.CommandLine
