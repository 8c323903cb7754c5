/-
The commands of the program and their arguments.
-/
import Fleetkeeper.CommandLine.Arguments
import Fleetkeeper.Text.Digit
import Fleetkeeper.Upgrade.Plan

namespace Fleetkeeper.CommandLine

/-- What to watch: a node, bound to an address. -/
structure WatchOptions where
  name : String
  address : String
  cluster : Option String := none
  /-- Seconds of its lease. -/
  ttl : Nat := 30
deriving DecidableEq, Repr

/-- What to upgrade, and to what. -/
structure UpgradeOptions where
  address : String
  node : String := "local"
  /-- The pattern of the images. -/
  image : String
  tag : String
  /-- What the settings say counts where this is unset. -/
  rollback : Option Bool := none
  /-- What the settings say counts where this is unset. -/
  scope : Option RollbackScope := none
deriving DecidableEq, Repr

/-- A command. -/
inductive Command where
  | watch (options : WatchOptions)
  | upgrade (options : UpgradeOptions)
  | showConfig
deriving DecidableEq, Repr

/-- A command with what holds for all commands. -/
structure Invocation where
  /-- Whether debug lines are logged. -/
  debug : Bool := false
  /-- The path of the settings, if it is not the usual one. -/
  config : Option String := none
  command : Command
deriving DecidableEq, Repr

/-- Where help is asked for. -/
inductive Topic where
  | program | watch | upgrade | config
deriving DecidableEq, Repr

/-- What a command line asks for. -/
inductive Request where
  | invoke (i : Invocation)
  | help (topic : Topic)
  | version
  /-- Nothing that can be done. -/
  | refused (reason : String)
deriving DecidableEq, Repr

-- =================================================================== values

/-- The number of 32 bits that a text writes; a plus sign may precede it. -/
def ttl? (text : String) : Option Nat :=
  let digits := match text.toList with
    | '+' :: r => r
    | r => r
  (Text.number? 10 digits).filter (· ≤ 4294967295)

/-- A truth value. -/
def flag? : String → Option Bool
  | "true" => some true
  | "false" => some false
  | _ => none

/-- A scope by its word. -/
def scope? (text : String) : Option RollbackScope :=
  RollbackScope.words.lookup text

-- ==================================================================== forms

/-- Any text will do. -/
def anyText : Option (String → Bool) := some fun _ => true

/-- The flags of all commands. -/
def commonFlags : List Flag :=
  [{ long := "debug", short := some 'd' },
   { long := "config", short := some 'c', accepts := some (· ≠ "") }]

/-- What may stand in front of a command. -/
def programForm : Form :=
  { flags := commonFlags, words := none, versioned := true }

def watchForm : Form where
  flags := commonFlags ++
    [{ long := "address", short := some 'a', accepts := anyText },
     { long := "cluster", accepts := anyText },
     { long := "ttl", accepts := some fun v => (ttl? v).isSome }]
  words := some 1

def upgradeForm : Form where
  flags := commonFlags ++
    [{ long := "address", short := some 'a', accepts := anyText },
     { long := "node", accepts := anyText },
     { long := "image", short := some 'i', accepts := anyText },
     { long := "tag", short := some 't', accepts := anyText },
     { long := "rollback", accepts := some fun v => (flag? v).isSome },
     { long := "scope", accepts := some fun v => (scope? v).isSome }]
  words := some 0

def configForm : Form := { flags := commonFlags, words := some 0 }

/-- The form of a command. -/
def Topic.form : Topic → Form
  | program => programForm
  | watch => watchForm
  | upgrade => upgradeForm
  | config => configForm

/-- The commands by their names. -/
def topics : List (String × Topic) :=
  [("watch", .watch), ("upgrade", .upgrade), ("config", .config)]

-- ================================================================= requests

/-- What is given to a command, as the command; nothing where something is
missing. -/
def Topic.command? (g : Given) : Topic → Option Command
  | program => none
  | watch => do
    let name ← g.wordList.head?
    let address ← g.value? "address"
    let ttl := ((g.value? "ttl").bind ttl?).getD 30
    pure (.watch { name, address, cluster := g.value? "cluster", ttl })
  | upgrade => do
    let address ← g.value? "address"
    let image ← g.value? "image"
    let tag ← g.value? "tag"
    pure (.upgrade
      { address, image, tag, node := (g.value? "node").getD "local",
        rollback := (g.value? "rollback").bind flag?,
        scope := (g.value? "scope").bind scope? })
  | config => some .showConfig

/-- A request that was interrupted. -/
def Request.ofInterruption (topic : Topic) : Interruption → Request
  | .refused reason => .refused reason
  | .help => .help topic
  | .version => .version

/-- The request for a command, after what stood in front of it. What holds
for all commands may be given on either side of the name; behind it it
counts more. -/
def Request.ofCommand (front : Given) (topic : Topic) (args : List String) :
    Request :=
  match topic.form.read none false {} args with
  | .error e => .ofInterruption topic e
  | .ok (g, _) =>
    match topic.command? g with
    | none => .refused "required arguments were not provided"
    | some command =>
      .invoke
        { debug :=
            front.switches.contains "debug" || g.switches.contains "debug",
          config := (g.value? "config").or (front.value? "config"), command }

/-- What a command line asks for. -/
def Request.ofArguments (args : List String) : Request :=
  match programForm.read none false {} args with
  | .error e => .ofInterruption .program e
  | .ok (_, none) => .refused "a command is required"
  | .ok (front, some (name, rest)) =>
    match topics.lookup name with
    | some topic => .ofCommand front topic rest
    | none =>
      if name ≠ "help" then .refused ("unrecognized command " ++ name.quote)
      else
        match rest with
        | [] => .help .program
        | [name] =>
          match topics.lookup name with
          | some topic => .help topic
          | none => .refused ("unrecognized command " ++ name.quote)
        | _ => .refused "help is about one command"

-- ==================================================================== texts

/-- The program and its version. -/
def versionText : String := "cluman 0.1.0\n"

/-- Lines of help. -/
def helpLines : Topic → List String
  | .program =>
    ["Tracks Docker nodes and rolls container upgrades across them",
     "",
     "Usage: cluman [OPTIONS] <COMMAND>",
     "",
     "Commands:",
     "  watch    Register a node and follow its Docker events and health",
     "  upgrade  Upgrade the image tag of matching containers, one at a time",
     "  config   Print the effective configuration",
     "  help     Print this message or the help of the given subcommand(s)",
     "",
     "Options:",
     "  -d, --debug            Enable debug logging",
     "  -c, --config <CONFIG>  Configuration file",
     "  -h, --help             Print help",
     "  -V, --version          Print version"]
  | .watch =>
    ["Register a node and follow its Docker events and health",
     "",
     "Usage: cluman watch [OPTIONS] --address <ADDRESS> <NAME>",
     "",
     "Arguments:",
     "  <NAME>  Node name",
     "",
     "Options:",
     "  -a, --address <ADDRESS>  Docker endpoint address (host:port)",
     "  -d, --debug              Enable debug logging",
     "  -c, --config <CONFIG>    Configuration file",
     "      --cluster <CLUSTER>  Cluster the node belongs to",
     "      --ttl <TTL>          Heartbeat TTL in seconds [default: 30]",
     "  -h, --help               Print help"]
  | .upgrade =>
    ["Upgrade the image tag of matching containers, one at a time",
     "",
     "Usage: cluman upgrade [OPTIONS] --address <ADDRESS> --image <IMAGE> "
       ++ "--tag <TAG>",
     "",
     "Options:",
     "  -a, --address <ADDRESS>    Docker endpoint address (host:port)",
     "  -d, --debug                Enable debug logging",
     "  -c, --config <CONFIG>      Configuration file",
     "      --node <NODE>          Node name used in logs and progress "
       ++ "[default: local]",
     "  -i, --image <IMAGE>        Regular expression selecting containers by "
       ++ "image",
     "  -t, --tag <TAG>            New image tag",
     "      --rollback <ROLLBACK>  Roll back on failure (overrides the "
       ++ "configuration) [possible values: true, false]",
     "      --scope <SCOPE>        Containers restored by a rollback "
       ++ "(overrides the configuration) [possible values: failed, batch]",
     "  -h, --help                 Print help"]
  | .config =>
    ["Print the effective configuration",
     "",
     "Usage: cluman config [OPTIONS]",
     "",
     "Options:",
     "  -d, --debug            Enable debug logging",
     "  -c, --config <CONFIG>  Configuration file",
     "  -h, --help             Print help"]

/-- The help on a topic. -/
def helpText (topic : Topic) : String :=
  String.join ((helpLines topic).map (· ++ "\n"))

end Fleetkeeper.CommandLine
