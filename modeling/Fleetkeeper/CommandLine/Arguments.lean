/-
Arguments of a command line: switches, options with a value, and words. A
long name stands behind two hyphens and its value behind an equals sign or in
the next argument; short names stand behind one hyphen, several in a row, the
last of them with its value attached or in the next argument. After two
hyphens alone every argument is a word.

A value is checked when it is met, so the first argument that is wrong
decides.
-/
namespace Fleetkeeper.CommandLine

/-- What can be given by name. -/
structure Flag where
  long : String
  short : Option Char := none
  /-- Which values it takes; a switch takes none. -/
  accepts : Option (String → Bool) := none

/-- What a command understands. -/
structure Form where
  flags : List Flag
  /-- How many words it takes; a command of commands takes the name of one,
  and what follows is for that one. -/
  words : Option Nat
  /-- Whether it tells its version. -/
  versioned : Bool := false

/-- Why arguments are not a request to be carried out. -/
inductive Interruption where
  | refused (reason : String)
  | help
  | version
deriving DecidableEq, Repr

/-- What was given. -/
structure Given where
  /-- Options by their long names. -/
  values : List (String × String) := []
  /-- Long names of switches. -/
  switches : List String := []
  /-- Words, latest first. -/
  words : List String := []
deriving DecidableEq, Repr

namespace Given

/-- The value of an option. -/
def value? (g : Given) (long : String) : Option String := g.values.lookup long

/-- The words in order. -/
def wordList (g : Given) : List String := g.words.reverse

/-- Whether a flag was given. -/
def has (g : Given) (f : Flag) : Bool :=
  g.switches.contains f.long || (g.value? f.long).isSome

/-- One more switch; a flag may be given once. -/
def addSwitch (g : Given) (f : Flag) : Except Interruption Given :=
  if g.has f then
    .error (.refused ("'--" ++ f.long ++ "' cannot be used multiple times"))
  else .ok { g with switches := f.long :: g.switches }

/-- One more option. -/
def addValue (g : Given) (f : Flag) (value : String) :
    Except Interruption Given :=
  if g.has f then
    .error (.refused ("'--" ++ f.long ++ "' cannot be used multiple times"))
  else if f.accepts.any (· value) then
    .ok { g with values := (f.long, value) :: g.values }
  else .error
    (.refused ("invalid value " ++ value.quote ++ " for '--" ++ f.long ++ "'"))

/-- One more word. -/
def addWord (g : Given) (most : Nat) (word : String) :
    Except Interruption Given :=
  if g.words.length < most then .ok { g with words := word :: g.words }
  else .error (.refused ("unexpected argument " ++ word.quote))

end Given

namespace Form

/-- The complaint about an option without its value. -/
def valueMissing (f : Flag) : Interruption :=
  .refused ("a value is required for '--" ++ f.long ++ "'")

/-- A name and what is behind its equals sign. -/
def splitValue (cs : List Char) : String × Option String :=
  let name := cs.takeWhile (· ≠ '=')
  (String.ofList name,
    if name.length < cs.length then
      some (String.ofList (cs.drop (name.length + 1)))
    else none)

/-- An argument after its two hyphens: what is given then, and the option
whose value is to come. -/
def readLong (form : Form) (g : Given) (cs : List Char) :
    Except Interruption (Given × Option Flag) :=
  let (name, value) := splitValue cs
  match form.flags.find? (·.long == name), value with
  | some f, some value => (g.addValue f value).map (·, none)
  | some f, none =>
    if f.accepts.isSome then .ok (g, some f) else (g.addSwitch f).map (·, none)
  | none, none =>
    if name = "help" then .error .help
    else if name = "version" && form.versioned then .error .version
    else .error (.refused ("unexpected argument '--" ++ name ++ "'"))
  | none, some _ =>
    .error (.refused ("unexpected argument '--" ++ name ++ "'"))

/-- The short names of an argument after its hyphen. -/
def readShort (form : Form) :
    List Char → Given → Except Interruption (Given × Option Flag)
  | [], g => .ok (g, none)
  | c :: r, g =>
    match form.flags.find? (·.short == some c) with
    | some f =>
      if f.accepts.isNone then
        match g.addSwitch f with
        | .ok g => readShort form r g
        | .error e => .error e
      else
        match r with
        | [] => .ok (g, some f)
        | '=' :: value => (g.addValue f (String.ofList value)).map (·, none)
        | value => (g.addValue f (String.ofList value)).map (·, none)
    | none =>
      if c = 'h' then .error .help
      else if c = 'V' && form.versioned then .error .version
      else .error (.refused ("unexpected argument '-" ++ c.toString ++ "'"))

/-- Read arguments: what is given, and the name of a command with the
arguments that are left for it. `pending` is the option whose value comes
next, and `literal` says that only words follow. -/
def read (form : Form) (pending : Option Flag) (literal : Bool) (g : Given) :
    List String → Except Interruption (Given × Option (String × List String))
  | [] =>
    match pending with
    | some f => .error (valueMissing f)
    | none => .ok (g, none)
  | a :: rest =>
    let word (g : Given) :=
      match form.words with
      | some most =>
        match g.addWord most a with
        | .ok g => read form none literal g rest
        | .error e => .error e
      | none =>
        if literal then .error (.refused ("unexpected argument " ++ a.quote))
        else .ok (g, some (a, rest))
    let named (r : Except Interruption (Given × Option Flag)) :=
      match pending, r with
      | some f, _ => .error (valueMissing f)
      | none, .ok (g, pending) => read form pending false g rest
      | none, .error e => .error e
    if literal then
      match pending with
      | some f => .error (valueMissing f)
      | none => word g
    else
      match a.toList with
      | ['-', '-'] =>
        match pending with
        | some f => .error (valueMissing f)
        | none => read form none true g rest
      | '-' :: '-' :: name => named (form.readLong g name)
      | '-' :: c :: more => named (form.readShort (c :: more) g)
      | _ =>
        match pending with
        | some f =>
          match g.addValue f a with
          | .ok g => read form none false g rest
          | .error e => .error e
        | none => word g

end Form

end Fleetkeeper.CommandLine
