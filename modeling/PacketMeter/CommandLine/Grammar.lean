/-!
# The grammar of a command line

A command has options, which may take a value, positional arguments in a fixed
order, and subcommands.  Words are read from left to right.

A word that starts with a hyphen and goes on is an option: `--name`, `--name=value`,
or a cluster `-abc` of short options, of which one that takes a value takes the rest
of the cluster, without equals signs in front.  After `--` every word is positional.
An option that was given without its value takes the next word that is none of
these, and only after that a word may name a subcommand, which all further words
belong to.

When all words are read, an option that has no value but a default gets that, also
when it was given.  Then the options are checked: that no value is missing, that
values are among the choices, and that only options which may be repeated are.
-/

namespace PacketMeter.CommandLine

/-- Why a command line cannot be used, or need not be. -/
inductive UsageError where
  | unknownArgument
  | emptyValue
  | invalidValue
  | unexpectedMultipleUsage
  | missingRequiredArgument
  | missingArgumentOrSubcommand
  | unrecognizedSubcommand
  | argumentNotFound
  | helpDisplayed
  | versionDisplayed
  deriving Repr, DecidableEq, Inhabited

/-- The name of a usage error. -/
def UsageError.name : UsageError → String
  | unknownArgument => "UnknownArgument"
  | emptyValue => "EmptyValue"
  | invalidValue => "InvalidValue"
  | unexpectedMultipleUsage => "UnexpectedMultipleUsage"
  | missingRequiredArgument => "MissingRequiredArgument"
  | missingArgumentOrSubcommand => "MissingArgumentOrSubcommand"
  | unrecognizedSubcommand => "UnrecognizedSubcommand"
  | argumentNotFound => "ArgumentNotFound"
  | helpDisplayed => "HelpDisplayed"
  | versionDisplayed => "VersionDisplayed"

/-- What an option is for. -/
inductive Role where
  | flag
  | value
  | help
  | version
  deriving Repr, DecidableEq, Inhabited

/-- An option of a command.  An empty list of choices leaves the choice free. -/
structure OptionSpec where
  name : String
  short? : Option Char
  long? : Option String
  role : Role
  repeatable : Bool
  choices : List String
  default? : Option String
  deriving Repr, DecidableEq, Inhabited

/-- A command: its options, the names of its positional arguments, all of which must
be given, and the names of its subcommands. -/
structure Command where
  options : List OptionSpec
  positionals : List String
  subcommands : List String
  deriving Repr, Inhabited

/-- How often something was given, and its values. -/
structure Given where
  count : Nat
  values : List String
  deriving Repr, DecidableEq, Inhabited

/-- What was given, by name. -/
abbrev Matches := List (String × Given)

namespace Matches

/-- What was given under a name. -/
def given (m : Matches) (name : String) : Given := (m.lookup name).getD ⟨0, []⟩

/-- The matches with what was given under a name changed. -/
def modify (m : Matches) (name : String) (f : Given → Given) : Matches :=
  (name, f (m.given name)) :: m.filter fun e => e.1 ≠ name

def addOccurrence (m : Matches) (name : String) : Matches :=
  m.modify name fun g => { g with count := g.count + 1 }

def addValue (m : Matches) (name value : String) : Matches :=
  m.modify name fun g => { g with values := g.values ++ [value] }

/-- The first value under a name. -/
def value? (m : Matches) (name : String) : Option String := (m.given name).values.head?

def has (m : Matches) (name : String) : Bool := 0 < (m.given name).count

/-- Matches where what the second has takes the place of what the first has. -/
def override (m n : Matches) : Matches := n ++ m.filter fun e => (n.lookup e.1).isNone

/-- A change under one name is seen there. -/
@[simp] theorem given_modify_self (m : Matches) (name : String) (f : Given → Given) :
    (m.modify name f).given name = f (m.given name) := by
  simp [modify, given]

end Matches

/-- How far a command line was read: what was given, the option that waits for its
value, whether `--` was seen, and the positional arguments to come. -/
structure Progress where
  found : Matches
  awaiting? : Option String
  afterHyphens : Bool
  toCome : List String
  deriving Repr, Inhabited

namespace Command

/-- The option with a long name. -/
def longOption? (c : Command) (name : List Char) : Option OptionSpec :=
  c.options.find? fun o => o.long?.any fun long => long.toList == name

/-- The option with a short name. -/
def shortOption? (c : Command) (name : Char) : Option OptionSpec :=
  c.options.find? fun o => o.short? == some name

/-- Whether a word is an option or `--`.  A hyphen alone is a value. -/
def isOption (word : List Char) : Bool := word.head? == some '-' && word.length != 1

/-- Reads an option that takes a value, given at once or by a later word. -/
def readValue (o : OptionSpec) (value? : Option (List Char)) (p : Progress) : Progress :=
  match value? with
  | some value =>
    let value := String.ofList (value.dropWhile (· == '='))
    { p with found := (p.found.addValue o.name value).addOccurrence o.name, awaiting? := none }
  | none => { p with found := p.found.addOccurrence o.name, awaiting? := some o.name }

/-- Reads an option that takes no value. -/
def readFlag (o : OptionSpec) (p : Progress) : Except UsageError Progress :=
  match o.role with
  | .help => .error .helpDisplayed
  | .version => .error .versionDisplayed
  | .flag | .value => .ok { p with found := p.found.addOccurrence o.name, awaiting? := none }

def readLong (c : Command) (word : List Char) (p : Progress) : Except UsageError Progress :=
  let body := word.dropWhile (· == '-')
  let name := body.takeWhile (· != '=')
  let value? := if body.contains '=' then some (body.dropWhile (· != '=')) else none
  match c.longOption? name with
  | none => .error .unknownArgument
  | some o =>
    match o.role with
    | .value => .ok (readValue o value? p)
    | _ => readFlag o p

/-- Reads a cluster of short options. -/
def readCluster (c : Command) : List Char → Progress → Except UsageError Progress
  | [], p => .ok p
  | x :: rest, p =>
    match c.shortOption? x with
    | none => .error .unknownArgument
    | some o =>
      match o.role with
      | .value => .ok (readValue o (if rest.isEmpty then none else some rest) p)
      | _ =>
        match readFlag o p with
        | .error e => .error e
        | .ok p => readCluster c rest p

def readOption (c : Command) (word : List Char) (p : Progress) : Except UsageError Progress :=
  if word.take 2 == ['-', '-'] then c.readLong word p
  else c.readCluster (word.dropWhile (· == '-')) p

def readPositional (word : String) (p : Progress) : Except UsageError Progress :=
  match p.toCome with
  | [] => .error .unknownArgument
  | name :: toCome =>
    .ok { p with found := (p.found.addValue name word).addOccurrence name, toCome }

/-- Reads words.  The result is how far the reading came, and the subcommand with the
words that belong to it. -/
def read (c : Command) (p : Progress) :
    List String → Except UsageError (Progress × Option (String × List String))
  | [] => .ok (p, none)
  | word :: rest =>
    let chars := word.toList
    if chars == ['-', '-'] && !p.afterHyphens then c.read { p with afterHyphens := true } rest
    else if p.afterHyphens then
      match readPositional word p with
      | .error e => .error e
      | .ok p => c.read p rest
    else if isOption chars then
      match c.readOption chars p with
      | .error e => .error e
      | .ok p => c.read p rest
    else match p.awaiting? with
      | some name => c.read { p with found := p.found.addValue name word, awaiting? := none } rest
      | none =>
        if c.subcommands.contains word then .ok (p, some (word, rest))
        else match readPositional word p with
          | .error e => .error e
          | .ok p => c.read p rest

/-- The progress before the first word. -/
def start (c : Command) : Progress := ⟨[], none, false, c.positionals⟩

/-- Whether a value is among the choices of an option. -/
def allows (o : OptionSpec) (value : String) : Bool := o.choices.isEmpty || o.choices.contains value

def checkOption (m : Matches) (o : OptionSpec) : Except UsageError Unit :=
  let g := m.given o.name
  if 0 < g.count && o.role == .value && g.values.isEmpty then .error .emptyValue
  else if !g.values.all (allows o) then .error .invalidValue
  else if 1 < g.count && !o.repeatable then .error .unexpectedMultipleUsage
  else .ok ()

def checkOptions (m : Matches) : List OptionSpec → Except UsageError Unit
  | [] => .ok ()
  | o :: rest =>
    match checkOption m o with
    | .error e => .error e
    | .ok () => checkOptions m rest

/-- The matches with the default of an option, if it has one and no value. -/
def fillDefault (m : Matches) (o : OptionSpec) : Matches :=
  match o.default? with
  | some value => if (m.given o.name).values.isEmpty then m.addValue o.name value else m
  | none => m

/-- Whether an option waits in vain for its first value. -/
def isStarved (m : Matches) (awaiting? : Option String) : Bool :=
  match awaiting? with
  | some name => (m.given name).values.isEmpty
  | none => false

def check (c : Command) (p : Progress) : Except UsageError Matches :=
  let found := c.options.foldl fillDefault p.found
  if !p.toCome.isEmpty then .error .missingRequiredArgument
  else if isStarved found p.awaiting? then .error .emptyValue
  else match checkOptions found c.options with
    | .error e => .error e
    | .ok () => .ok found

end Command

end PacketMeter.CommandLine
