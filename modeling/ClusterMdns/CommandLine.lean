import ClusterMdns.Settings.Coercion
import ClusterMdns.Table

/-!
The command line. Long options may be cut short as long as they stay unambiguous; a switch takes a value
or none, every other option takes exactly one.
-/

namespace ClusterMdns

open Document

inductive OptionKind where
  | help
  | version
  | switch
  | number
  | text
  | texts
deriving DecidableEq, Repr

/-- An option, under one or more names. -/
structure CommandOption where
  names : List String
  kind : OptionKind
deriving DecidableEq, Repr

namespace CommandOption

/-- The setting that an option sets: its long name without the dashes in front. -/
def setting (o : CommandOption) : String :=
  Text.replaceChar '-' '_' (String.ofList (((o.names.getLast?.getD "").toList).dropWhile (· == '-')))

/-- The name of an option in messages. -/
def title (o : CommandOption) : String :=
  Text.join "/" o.names

end CommandOption

/-- Why a command line starts nothing. -/
inductive CommandExit where
  | help
  | version
  | misuse (message : String)
  | fault (f : Fault)
deriving DecidableEq, Repr

namespace CommandLine

def options : List CommandOption := [
  ⟨["-h", "--help"], .help⟩,
  ⟨["--version"], .version⟩,
  ⟨["--config"], .text⟩,
  ⟨["--debug"], .switch⟩,
  ⟨["--publish-internal-services"], .switch⟩,
  ⟨["--test"], .switch⟩,
  ⟨["--without-namespace"], .switch⟩,
  ⟨["--expose-ipv4"], .switch⟩,
  ⟨["--expose-ipv6"], .switch⟩,
  ⟨["--kubeconfig"], .text⟩,
  ⟨["--master"], .text⟩,
  ⟨["--namespace"], .text⟩,
  ⟨["--default-namespace"], .text⟩,
  ⟨["--record-ttl"], .number⟩,
  ⟨["--source"], .texts⟩,
  ⟨["--resync-period"], .number⟩,
  ⟨["--cache-sync-timeout"], .number⟩,
  ⟨["--log-level"], .text⟩]

/-- Every name of an option with the option. -/
def named : List (String × CommandOption) :=
  options.flatMap fun o => o.names.map fun n => (n, o)

/-! ### Arguments -/

/-- What an argument is: a value, an option with the value joined to it, something that looks like an
option, or the mark after which all arguments are values. -/
inductive Argument where
  | value (s : String)
  | option (o : CommandOption) (joined : Option String)
  | unknown (s : String)
  | separator
deriving DecidableEq, Repr

/-- Splits a text at its first equals sign. -/
def splitEquals? (s : String) : Option (String × String) :=
  let cs := s.toList
  match cs.dropWhile (· != '=') with
  | [] => none
  | _ :: rest => some (String.ofList (cs.takeWhile (· != '=')), String.ofList rest)

/-- Digits, perhaps with a point among or before them. -/
def isUnsignedNumber (cs : List Char) : Bool :=
  let isDigit (c : Char) := (Text.digitValue? c).isSome
  match cs.dropWhile isDigit with
  | [] => !cs.isEmpty
  | '.' :: part => !part.isEmpty && part.all isDigit
  | _ => false

/-- A number below zero is a value. A line feed at its end does not count. -/
def isNegativeNumber : List Char → Bool
  | '-' :: cs =>
    isUnsignedNumber (match cs.getLast? with
      | some '\n' => cs.dropLast
      | _ => cs)
  | _ => false

/-- The value joined to the one letter of a short name. The letter may be repeated, which says nothing
more. -/
def joinedToLetter (letter : Char) (joined : String) : Option String :=
  match joined.toList with
  | [] => some ""
  | cs => match cs.dropWhile (· == letter) with
    | [] => none
    | rest => some (String.ofList rest)

/-- An option under a name with a value joined to it. -/
def joinedTo (name : String) (o : CommandOption) (joined : String) : Argument :=
  match name.toList with
  | ['-', letter] => .option o (joinedToLetter letter joined)
  | _ => .option o (some joined)

/-- What a single dash before a letter can mean: a one-letter option with its value joined to it, or a
name cut short. -/
def shortMatches (s : String) : List (String × Argument) :=
  let joined := String.ofList (s.toList.drop 2)
  named.filterMap fun (n, o) =>
    if n.toList == s.toList.take 2 then some (n, joinedTo n o joined)
    else if s.toList.isPrefixOf n.toList then some (n, .option o none)
    else none

/-- What a name cut short can mean. -/
def longMatches (s : String) : List (String × Argument) :=
  let (start, joined) := match splitEquals? s with
    | some (start, joined) => (start, some joined)
    | none => (s, none)
  named.filterMap fun (n, o) =>
    if start.toList.isPrefixOf n.toList then some (n, .option o joined) else none

def candidates (s : String) : List (String × Argument) :=
  match s.toList with
  | '-' :: '-' :: _ => longMatches s
  | _ => shortMatches s

/-- An argument that starts with a dash and is more than that. -/
def classifyDashed (s : String) : Except CommandExit Argument :=
  match candidates s with
  | [(_, argument)] => .ok argument
  | [] =>
    if isNegativeNumber s.toList || s.toList.contains ' ' then .ok (.value s) else .ok (.unknown s)
  | many => .error (.misuse ("ambiguous option: " ++ s ++ " could match " ++
      Text.join ", " (many.map (·.1))))

def classify (s : String) : Except CommandExit Argument :=
  match s.toList with
  | '-' :: _ :: _ =>
    match named.lookup s with
    | some o => .ok (.option o none)
    | none =>
      match splitEquals? s with
      | some (start, joined) =>
        match named.lookup start with
        | some o => .ok (joinedTo start o joined)
        | none => classifyDashed s
      | none => classifyDashed s
  | _ => .ok (.value s)

def classifyAll : List String → Except CommandExit (List Argument)
  | [] => pure []
  | s :: rest =>
    if s == "--" then pure (.separator :: rest.map .value)
    else do
      let a ← classify s
      pure (a :: (← classifyAll rest))

/-! ### Values -/

/-- What the command line says: settings by their names, the settings file (`none` where its option got no
value), whether an option that collects texts got none, and what was not understood. -/
structure Parsed where
  flags : List (String × Value) := []
  config : Option String := some ""
  missing : Bool := false
  extras : List String := []

def misused {α : Type} (o : CommandOption) (message : String) : Except CommandExit α :=
  .error (.misuse ("argument " ++ o.title ++ ": " ++ message))

def setFlag (name : String) (v : Value) (p : Parsed) : Parsed :=
  { p with flags := Table.set name v p.flags }

/-- A switch without a value is on; a value must be a word for true or false. -/
def readSwitch (o : CommandOption) : Option String → Except CommandExit Bool
  | none => .ok true
  | some s =>
    let word := Text.lower (Text.trim s)
    if Settings.trueWords.contains word then .ok true
    else if Settings.falseWords.contains word then .ok false
    else misused o ("expected a boolean, got '" ++ s ++ "'")

/-- Adds a text to the list that an option collects. -/
def collect (name s : String) (p : Parsed) : Parsed :=
  setFlag name (match Table.find? name p.flags with
    | some (.str before) => .str (before ++ "," ++ s)
    | _ => .str s) p

/-- Sets an option; `given` is its value. -/
def take (o : CommandOption) (given : Option String) (p : Parsed) : Except CommandExit Parsed :=
  match o.kind, given with
  | .help, none => .error .help
  | .version, none => .error .version
  | .help, some s => misused o ("ignored explicit argument " ++ Text.quoted s)
  | .version, some s => misused o ("ignored explicit argument " ++ Text.quoted s)
  | .switch, given => do
    let b ← readSwitch o given
    pure (setFlag o.setting (.bool b) p)
  | _, none => misused o "expected one argument"
  | .number, some s =>
    match Number.readInt? s with
    | some n => pure (setFlag o.setting (.int n) p)
    | none => misused o ("invalid int value: " ++ Text.quoted s)
  | .text, some s =>
    if o.setting == "config" then pure { p with config := some s }
    else pure (setFlag o.setting (.str s) p)
  | .texts, some s => pure (collect o.setting s p)

/-- Two dashes joined to an option are no value: a switch is on, and any other option has an empty list. -/
def takeNothing (o : CommandOption) (p : Parsed) : Except CommandExit Parsed :=
  match o.kind with
  | .help | .version => take o (some "--") p
  | .switch => take o none p
  | .texts => pure { p with missing := true }
  | .number | .text =>
    if o.setting == "config" then pure { p with config := none }
    else pure (setFlag o.setting (.list []) p)

/-- Sets an option from a value joined to it. -/
def takeJoined (o : CommandOption) (s : String) (p : Parsed) : Except CommandExit Parsed :=
  if s == "--" then takeNothing o p else take o (some s) p

def takesValue (o : CommandOption) : Bool :=
  match o.kind with
  | .help | .version => false
  | _ => true

def consume (p : Parsed) : List Argument → Except CommandExit Parsed
  | [] => .ok p
  | .value s :: rest => consume { p with extras := p.extras ++ [s] } rest
  | .unknown s :: rest => consume { p with extras := p.extras ++ [s] } rest
  | .separator :: rest => consume { p with extras := p.extras ++ ["--"] } rest
  | .option o (some s) :: rest => do consume (← takeJoined o s p) rest
  | .option o none :: .value s :: rest =>
    if takesValue o then do consume (← take o (some s) p) rest
    else do consume { (← take o none p) with extras := p.extras ++ [s] } rest
  | .option o none :: rest => do consume (← take o none p) rest

/-- Reads the arguments of the program. -/
def parse (arguments : List String) : Except CommandExit Parsed := do
  let p ← consume {} (← classifyAll arguments)
  if !p.extras.isEmpty then .error (.misuse ("unrecognized arguments: " ++ Text.join " " p.extras))
  else if p.missing then .error (.fault .wrongKind)
  else pure p

end CommandLine

end ClusterMdns
