import ClusterMdns.Document.Display

/-!
JSON texts. The characters of a text are cut into tokens, and each token is taken by a stack of open
lists and mappings as soon as it ends. The numbers `NaN`, `Infinity` and `-Infinity` are read and written
too.
-/

namespace ClusterMdns.Document.Json

open Number

inductive Token where
  | openList
  | closeList
  | openDict
  | closeDict
  | comma
  | colon
  | value (s : Scalar)
deriving DecidableEq, Repr

/-- Why a text is no JSON document. -/
inductive Error where
  | malformed
  | tooManyDigits
  | tooDeep
deriving DecidableEq, Repr

/-! ### Words -/

def isDigit (c : Char) : Bool := '0' <= c && c <= '9'

def digitsValue (cs : List Char) : Nat :=
  ofDigits 10 (cs.map fun c => c.toNat - 48)

/-- The exponent that a text begins with, a letter, perhaps a sign, and digits, and what is left. -/
def exponent? (cs : List Char) : Option (Int × List Char) := do
  let c ← cs.head?
  if c != 'e' && c != 'E' then none
  else
    let (negative, digits) := match cs.tail with
      | '-' :: ds => (true, ds)
      | '+' :: ds => (false, ds)
      | ds => (false, ds)
    let run := digits.takeWhile isDigit
    if run.isEmpty then none
    else
      let n : Int := digitsValue run
      some (if negative then -n else n, digits.dropWhile isDigit)

/-- The digits behind the point that a text begins with, and what is left. -/
def fraction (cs : List Char) : List Char × List Char :=
  match cs with
  | '.' :: more =>
    if more.head?.any isDigit then (more.takeWhile isDigit, more.dropWhile isDigit) else ([], cs)
  | _ => ([], cs)

/-- The longest number without a sign that a text begins with, and what is left. A zero stands alone
before the point. -/
def number (negative : Bool) (cs : List Char) : Except Error (Scalar × List Char) :=
  let whole := if cs.head? == some '0' then ['0'] else cs.takeWhile isDigit
  let (part, rest) := fraction (cs.drop whole.length)
  let exponent := exponent? rest
  if whole.isEmpty then .error .malformed
  else if part.isEmpty && exponent.isNone then
    if whole.length > digitLimit then .error .tooManyDigits
    else
      let n : Int := digitsValue whole
      .ok (.int (if negative then -n else n), rest)
  else
    let (e, rest) := exponent.getD (0, rest)
    .ok (.float (.ofScientific negative (digitsValue (whole ++ part)) (e - part.length)), rest)

/-- A number or one of the named values. -/
def word (cs : List Char) : Except Error Scalar :=
  match String.ofList cs with
  | "null" => .ok .null
  | "true" => .ok (.bool true)
  | "false" => .ok (.bool false)
  | "NaN" => .ok (.float .nan)
  | "Infinity" => .ok (.float (.infinite false))
  | "-Infinity" => .ok (.float (.infinite true))
  | _ => do
    let (s, rest) ← match cs with
      | '-' :: ds => number true ds
      | ds => number false ds
    if rest.isEmpty then .ok s else .error .malformed

/-! ### Documents -/

/-- An open list or mapping with what it holds so far, last first. -/
inductive Frame where
  | list (items : List Value)
  | dict (entries : List (Scalar × Value)) (key : Scalar)

/-- What may come next: a value (or, right after an opening bracket, its end), a key, the colon after a key,
or what separates and ends items. -/
inductive Expect where
  | value (canClose : Bool)
  | key (entries : List (Scalar × Value)) (canClose : Bool)
  | colon (entries : List (Scalar × Value)) (key : Scalar)
  | separator
  | nothing (v : Value)

structure State where
  stack : List Frame
  expect : Expect

/-- A finished value goes into the innermost open list or mapping. -/
def State.give (stack : List Frame) (v : Value) : State :=
  match stack with
  | [] => ⟨[], .nothing v⟩
  | .list items :: rest => ⟨.list (v :: items) :: rest, .separator⟩
  | .dict entries key :: rest => ⟨.dict ((key, v) :: entries) key :: rest, .separator⟩

/-- How many lists and mappings may be inside each other. -/
def depthLimit : Nat := 985

def State.isFull (s : State) : Bool := depthLimit <= s.stack.length

def State.step (s : State) (t : Token) : Except Error State :=
  match s.expect, t with
  | .value _, .value v => .ok (State.give s.stack (.scalar v))
  | .value _, .openList =>
    if s.isFull then .error .tooDeep else .ok ⟨.list [] :: s.stack, .value true⟩
  | .value _, .openDict => if s.isFull then .error .tooDeep else .ok ⟨s.stack, .key [] true⟩
  | .value true, .closeList =>
    match s.stack with
    | .list items :: rest => .ok (State.give rest (.list items.reverse))
    | _ => .error .malformed
  | .key entries _, .value (.str k) => .ok ⟨s.stack, .colon entries (.str k)⟩
  | .key _ true, .closeDict => .ok (State.give s.stack (.dict []))
  | .colon entries k, .colon => .ok ⟨.dict entries k :: s.stack, .value false⟩
  | .separator, .comma =>
    match s.stack with
    | .list items :: rest => .ok ⟨.list items :: rest, .value false⟩
    | .dict entries _ :: rest => .ok ⟨rest, .key entries false⟩
    | [] => .error .malformed
  | .separator, .closeList =>
    match s.stack with
    | .list items :: rest => .ok (State.give rest (.list items.reverse))
    | _ => .error .malformed
  | .separator, .closeDict =>
    match s.stack with
    | .dict entries _ :: rest => .ok (State.give rest (.dict (ofEntries entries.reverse)))
    | _ => .error .malformed
  | _, _ => .error .malformed

def State.start : State := ⟨[], .value false⟩

def State.finish (s : State) : Except Error Value :=
  match s.expect with
  | .nothing v => .ok v
  | _ => .error .malformed

/-- Whether a value may come next. -/
def State.wantsValue (s : State) : Bool :=
  match s.expect with
  | .value _ => true
  | _ => false

/-! ### Reading -/

/-- Where a reader stands in a token. Characters of a text and of a word are kept last first; `high` is an
escaped code unit that waits for its other half. -/
inductive Mode where
  | between
  | word (acc : List Char)
  | text (acc : List Char) (high : Option Nat)
  | escape (acc : List Char) (high : Option Nat)
  | code (acc : List Char) (high : Option Nat) (digits value : Nat)

structure Reader where
  mode : Mode
  state : State

def isWordChar (c : Char) : Bool :=
  isDigit c || ('a' <= c && c <= 'z') || ('A' <= c && c <= 'Z') || c == '-' || c == '+' || c == '.'

def punctuation? (c : Char) : Option Token :=
  if c == '[' then some .openList
  else if c == ']' then some .closeList
  else if c == '\x7b' then some .openDict
  else if c == '\x7d' then some .closeDict
  else if c == ',' then some .comma
  else if c == ':' then some .colon
  else none

def escaped? (c : Char) : Option Char :=
  if c == '"' || c == '\\' || c == '/' then some c
  else if c == 'b' then some (Char.ofNat 8)
  else if c == 'f' then some (Char.ofNat 12)
  else if c == 'n' then some '\n'
  else if c == 'r' then some '\r'
  else if c == 't' then some '\t'
  else none

/-- Adds a half that was not followed by the other. -/
def flush (acc : List Char) : Option Nat → List Char
  | some high => (Text.Surrogate.ofCode high).reverse ++ acc
  | none => acc

/-- A finished code unit: the second half of a pair joins the first. -/
def afterCode (acc : List Char) (high : Option Nat) (n : Nat) : Mode :=
  let add (acc : List Char) (code : Nat) : Mode :=
    .text ((Text.Surrogate.ofCode code).reverse ++ acc) none
  if 0xD800 <= n && n < 0xDC00 then .text (flush acc high) (some n)
  else match high with
    | some h => if Text.Surrogate.isHalf n then add acc (Text.Surrogate.joined h n) else add (flush acc high) n
    | none => add acc n

namespace Reader

def start : Reader := ⟨.between, .start⟩

/-- Takes a token that has ended. -/
def take (r : Reader) (t : Token) : Except Error Reader := do
  .ok ⟨.between, ← r.state.step t⟩

/-- One character between tokens. A word begins only where a value may come. -/
def between (r : Reader) (c : Char) : Except Error Reader :=
  if c == ' ' || c == '\t' || c == '\n' || c == '\r' then .ok r
  else if c == '"' then .ok { r with mode := .text [] none }
  else match punctuation? c with
    | some t => r.take t
    | none =>
      if isWordChar c && r.state.wantsValue then .ok { r with mode := .word [c] }
      else .error .malformed

def step (r : Reader) (c : Char) : Except Error Reader :=
  match r.mode with
  | .between => r.between c
  | .word acc =>
    if isWordChar c then .ok { r with mode := .word (c :: acc) }
    else do
      let r ← r.take (.value (← word acc.reverse))
      r.between c
  | .text acc high =>
    if c == '"' then r.take (.value (.str (String.ofList (flush acc high).reverse)))
    else if c == '\\' then .ok { r with mode := .escape acc high }
    else if c.toNat < 32 then .error .malformed
    else .ok { r with mode := .text (c :: flush acc high) none }
  | .escape acc high =>
    if c == 'u' then .ok { r with mode := .code acc high 0 0 }
    else match escaped? c with
      | some x => .ok { r with mode := .text (x :: flush acc high) none }
      | none => .error .malformed
  | .code acc high digits value =>
    match Text.hexValue? c with
    | none => .error .malformed
    | some d =>
      let n := value * 16 + d
      .ok { r with mode := if digits == 3 then afterCode acc high n else .code acc high (digits + 1) n }

def finish (r : Reader) : Except Error Value :=
  match r.mode with
  | .between => r.state.finish
  | .word acc => do (← r.take (.value (← word acc.reverse))).state.finish
  | _ => .error .malformed

end Reader

/-- Reads one document. -/
def read (s : String) : Except Error Value := do
  (← s.toList.foldlM Reader.step Reader.start).finish

/-! ### Written form -/

def escapeCode (n : Nat) : List Char :=
  let c := Char.ofNat n
  if n == '"'.toNat || n == '\\'.toNat then ['\\', c]
  else if n == '\n'.toNat then ['\\', 'n']
  else if 32 <= n && n < 127 then [c]
  else if n < 0x10000 then '\\' :: 'u' :: Text.hexDigits 4 n
  else
    let m := n - 0x10000
    '\\' :: 'u' :: Text.hexDigits 4 (0xD800 + m / 1024) ++
      '\\' :: 'u' :: Text.hexDigits 4 (0xDC00 + m % 1024)

def quote (s : String) : String :=
  String.ofList ('"' :: (Text.Surrogate.codes s.toList).flatMap escapeCode ++ ['"'])

def floatText : Binary → String
  | .nan => "NaN"
  | .infinite false => "Infinity"
  | .infinite true => "-Infinity"
  | x => x.text

def scalarText : Scalar → String
  | .null => "null"
  | .bool true => "true"
  | .bool false => "false"
  | .int n => intText n
  | .float x => floatText x
  | s => quote s.text

/-- A key is always a text. -/
def keyText : Scalar → String
  | .str s => quote s
  | s => quote (scalarText s)

mutual

/-- Writes a document on one line. -/
def render : Value → String
  | .scalar s => scalarText s
  | .list items => "[" ++ Text.join "," (renderItems items) ++ "]"
  | .dict entries => "\x7b" ++ Text.join "," (renderEntries entries) ++ "\x7d"
  | .pair k v => "[" ++ render k ++ "," ++ render v ++ "]"
  | .set members => "[" ++ Text.join "," (members.map scalarText) ++ "]"
  | .tied _ v => render v
  | .back _ => "null"

def renderItems : List Value → List String
  | [] => []
  | v :: rest => render v :: renderItems rest

def renderEntries : List (Scalar × Value) → List String
  | [] => []
  | (k, v) :: rest => (keyText k ++ ":" ++ render v) :: renderEntries rest

end

end ClusterMdns.Document.Json
