/-!
Log lines, and computations that write them. Lines written before a failure are kept.
-/

namespace ClusterMdns

inductive Level where
  | debug
  | info
  | warning
  | error
deriving DecidableEq, Repr

/-- The higher the number, the more urgent the line. -/
def Level.severity : Level → Nat
  | debug => 10
  | info => 20
  | warning => 30
  | error => 40

def Level.name : Level → String
  | debug => "DEBUG"
  | info => "INFO"
  | warning => "WARNING"
  | error => "ERROR"

structure LogLine where
  level : Level
  text : String
deriving DecidableEq, Repr

/-- The outcome of a computation and the lines it logged on the way. -/
structure Logged (ε α : Type) where
  lines : List LogLine
  outcome : Except ε α

namespace Logged

variable {ε ε' α β : Type}

def ok (a : α) : Logged ε α :=
  ⟨[], .ok a⟩

def fail (e : ε) : Logged ε α :=
  ⟨[], .error e⟩

def bind (x : Logged ε α) (f : α → Logged ε β) : Logged ε β :=
  match x.outcome with
  | .ok a => ⟨x.lines ++ (f a).lines, (f a).outcome⟩
  | .error e => ⟨x.lines, .error e⟩

instance : Monad (Logged ε) where
  pure := ok
  bind := bind

def ofExcept (x : Except ε α) : Logged ε α :=
  ⟨[], x⟩

instance : MonadLift (Except ε) (Logged ε) where
  monadLift := ofExcept

def write (level : Level) (text : String) : Logged ε Unit :=
  ⟨[⟨level, text⟩], .ok ()⟩

def debug (text : String) : Logged ε Unit := write .debug text

def info (text : String) : Logged ε Unit := write .info text

def warning (text : String) : Logged ε Unit := write .warning text

def error (text : String) : Logged ε Unit := write .error text

def mapError (f : ε → ε') (x : Logged ε α) : Logged ε' α :=
  ⟨x.lines, x.outcome.mapError f⟩

/-- Goes on after a failure with what `f` makes of it. -/
def recover (x : Logged ε α) (f : ε → Logged ε' α) : Logged ε' α :=
  match x.outcome with
  | .ok a => ⟨x.lines, .ok a⟩
  | .error e => ⟨x.lines ++ (f e).lines, (f e).outcome⟩

end Logged

end ClusterMdns
