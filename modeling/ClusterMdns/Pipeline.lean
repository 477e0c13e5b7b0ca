/-!
The pipeline between the adapters and the dispatcher: a queue, bounded or not, whose two ends are used
until the signal to stop is seen.
-/

namespace ClusterMdns

structure Pipeline (α : Type) where
  capacity : Option Nat
  items : List α := []

namespace Pipeline

variable {α : Type}

/-- A pipeline that holds `size` items, or any number if `size` is not positive. -/
def ofSize (size : Int) : Pipeline α :=
  ⟨if size > 0 then some size.toNat else none, []⟩

def hasRoom (p : Pipeline α) : Bool :=
  match p.capacity with
  | some n => p.items.length < n
  | none => true

/-- Puts an item behind the others, if there is room. -/
def offer? (a : α) (p : Pipeline α) : Option (Pipeline α) :=
  if p.hasRoom then some { p with items := p.items ++ [a] } else none

/-- Takes the foremost item, if there is one. -/
def take? (p : Pipeline α) : Option (α × Pipeline α) :=
  match p.items with
  | [] => none
  | a :: rest => some (a, { p with items := rest })

/-- Puts an item as soon as there is room; `looks` are the signals to stop that are seen before each try.
The outcome says whether the item was put. -/
def put (a : α) : List Bool → Pipeline α → Pipeline α × Bool
  | [], p => (p, false)
  | true :: _, p => (p, false)
  | false :: later, p =>
    match p.offer? a with
    | some p => (p, true)
    | none => put a later p

/-- Takes an item as soon as there is one, in the same way. -/
def get : List Bool → Pipeline α → Pipeline α × Option α
  | [], p => (p, none)
  | true :: _, p => (p, none)
  | false :: later, p =>
    match p.take? with
    | some (a, p) => (p, some a)
    | none => get later p

end Pipeline

end ClusterMdns
