import ClusterMdns.Document.Value

/-!
Equality of values that may be part of themselves. Collections are compared part by part, through all that
their labels stand for, so the comparison of two different ones need not come to an end.
-/

namespace ClusterMdns.Document.Value

/-- How many collections deep a comparison goes. -/
def comparisonLimit : Nat := 985

/-- Whether items are equal one by one. -/
def equalItems (equal : Value → Value → Except Fault Bool) : List Value → List Value → Except Fault Bool
  | [], [] => .ok true
  | x :: xs, y :: ys => do if ← equal x y then equalItems equal xs ys else .ok false
  | _, _ => .ok false

/-- Whether entries are equal to those of another mapping under their keys. -/
def equalEntries (equal : Value → Value → Except Fault Bool) :
    List (Scalar × Value) → List (Scalar × Value) → Except Fault Bool
  | [], _ => .ok true
  | (k, x) :: xs, others =>
    match others.find? fun (l, _) => l.sameKey k with
    | some (_, y) => do if ← equal x y then equalEntries equal xs others else .ok false
    | none => .ok false

/-- Equality of two values that are parts of collections: that which is no number is equal to itself there. -/
def equalPart (equal : Value → Value → Except Fault Bool) (v w : Value) : Except Fault Bool :=
  match v, w with
  | scalar a, scalar b => .ok (a.sameKey b)
  | _, _ => equal v w

/-- Equality of values by way of `fuel` collections at most; a collection is equal to itself. -/
def equalWithin : (fuel : Nat) → Value → Value → Except Fault Bool
  | 0, _, _ => .error .tooDeep
  | fuel + 1, v, w =>
    let part := equalPart (equalWithin fuel)
    match v, w with
    | scalar a, scalar b => .ok (a.same b)
    | tied l _, tied m _ => if l == m then .ok true else equalCollections part v.opened w.opened
    | _, _ => equalCollections part v.opened w.opened
where
  equalCollections (part : Value → Value → Except Fault Bool) : Value → Value → Except Fault Bool
    | list xs, list ys => if xs.length == ys.length then equalItems part xs ys else .ok false
    | dict xs, dict ys => if xs.length == ys.length then equalEntries part xs ys else .ok false
    | pair k v, pair l w => equalItems part [k, v] [l, w]
    | set xs, set ys => .ok (xs.length == ys.length && xs.all fun x => ys.any x.sameKey)
    | _, _ => .ok false

def equal (v w : Value) : Except Fault Bool :=
  equalWithin comparisonLimit v w

end ClusterMdns.Document.Value
