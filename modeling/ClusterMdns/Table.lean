/-!
Tables that keep their entries in the order in which their keys came first.
-/

namespace ClusterMdns

abbrev Table (κ ν : Type) := List (κ × ν)

namespace Table

variable {κ ν : Type} [DecidableEq κ]

def find? (key : κ) : Table κ ν → Option ν
  | [] => none
  | (k, v) :: rest => if k = key then some v else find? key rest

def contains (key : κ) (t : Table κ ν) : Bool :=
  (t.find? key).isSome

/-- Sets the entry of a key, which keeps its place if it is there. -/
def set (key : κ) (value : ν) : Table κ ν → Table κ ν
  | [] => [(key, value)]
  | (k, v) :: rest => if k = key then (k, value) :: rest else (k, v) :: set key value rest

def erase (key : κ) : Table κ ν → Table κ ν
  | [] => []
  | (k, v) :: rest => if k = key then rest else (k, v) :: erase key rest

/-- Sets entries one after another. -/
def setAll (t : Table κ ν) (entries : List (κ × ν)) : Table κ ν :=
  entries.foldl (fun t e => t.set e.1 e.2) t

def ofList (entries : List (κ × ν)) : Table κ ν :=
  setAll [] entries

def keys (t : Table κ ν) : List κ :=
  t.map (·.1)

def values (t : Table κ ν) : List ν :=
  t.map (·.2)

end Table

end ClusterMdns
