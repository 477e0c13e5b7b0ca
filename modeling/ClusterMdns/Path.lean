import ClusterMdns.Text.Fields

/-!
File paths. In a tidy path there are no empty names and no `.`, while `..` stays; a canonical one is
absolute and has no `..` either.
-/

namespace ClusterMdns

/-- `slashes` is the number of slashes in front: none for a relative path, one for an absolute path, and
two where exactly two were written. -/
structure Path where
  slashes : Nat
  names : List String
deriving DecidableEq, Repr

namespace Path

def leadingSlashes (s : String) : Nat :=
  match s.toList with
  | '/' :: '/' :: '/' :: _ => 1
  | '/' :: '/' :: _ => 2
  | '/' :: _ => 1
  | _ => 0

def ofString (s : String) : Path :=
  ⟨leadingSlashes s, (Text.splitOn '/' s).filter fun name => name != "" && name != "."⟩

def isAbsolute (p : Path) : Bool := p.slashes != 0

def text (p : Path) : String :=
  let body := Text.join "/" p.names
  if p.isAbsolute then String.ofList (List.replicate p.slashes '/') ++ body
  else if body == "" then "." else body

/-- `q` seen from `p`; an absolute `q` stands for itself. -/
def append (p q : Path) : Path :=
  if q.isAbsolute then q else { p with names := p.names ++ q.names }

def parent (p : Path) : Path :=
  { p with names := p.names.dropLast }

/-- Takes back a name for every `..` after it; at the root of an absolute path `..` does nothing. -/
def collapse (absolute : Bool) (before : List String) : List String → List String
  | [] => before.reverse
  | name :: rest =>
    if name != ".." then collapse absolute (name :: before) rest
    else match before with
      | [] => collapse absolute (if absolute then [] else [".."]) rest
      | last :: earlier =>
        if last == ".." then collapse absolute (".." :: before) rest
        else collapse absolute earlier rest

def canonical (p : Path) : Path :=
  { p with names := collapse p.isAbsolute [] p.names }

end Path

end ClusterMdns
