import ClusterMdns.Document.Value
import ClusterMdns.Path
import ClusterMdns.Text.Utf8

/-!
The machine the program runs on, as far as the program looks at it: files, environment variables and a
few directories.
-/

namespace ClusterMdns

inductive FileNode where
  | file (content : List UInt8)
  | directory
deriving DecidableEq, Repr

/-- Why a file gives no text. -/
inductive FileError where
  /-- It is not there, or is no file. -/
  | unreadable
  /-- Its path, or a name in it, is longer than any can be. -/
  | longPath
  /-- Its path cannot be the path of a file. -/
  | badPath
  /-- It does not hold UTF-8. -/
  | undecodable
deriving DecidableEq, Repr

/-- Files and directories by their names from one directory down; every directory that holds something is
there. -/
abbrev FileTree := List (List String × FileNode)

namespace FileTree

def at? (t : FileTree) (names : List String) : Option FileNode :=
  match t.find? fun (path, _) => path == names with
  | some (_, node) => some node
  | none =>
    if names.isEmpty || t.any fun (path, _) => names.isPrefixOf path then some .directory
    else none

/-- The most bytes of a name and of a path. -/
def nameLimit : Nat := 255

def pathLimit : Nat := 4095

def bytesOf (s : String) : Nat := (Text.Utf8.encode s.toList).length

/-- Follows names from a directory, given with its last name first. Nothing is known above the top of the
tree, unless that is the root, which is above itself. -/
def walk (t : FileTree) (isRoot : Bool) (here : List String) : List String → Except FileError FileNode
  | [] => match t.at? here.reverse with
    | some node => .ok node
    | none => .error .unreadable
  | name :: rest =>
    if t.at? here.reverse == some .directory then
      if name == "" || name == "." then walk t isRoot here rest
      else if name == ".." then
        match here with
        | [] => if isRoot then walk t isRoot [] rest else .error .unreadable
        | _ :: outer => walk t isRoot outer rest
      else if bytesOf name > nameLimit then .error .longPath
      else walk t isRoot (name :: here) rest
    else .error .unreadable

end FileTree

/-- What is below the working directory and, for absolute paths, below the root. -/
structure FileSystem where
  here : FileTree := []
  root : FileTree := []

namespace FileSystem

/-- Whether a path cannot hold a code: none holds a zero or half of a code pair, unless the half stands for
a byte beyond ASCII. -/
def isForeign (code : Nat) : Bool :=
  code == 0 || (Text.Surrogate.isHalf code && !(0xDC80 <= code && code < 0xDD00))

def find (fs : FileSystem) (path : String) : Except FileError FileNode :=
  let names := Text.splitOn '/' path
  if (Text.Surrogate.codes path.toList).any isForeign then .error .badPath
  else if FileTree.bytesOf path > FileTree.pathLimit then .error .longPath
  else match path.toList with
    | [] => .error .unreadable
    | '/' :: _ => fs.root.walk true [] names
    | _ => fs.here.walk false [] names

/-- What a path leads to, if to anything; it cannot be asked of a path that is too long. -/
def look? (fs : FileSystem) (path : Path) : Except Document.Fault (Option FileNode) :=
  match fs.find path.text with
  | .ok node => .ok (some node)
  | .error .longPath => .error .longPath
  | .error _ => .ok none

def exists? (fs : FileSystem) (path : Path) : Except Document.Fault Bool :=
  (fs.look? path).map (·.isSome)

def isFile (fs : FileSystem) (path : Path) : Except Document.Fault Bool :=
  (fs.look? path).map fun node => match node with
    | some (.file _) => true
    | _ => false

def readBytes (fs : FileSystem) (path : String) : Except FileError (List UInt8) := do
  match ← fs.find path with
  | .file content => .ok content
  | .directory => .error .unreadable

/-- The text of a file that is read as a whole, with line ends unified. -/
def readText (fs : FileSystem) (path : String) : Except FileError String := do
  match Text.Utf8.decode? (← fs.readBytes path) with
  | some cs => .ok (String.ofList (Text.unifyLineEnds cs))
  | none => .error .undecodable

/-- Adds a file under its path. -/
def add (path : String) (content : List UInt8) (fs : FileSystem) : FileSystem :=
  let p := Path.ofString path
  if p.isAbsolute then { fs with root := fs.root ++ [(p.names, .file content)] }
  else { fs with here := fs.here ++ [(p.names, .file content)] }

end FileSystem

abbrev Environment := List (String × String)

def Environment.get? (name : String) (env : Environment) : Option String :=
  (List.find? (fun (other, _) => other == name) env).map (·.2)

/-- `account` is the account the program runs under; `homes` are the home directories of accounts. -/
structure Host where
  files : FileSystem
  environment : Environment
  workingDirectory : Path := ⟨1, []⟩
  account : String := "root"
  homes : List (String × String) :=
    [("root", "/root"), ("daemon", "/usr/sbin"), ("bin", "/bin"), ("nobody", "/nonexistent")]
  systemDirectory : String := "/var/config/external-mdns"
  credentialDirectory : String := "/var/run/secrets/kubernetes.io/serviceaccount"

namespace Host

/-- A variable's value, empty if it is not set. -/
def variableOr (h : Host) (name : String) : String :=
  (h.environment.get? name).getD ""

/-- The home directory of an account. The environment may name another one for the own account, which is
written as an empty name. -/
def home? (h : Host) (account : String) : Option String :=
  if account != "" then h.homes.lookup account
  else (h.environment.get? "HOME").orElse fun _ => h.homes.lookup h.account

/-- Puts the home directory for a tilde and the account after it, where a path begins so. -/
def expandTilde (h : Host) (path : String) : String :=
  match path.toList with
  | '~' :: rest =>
    let account := rest.takeWhile (· != '/')
    match h.home? (String.ofList account) with
    | some directory =>
      let bare := Text.dropTrailing (· == '/') directory.toList
      let whole := String.ofList (bare ++ rest.dropWhile (· != '/'))
      if whole == "" then "/" else whole
    | none => path
  | _ => path

/-- The own home directory. -/
def homeDirectory (h : Host) : Except Document.Fault Path :=
  let path := h.expandTilde "~"
  if path.toList.head? == some '~' then .error .noHome else .ok (.ofString path)

/-- The path from the root, without `..`. -/
def absolute (h : Host) (path : String) : Path :=
  (h.workingDirectory.append (.ofString path)).canonical

end Host

end ClusterMdns
