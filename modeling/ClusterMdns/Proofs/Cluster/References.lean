import ClusterMdns.Proofs.Cluster.Faults
import ClusterMdns.Proofs.Cluster.Rewriting
import ClusterMdns.Proofs.Host.Walk

/-! The files that an access file refers to. Certificates and keys are looked for from the directory of the access file,
wherever the program runs. The file of a token is looked for from the directory in which the program runs, so a relative
one is another file elsewhere. -/

namespace ClusterMdns

theorem Host.expandTilde_of_plain {r : String} (plain : r.toList.head? ≠ some '~') (host : Host) :
    host.expandTilde r = r := by
  unfold Host.expandTilde
  split
  · rename_i chars
    exact absurd (by rw [chars]; rfl) plain
  · rfl

theorem Host.absolute_of_rooted {path : String} (rooted : (Path.ofString path).isAbsolute = true) (host : Host) :
    host.absolute path = (Path.ofString path).canonical := by
  rw [Host.absolute, Path.append, if_pos rooted]

namespace ClusterConfig

open Document

/-! ### What an entry refers to -/

/-- An entry refers to a file by a path: it holds no data, and the account with which the path begins, if it begins
with one, can be asked for. -/
structure Points (entry : Value) (key r : String) : Prop where
  no_data : ∃ data, entry.get (key ++ "-data") = .ok data ∧ data.truthy = false
  named : entry.get key = .ok (.str r)
  some_char : r ≠ ""
  askable : (Text.Surrogate.codes (accountOf '~' '/' r.toList)).any FileSystem.isForeign = false

/-- What an entry refers to where relative paths are seen from the directory `dir`. -/
inductive Refers (host : Host) (dir : Path) (entry : Value) (key : String) : FileReference → Prop
  /-- Data goes before a path. -/
  | data {data : Value} {bytes : List UInt8} (held : entry.get (key ++ "-data") = .ok data)
      (given : data.truthy = true) (decoded : decodeData data = .ok bytes) : Refers host dir entry key (.content bytes)
  | below {r : String} {q : Path} (h : Points entry key r) (meant : q = .ofString (host.expandTilde r))
      (relative : q.isAbsolute = false) :
      Refers host dir entry key (.path (Path.mk dir.slashes (dir.names ++ q.names)).text)
  | absolute {r : String} {q : Path} (h : Points entry key r) (meant : q = .ofString (host.expandTilde r))
      (absolute : q.isAbsolute = true) : Refers host dir entry key (.path q.text)
  | nothing {data path : Value} (held : entry.get (key ++ "-data") = .ok data) (no_data : data.truthy = false)
      (named : entry.get key = .ok path) (no_path : path.truthy = false) : Refers host dir entry key .none

section
variable {host : Host} {dir : Path} {entry : Value} {key r : String}

theorem refers_path_iff {p : String} : Refers host dir entry key (.path p) ↔
    ∃ r, Points entry key r ∧ p = (dir.append (.ofString (host.expandTilde r))).text := by
  constructor
  · intro h
    cases h with
    | @below r q h meant relative =>
      subst meant
      refine ⟨r, h, ?_⟩
      rw [Path.append, if_neg (by simp [relative])]
    | @absolute r q h meant absolute =>
      subst meant
      refine ⟨r, h, ?_⟩
      rw [Path.append, if_pos absolute]
  · rintro ⟨r, h, rfl⟩
    unfold Path.append
    split
    · exact .absolute h rfl ‹_›
    · exact .below h rfl (Bool.eq_false_iff.mpr ‹_›)

theorem pathOf_eq_ok {v : Value} {q : Path} : pathOf host v = .ok q ↔ ∃ r, v = .str r ∧
    (Text.Surrogate.codes (accountOf '~' '/' r.toList)).any FileSystem.isForeign = false ∧
    q = .ofString (host.expandTilde r) := by
  constructor
  · intro h
    unfold pathOf at h
    split at h
    · split at h
      · cases h
      · exact ⟨_, rfl, Bool.eq_false_iff.mpr ‹_›, (Except.ok.inj h).symm⟩
    · cases h
    · cases h
  · rintro ⟨r, rfl, askable, rfl⟩
    rw [pathOf, if_neg (by simp [askable])]

theorem fileReference_eq_ok {found : FileReference} :
    fileReference host dir entry key = .ok found ↔ Refers host dir entry key found := by
  constructor
  · intro h
    obtain ⟨data, held, h⟩ := bind_eq_ok.mp h
    split at h
    · rename_i given
      obtain ⟨bytes, decoded, h⟩ := bind_eq_ok.mp h
      cases h
      exact .data held given decoded
    · rename_i no_data
      have no_data := Bool.eq_false_iff.mpr no_data
      obtain ⟨path, named, h⟩ := bind_eq_ok.mp h
      split at h
      · rename_i given
        obtain ⟨q, read, h⟩ := bind_eq_ok.mp h
        cases h
        obtain ⟨r, rfl, askable, rfl⟩ := pathOf_eq_ok.mp read
        exact refers_path_iff.mpr ⟨r, ⟨⟨data, held, no_data⟩, named, bne_iff_ne.mp given, askable⟩, rfl⟩
      · rename_i no_path
        cases h
        exact .nothing held no_data named (Bool.eq_false_iff.mpr no_path)
  · intro h
    cases found with
    | none =>
      cases h with
      | nothing held no_data named no_path =>
        rw [fileReference, held, ok_bind, no_data, if_neg Bool.false_ne_true, named, ok_bind, no_path]
        rfl
    | path p =>
      obtain ⟨r, ⟨⟨data, held, no_data⟩, named, some_char, askable⟩, rfl⟩ := refers_path_iff.mp h
      have given : (Value.str r).truthy = true := bne_iff_ne.mpr some_char
      rw [fileReference, held, ok_bind, no_data, if_neg Bool.false_ne_true, named, ok_bind, if_pos given,
        pathOf_eq_ok.mpr ⟨r, rfl, askable, rfl⟩]
      rfl
    | content bytes =>
      cases h with
      | data held given decoded =>
        rw [fileReference, held, ok_bind, if_pos given, decoded]
        rfl

end

/-! ### The configuration of a selection -/

/-- The places in a configuration where an access file may refer to a file. -/
inductive FileSlot where
  | authority
  | certificate
  | key
deriving DecidableEq, Repr

namespace FileSlot

/-- The key of the reference. -/
def name : FileSlot → String
  | authority => "certificate-authority"
  | certificate => "client-certificate"
  | key => "client-key"

/-- The entry with the reference. -/
def entry (s : Selection) : FileSlot → Value
  | authority => s.cluster
  | certificate | key => s.user

def held (c : ClusterConfig) : FileSlot → FileReference
  | authority => c.caFile
  | certificate => c.clientCert
  | key => c.clientKey

theorem held_withMaster (master : String) (c : ClusterConfig) (slot : FileSlot) :
    slot.held (withMaster master c) = slot.held c := by
  unfold withMaster
  split
  · cases slot <;> rfl
  · rfl

end FileSlot

theorem token_withMaster (master : String) (c : ClusterConfig) : (withMaster master c).token = c.token := by
  unfold withMaster
  split <;> rfl

section
variable {host : Host} {dir : Path} {s : Selection} {c : ClusterConfig}

theorem refers_of_ofSelection (h : ofSelection host dir s = .ok c) :
    userToken host s.user = .ok c.token ∧
      ∀ slot : FileSlot, Refers host dir (slot.entry s) slot.name (slot.held c) := by
  obtain ⟨token, hoped, h⟩ := bind_eq_ok.mp h
  obtain ⟨config, made, h⟩ := bind_eq_ok.mp h
  cases h
  obtain ⟨authority, ha, made⟩ := bind_eq_ok.mp (lift_eq_ok.mp made)
  obtain ⟨certificate, hc, made⟩ := bind_eq_ok.mp made
  obtain ⟨key, hk, made⟩ := bind_eq_ok.mp made
  obtain ⟨username, -, made⟩ := bind_eq_ok.mp made
  obtain ⟨password, -, made⟩ := bind_eq_ok.mp made
  obtain ⟨skip, -, made⟩ := bind_eq_ok.mp made
  cases made
  refine ⟨hoped, fun slot => ?_⟩
  cases slot with
  | authority => exact fileReference_eq_ok.mp ha
  | certificate => exact fileReference_eq_ok.mp hc
  | key => exact fileReference_eq_ok.mp hk

/-- A token and files that can be had make a configuration. -/
theorem exists_ofSelection {token : Value} (had : userToken host s.user = .ok token)
    (files : ∀ slot : FileSlot, ∃ found, Refers host dir (slot.entry s) slot.name found) :
    ∃ c, ofSelection host dir s = .ok c := by
  have sound (slot : FileSlot) (f : Fault) : ¬ ReferenceFault host (slot.entry s) slot.name f := by
    intro fault
    obtain ⟨found, refers⟩ := files slot
    cases (fileReference_eq_ok.mpr refers).symm.trans (fileReference_eq_error.mpr fault)
  rw [ofSelection, had, ok_bind]
  cases made : withoutToken host dir s with
  | ok c => exact ⟨_, rfl⟩
  | error f =>
    rcases withoutToken_eq_error.mp made with fault | ⟨_, -, fault | ⟨_, -, fault⟩⟩
    · exact absurd fault (sound .authority f)
    · exact absurd fault (sound .certificate f)
    · exact absurd fault (sound .key f)

end

/-! ### The configuration to use -/

section
variable {host : Host} {kubeconfig path : String} {d : Value} {s : Selection}

/-- An access file that is used makes the configuration of its selection. -/
theorem Consults.load_eq (file : Consults host kubeconfig path) (read : readDocument host path = .ok d)
    (selected : select path d = .ok s) (master : String) : load host kubeconfig master =
      (ofSelection host (host.absolute path).parent s).map (withMaster master) := by
  have outer : load host kubeconfig master = outside host kubeconfig master := by
    rw [ClusterConfig.load_eq]
    split
    · rfl
    · rename_i unset
      rw [inCluster_of_none (file.outer.resolve_left fun given => unset (bne_iff_ne.mpr given))]
      rfl
  rw [outer, outside_eq file.access, file.there, lift_ok, ok_bind, if_pos rfl, ofFile, read, ok_bind, selected,
    ok_bind]
  cases ofSelection host (host.absolute path).parent s <;> rfl

theorem Consults.load_eq_ok (file : Consults host kubeconfig path) (read : readDocument host path = .ok d)
    (selected : select path d = .ok s) {master : String} {config : ClusterConfig}
    (loaded : load host kubeconfig master = .ok config) :
    userToken host s.user = .ok config.token ∧
      ∀ slot : FileSlot, Refers host (host.absolute path).parent (slot.entry s) slot.name (slot.held config) := by
  rw [file.load_eq read selected] at loaded
  obtain ⟨c, made, rfl⟩ := map_eq_ok.mp loaded
  obtain ⟨token, files⟩ := refers_of_ofSelection made
  rw [token_withMaster]
  exact ⟨token, fun slot => slot.held_withMaster master c ▸ files slot⟩

/-! ### Another working directory -/

variable {here : FileTree} {wd : Path}

theorem find_moved {p : String} (rooted : p.toList.head? = some '/') :
    (host.moved here wd).files.find p = host.files.find p :=
  FileSystem.find_congr_of_rooted rfl rooted

theorem Consults.moved (file : Consults host kubeconfig path) (rooted : (Path.ofString path).isAbsolute = true) :
    Consults (host.moved here wd) kubeconfig path where
  outer := file.outer
  access := file.access
  there := by
    have front := (Path.tidy_ofString path).head?_text.mpr rooted
    have there := file.there
    rw [FileSystem.exists?, FileSystem.look?] at there ⊢
    rwa [find_moved front]

theorem readDocument_moved (rooted : (Path.ofString path).isAbsolute = true) :
    readDocument (host.moved here wd) path = readDocument host path := by
  rw [readDocument, readDocument, FileSystem.readBytes_congr (find_moved (Path.isAbsolute_ofString.mp rooted))]

theorem ofSelection_moved (apart : ∀ file, TokenFrom s.user file → (Path.ofString file).isAbsolute = true)
    (dir : Path) : ofSelection (host.moved here wd) dir s = ofSelection host dir s := by
  have apart : TokenApart host.files (host.moved here wd).files s.user := fun file held => by
    have front := (Path.tidy_ofString file).head?_text.mpr (apart file held)
    rw [find_moved front]
  rw [ofSelection_congr apart]
  rfl

end

/-! ### Where the files come from -/

theorem readToken_eq_ok {host : Host} {path token : String} {unreadable : Error} :
    readToken host path unreadable = .ok token ↔
      ∃ text, host.files.readText path = .ok text ∧ token = Text.trim text := by
  rw [readToken]
  cases host.files.readText path with
  | ok text => simp [eq_comm]
  | error e => cases e <;> simp

theorem readDocument_place {host : Host} {path : String} {d : Value} (read : readDocument host path = .ok d)
    (placed : (Path.ofString path).isAbsolute = true ∨ host.Settled) :
    host.files.root.HasDirectory (host.absolute path).parent ∧
      ∃ name content, host.files.find path = .ok (.file content) ∧
        host.files.root.at? ((host.absolute path).parent.names ++ [name]) = some (.file content) := by
  obtain ⟨text, held⟩ := readDocument_eq_ok read
  obtain ⟨content, _, found, -, -⟩ := FileSystem.readText_eq_ok.mp held
  obtain ⟨there, directory⟩ := Host.absolute_of_find placed found
  have named : (host.absolute path).names ≠ [] := by
    intro none
    rw [none, directory.top] at there
    cases there
  refine ⟨directory, (host.absolute path).names.getLast named, content, found, ?_⟩
  rw [Path.parent, List.dropLast_concat_getLast, there]

section
variable {host : Host} {dir : Path} {entry : Value} {key : String}

/-- An entry refers to one thing. -/
theorem Points.eq_path {r : String} {found : FileReference} (points : Points entry key r)
    (h : Refers host dir entry key found) : found = .path (dir.append (.ofString (host.expandTilde r))).text := by
  have named : fileReference host dir entry key = .ok (.path (dir.append (.ofString (host.expandTilde r))).text) :=
    fileReference_eq_ok.mpr (refers_path_iff.mpr ⟨r, points, rfl⟩)
  exact Except.ok.inj ((fileReference_eq_ok.mpr h).symm.trans named)

theorem Refers.rooted {p : String} (h : Refers host dir entry key (.path p)) (tidy : dir.Tidy)
    (rooted : dir.isAbsolute = true) : p.toList.head? = some '/' := by
  obtain ⟨r, -, rfl⟩ := refers_path_iff.mp h
  rw [(tidy.append (Path.tidy_ofString _)).head?_text, Path.isAbsolute_append, rooted, Bool.or_true]

end

/-- Where the files are that an access file refers to, for `dir` as its directory. -/
structure Resolves (host : Host) (kubeconfig path : String) (s : Selection) (dir : Path) : Prop where
  /-- The access file is in the directory. -/
  holds (placed : (Path.ofString path).isAbsolute = true ∨ host.Settled) :
    host.files.root.HasDirectory dir ∧ ∃ name content, host.files.find path = .ok (.file content) ∧
      host.files.root.at? (dir.names ++ [name]) = some (.file content)
  /-- There is a configuration as soon as there are a token and what the entries refer to. -/
  loads (master : String) : (∃ config, load host kubeconfig master = .ok config) ↔
    (∃ token, userToken host s.user = .ok token) ∧
      ∀ slot : FileSlot, ∃ found, Refers host dir (slot.entry s) slot.name found
  refers {master : String} {config : ClusterConfig} (loaded : load host kubeconfig master = .ok config)
    (slot : FileSlot) : Refers host dir (slot.entry s) slot.name (slot.held config)
  plain {r : String} (h : r.toList.head? ≠ some '~') : host.expandTilde r = r
  /-- What is looked for is what the reference leads to from the directory. -/
  leads {master : String} {config : ClusterConfig} (loaded : load host kubeconfig master = .ok config)
    (placed : (Path.ofString path).isAbsolute = true ∨ host.Settled) {slot : FileSlot} {r : String}
    (points : Points (slot.entry s) slot.name r) :
    ∃ p, slot.held config = .path p ∧ Path.ofString p = dir.append (.ofString (host.expandTilde r)) ∧
      (FileSystem.Askable p →
        host.files.find p = host.files.root.seenFrom dir (Path.ofString (host.expandTilde r)).text ∧
        ∀ node, host.files.root.seenFrom dir (host.expandTilde r) = .ok node → host.files.find p = .ok node)
  /-- A token is read from what its path leads to from the working directory. -/
  token {master file : String} {config : ClusterConfig} (loaded : load host kubeconfig master = .ok config)
    (held : TokenFrom s.user file) (placed : (Path.ofString file).isAbsolute = true ∨ host.Settled) :
    ∃ content cs,
      host.files.root.seenFrom host.workingDirectory (Path.ofString file).text = .ok (.file content) ∧
      Text.Utf8.decode? content = some cs ∧
      config.token = .str (Text.trim (String.ofList (Text.unifyLineEnds cs)))
  /-- The certificates and keys of an access file with an absolute path are the same wherever the program runs. -/
  moved (rooted : (Path.ofString path).isAbsolute = true) (here : FileTree) (wd : Path) (slot : FileSlot) :
    (∀ found,
      Refers (host.moved here wd) ((host.moved here wd).absolute path).parent (slot.entry s) slot.name found ↔
        Refers host dir (slot.entry s) slot.name found) ∧
    ∀ p, Refers host dir (slot.entry s) slot.name (.path p) →
      (host.moved here wd).files.find p = host.files.find p
  /-- So is all of the configuration, unless the path of a file with a token is relative. -/
  moved_load (rooted : (Path.ofString path).isAbsolute = true)
    (apart : ∀ file, TokenFrom s.user file → (Path.ofString file).isAbsolute = true) (here : FileTree) (wd : Path)
    (master : String) : load (host.moved here wd) kubeconfig master = load host kubeconfig master

theorem references_below_directory {host : Host} {kubeconfig path : String} {d : Value} {s : Selection}
    (file : Consults host kubeconfig path) (read : readDocument host path = .ok d) (selected : select path d = .ok s) :
    Resolves host kubeconfig path s (host.absolute path).parent where
  holds := readDocument_place read
  loads master := by
    rw [file.load_eq read selected]
    constructor
    · rintro ⟨config, loaded⟩
      obtain ⟨c, made, -⟩ := map_eq_ok.mp loaded
      obtain ⟨token, files⟩ := refers_of_ofSelection made
      exact ⟨⟨_, token⟩, fun slot => ⟨_, files slot⟩⟩
    · rintro ⟨⟨token, had⟩, files⟩
      obtain ⟨c, made⟩ := exists_ofSelection had files
      exact ⟨_, map_eq_ok.mpr ⟨c, made, rfl⟩⟩
  refers loaded := (file.load_eq_ok read selected loaded).2
  plain h := Host.expandTilde_of_plain h host
  leads loaded placed slot r points := by
    have held := points.eq_path ((file.load_eq_ok read selected loaded).2 slot)
    have directory := (readDocument_place read placed).1
    have tidy := Path.tidy_ofString (host.expandTilde r)
    refine ⟨_, held, (directory.tidy.append tidy).ofString_text, fun askable => ?_⟩
    have same := FileSystem.find_append directory tidy askable
    exact ⟨same, fun node found => same.trans (directory.seenFrom_tidied found)⟩
  token {master tokenFile config} loaded held placed := by
    have token := (file.load_eq_ok read selected loaded).1
    rw [userToken_of_file held] at token
    obtain ⟨t, had, token⟩ := map_eq_ok.mp token
    obtain ⟨text, held, rfl⟩ := readToken_eq_ok.mp had
    obtain ⟨content, cs, found, decoded, rfl⟩ := FileSystem.readText_eq_ok.mp held
    refine ⟨content, cs, ?_, decoded, token.symm⟩
    have placed : (Path.ofString (Path.ofString tokenFile).text).isAbsolute = true ∨ host.Settled := by
      rwa [(Path.tidy_ofString tokenFile).isAbsolute_text]
    exact Host.seenFrom_of_find placed found
  moved rooted here wd slot := by
    rw [Host.absolute_of_rooted rooted, Host.absolute_of_rooted rooted]
    refine ⟨fun found => ?_, fun p h => ?_⟩
    · rw [← fileReference_eq_ok, ← fileReference_eq_ok]
      rfl
    · exact find_moved (h.rooted (Path.tidy_ofString path).canonical.parent rooted)
  moved_load rooted apart here wd master := by
    have document : readDocument (host.moved here wd) path = .ok d := (readDocument_moved rooted).trans read
    rw [(file.moved rooted).load_eq document selected, file.load_eq read selected, ofSelection_moved apart,
      Host.absolute_of_rooted rooted, Host.absolute_of_rooted rooted]

/-! ### A machine with two tokens -/

/-- A directory with an access file and a token, and another directory with another token. -/
def twoTokens (content : List UInt8) : FileTree :=
  [(["kube", "config"], .file content), (["kube", "ca.crt"], .file []), (["ssl", "me.crt"], .file []),
    (["kube", "k"], .file (Text.Utf8.encode "right".toList)), (["run", "k"], .file (Text.Utf8.encode "wrong".toList))]

/-- The machine, with the program in one of the directories. -/
def hostIn (dir : String) (content : List UInt8) : Host :=
  Host.movedTo { files := { root := twoTokens content }, environment := [] } ⟨1, [dir]⟩

section
variable {dir : String} {content : List UInt8}

theorem hasDirectory_twoTokens (there : dir = "kube" ∨ dir = "run") :
    (twoTokens content).HasDirectory ⟨1, [dir]⟩ := by
  have name : PathName "kube" ∧ PathName "run" := by
    constructor <;> exact ⟨by decide, by decide, by simp⟩
  rcases there with rfl | rfl
  · exact ⟨⟨by decide, by simp [name]⟩, rfl, .within .top rfl ⟨rfl, by decide, by decide⟩, rfl⟩
  · exact ⟨⟨by decide, by simp [name]⟩, rfl, .within .top rfl ⟨rfl, by decide, by decide⟩, rfl⟩

theorem settled_hostIn (there : dir = "kube" ∨ dir = "run") : (hostIn dir content).Settled :=
  Host.settled_movedTo (hasDirectory_twoTokens there)

theorem consults_hostIn : Consults (hostIn dir content) "/kube/config" "/kube/config" where
  outer := .inl (by decide)
  access := rfl
  there := rfl

theorem find_hostIn : (hostIn dir content).files.find "/kube/config" = .ok (.file content) := rfl

end

/-- An access file with references of each kind. -/
def referringLines : List String :=
  ["current-context: d", "contexts:", "- name: d", "  context:", "    cluster: c", "    user: u",
    "clusters:", "- name: c", "  cluster:", "    server: s", "    certificate-authority: ca.crt",
    "users:", "- name: u", "  user:", "    client-certificate: /ssl/me.crt", "    client-key: me.key",
    "    client-key-data: aw==", "    tokenFile: /kube/k"]

def referringChars : List Char :=
  referringLines.flatMap fun line => line.toList ++ ['\n']

def referringSelection : Selection where
  cluster := .dict [(.str "server", .str "s"), (.str "certificate-authority", .str "ca.crt")]
  user := .dict [(.str "client-certificate", .str "/ssl/me.crt"), (.str "client-key", .str "me.key"),
    (.str "client-key-data", .str "aw=="), (.str "tokenFile", .str "/kube/k")]
  server := .str "s"

def referringDocument : Value :=
  .dict [(.str "current-context", .str "d"),
    (.str "contexts", .list [.dict [(.str "name", .str "d"),
      (.str "context", .dict [(.str "cluster", .str "c"), (.str "user", .str "u")])]]),
    (.str "clusters", .list [.dict [(.str "name", .str "c"), (.str "cluster", referringSelection.cluster)]]),
    (.str "users", .list [.dict [(.str "name", .str "u"), (.str "user", referringSelection.user)]])]

def referringHost : Host :=
  hostIn "run" (Text.Utf8.encode referringChars)

theorem readDocument_referringHost : readDocument referringHost "/kube/config" = .ok referringDocument := by
  have read : (Yaml.read (.ofBytes (Text.Utf8.encode referringChars))).toOption = some referringDocument := by
    decide +kernel
  exact readDocument_of_find find_hostIn (eq_ok_of_toOption read) rfl

def referringConfig : ClusterConfig where
  server := .str "s"
  token := .str "right"
  caFile := .path "/kube/ca.crt"
  clientCert := .path "/ssl/me.crt"
  clientKey := .content [107]

theorem references_below_directory_kube :
    load referringHost "/kube/config" "" = .ok referringConfig ∧
    referringHost.files.find "/kube/ca.crt" = .ok (.file []) ∧
    load (referringHost.moved [] ⟨1, []⟩) "/kube/config" "" = .ok referringConfig := by
  have selected : select "/kube/config" referringDocument = .ok referringSelection := rfl
  have file : Consults referringHost "/kube/config" "/kube/config" := consults_hostIn
  have resolves := references_below_directory file readDocument_referringHost selected
  have made : (ofSelection referringHost (referringHost.absolute "/kube/config").parent referringSelection).toOption =
      some referringConfig := by
    decide +kernel
  have loaded : load referringHost "/kube/config" "" = .ok referringConfig := by
    rw [file.load_eq readDocument_referringHost selected, eq_ok_of_toOption made]
    rfl
  have rooted : (Path.ofString "/kube/config").isAbsolute = true := by decide
  refine ⟨loaded, ?_, ?_⟩
  · have points : Points (FileSlot.authority.entry referringSelection) FileSlot.authority.name "ca.crt" :=
      ⟨⟨.null, rfl, rfl⟩, rfl, by decide, by decide⟩
    obtain ⟨p, held, -, leads⟩ := resolves.leads loaded (.inl rooted) points
    obtain rfl : "/kube/ca.crt" = p := FileReference.path.inj held
    exact (leads ⟨by decide, by decide⟩).2 _ rfl
  · rw [resolves.moved_load rooted ?_, loaded]
    intro tokenFile held
    obtain rfl : "/kube/k" = tokenFile := Scalar.str.inj (Value.scalar.inj (Except.ok.inj held.pointed))
    decide

theorem readDocument_hostIn (dir : String) :
    readDocument (hostIn dir (bytesFor false)) "/kube/config" = .ok (documentFor false) :=
  readDocument_of_find find_hostIn (eq_ok_of_toOption (read_bytesFor false)) rfl

/-- A relative path of a file with a token leads to what is beside the access file only where the program runs there
too. -/
theorem relative_token_elsewhere :
    (hostIn "run" (bytesFor false)).Settled ∧ (hostIn "kube" (bytesFor false)).Settled ∧
    (twoTokens (bytesFor false)).seenFrom ⟨1, ["kube"]⟩ "k" = .ok (.file (Text.Utf8.encode "right".toList)) ∧
    load (hostIn "run" (bytesFor false)) "/kube/config" "" = .ok { server := .str "s", token := .str "wrong" } ∧
    load (hostIn "kube" (bytesFor false)) "/kube/config" "" = .ok { server := .str "s", token := .str "right" } := by
  have loaded (dir token : String) (made : (ofSelection (hostIn dir (bytesFor false))
        ((hostIn dir (bytesFor false)).absolute "/kube/config").parent
        { cluster := .dict [(.str "server", .str "s")], user := .dict [(.str "tokenFile", .str "k")],
          server := .str "s" }).toOption = some { server := .str "s", token := .str token }) :
      load (hostIn dir (bytesFor false)) "/kube/config" "" = .ok { server := .str "s", token := .str token } := by
    rw [consults_hostIn.load_eq (readDocument_hostIn dir) (select_documentFor "/kube/config" false),
      eq_ok_of_toOption made]
    rfl
  exact ⟨settled_hostIn (.inr rfl), settled_hostIn (.inl rfl), rfl, loaded "run" "wrong" (by decide +kernel),
    loaded "kube" "right" (by decide +kernel)⟩

end ClusterConfig

end ClusterMdns
