import ClusterMdns.Proofs.Cluster.Selection
import ClusterMdns.Proofs.Document.Equality
import ClusterMdns.Proofs.Document.Yaml.Ending
import ClusterMdns.Proofs.Host.Rewriting

/-! An access file that is rewritten. As long as the same is selected in it, the configuration stays the same, and so
does the error if there is none. Only where a token is read from the access file itself it shows the change. -/

namespace ClusterMdns.ClusterConfig

open Document

/-! ### Tokens -/

variable {α : Type}

/-- The same error, or configurations that differ in nothing but the token. -/
def SameButToken (x y : Except Error ClusterConfig) : Prop :=
  x = y ∨ ∃ (c : ClusterConfig) (t u : Value), x = .ok { c with token := t } ∧ y = .ok { c with token := u }

theorem SameButToken.after {first : Except Error α} {later other : α → Except Error ClusterConfig}
    (h : ∀ a, SameButToken (later a) (other a)) : SameButToken (first >>= later) (first >>= other) := by
  cases first with
  | error e => exact .inl rfl
  | ok a => exact h a

theorem SameButToken.withMaster {x y : Except Error ClusterConfig} (h : SameButToken x y) (master : String) :
    SameButToken (x >>= fun c => .ok (withMaster master c)) (y >>= fun c => .ok (withMaster master c)) := by
  rcases h with rfl | ⟨c, t, u, rfl, rfl⟩
  · exact .inl rfl
  · refine .inr ⟨ClusterConfig.withMaster master c, t, u, ?_, ?_⟩ <;>
      · simp only [ok_bind, ClusterConfig.withMaster]
        split <;> rfl

/-- The token of a user is read from a file under a fixed path, or does not depend on the machine. -/
theorem userToken_cases (user : Value) : (∃ x, ∀ host, userToken host user = x) ∨
    ∃ s, TokenFrom user s := by
  cases named : user.get "token" with
  | error f =>
    refine .inl ⟨.error (.fault f), fun host => ?_⟩
    rw [userToken, named]
    rfl
  | ok token =>
    cases given : token.truthy with
    | true => exact .inl ⟨.ok token, userToken_of_given named given⟩
    | false =>
      have from_file := userToken_of_nothing named given
      cases pointed : user.get "tokenFile" with
      | error f => exact .inl ⟨.error (.fault f), fun host => by rw [from_file, pointed]; rfl⟩
      | ok file =>
        simp only [from_file, pointed, lift_ok, ok_bind]
        cases wanted : file.truthy with
        | false => exact .inl ⟨.ok (.str ""), fun _ => rfl⟩
        | true =>
          by_cases text : ∃ s, file = .str s
          · obtain ⟨s, rfl⟩ := text
            exact .inr ⟨s, ⟨token, named, given⟩, pointed, bne_iff_ne.mp wanted⟩
          · have other (s : String) : file ≠ .str s := fun h => text ⟨s, h⟩
            exact .inl ⟨.error (.fault .wrongKind), tokenAt_of_no_text other⟩

/-! ### An access file that is rewritten -/

/-- An access file that is a document is a text. -/
theorem readDocument_eq_ok {host : Host} {path : String} {d : Value} (h : readDocument host path = .ok d) :
    ∃ text, host.files.readText path = .ok text := by
  unfold readDocument at h
  split at h
  · rename_i content held
    split at h
    · rename_i v read
      obtain ⟨cs, decoded, -⟩ := Yaml.text_of_read read
      exact ⟨_, FileSystem.readText_eq_ok.mpr ⟨content, cs, FileSystem.readBytes_eq_ok.mp held, decoded, rfl⟩⟩
    all_goals cases h
  all_goals cases h

theorem readDocument_of_find {host : Host} {path : String} {content : List UInt8} {d : Value}
    (h : host.files.find path = .ok (.file content)) (read : Yaml.read (.ofBytes content) = .ok d)
    (given : d.truthy = true) : readDocument host path = .ok d := by
  rw [readDocument, FileSystem.readBytes_eq_ok.mpr h]
  simp only [read, Value.orElse, given, if_true]

/-- What the access file under a path says is replaced, on a machine that otherwise stays as it is. -/
structure Reread (host : Host) (path : String) (files : FileSystem) (d e : Value) : Prop where
  rewritten : ∃ old new, FileSystem.Rewritten path old new host.files files
  before : readDocument host path = .ok d
  after : readDocument { host with files } path = .ok e

section
variable {host : Host} {path : String} {files : FileSystem} {d e : Value}

theorem readToken_congr {p : String} (h : host.files.find p = files.find p) (unreadable : Error) :
    readToken host p unreadable = readToken { host with files } p unreadable := by
  rw [readToken, readToken, FileSystem.readText_congr h]

/-- A token that is in the access file itself is all of its text. -/
theorem Reread.readToken_cases (h : Reread host path files d e) (p : String) (unreadable : Error) :
    readToken host p unreadable = readToken { host with files } p unreadable ∨
      ∃ t u, readToken host p unreadable = .ok t ∧ readToken { host with files } p unreadable = .ok u := by
  obtain ⟨old, new, rewritten⟩ := h.rewritten
  rcases rewritten.anywhere p with same | ⟨before, after⟩
  · exact .inl (readToken_congr same unreadable)
  · obtain ⟨text, old_text⟩ := readDocument_eq_ok h.before
    obtain ⟨other, new_text⟩ := readDocument_eq_ok h.after
    rw [← FileSystem.readText_of_find rewritten.before before] at old_text
    rw [← FileSystem.readText_of_find rewritten.after after] at new_text
    refine .inr ⟨Text.trim text, Text.trim other, ?_, ?_⟩
    · rw [readToken, old_text]
    · rw [readToken, new_text]

/-- The file in which the token of a user is looked for, if it is, is the same in both file systems. -/
def TokenApart (fs gs : FileSystem) (user : Value) : Prop :=
  ∀ s, TokenFrom user s → fs.find (Path.ofString s).text = gs.find (Path.ofString s).text

theorem userToken_congr {user : Value} (apart : TokenApart host.files files user) :
    userToken host user = userToken { host with files } user := by
  rcases userToken_cases user with ⟨x, hx⟩ | ⟨s, held⟩
  · rw [hx, hx]
  · rw [userToken_of_file held, userToken_of_file held, tokenAt, tokenAt, readToken_congr (apart s held)]

theorem Reread.userToken_cases (h : Reread host path files d e) (user : Value) :
    userToken host user = userToken { host with files } user ∨
      ∃ t u, userToken host user = .ok t ∧ userToken { host with files } user = .ok u := by
  rcases ClusterConfig.userToken_cases user with ⟨x, hx⟩ | ⟨s, held⟩
  · exact .inl (by rw [hx, hx])
  · rw [userToken_of_file held, userToken_of_file held, tokenAt, tokenAt]
    rcases h.readToken_cases (Path.ofString s).text (.unreadableTokenFile (.str s)) with same | ⟨t, u, before, after⟩
    · exact .inl (by rw [same])
    · exact .inr ⟨.str t, .str u, by rw [before]; rfl, by rw [after]; rfl⟩

/-- But for tokens no file is read for a selection. -/
theorem withoutToken_files (host : Host) (files : FileSystem) (base : Path) (s : Selection) :
    withoutToken { host with files } base s = withoutToken host base s := rfl

theorem ofSelection_congr {s : Selection} (apart : TokenApart host.files files s.user) (base : Path) :
    ofSelection host base s = ofSelection { host with files } base s := by
  rw [ofSelection, ofSelection, userToken_congr apart, withoutToken_files host files]

theorem Reread.ofSelection_sameButToken (h : Reread host path files d e) (base : Path) (s : Selection) :
    SameButToken (ofSelection host base s) (ofSelection { host with files } base s) := by
  rw [ofSelection, ofSelection, withoutToken_files host files]
  rcases h.userToken_cases s.user with same | ⟨t, u, before, after⟩
  · exact .inl (by rw [same])
  · rw [before, after, ok_bind, ok_bind]
    cases withoutToken host base s with
    | error f => exact .inl rfl
    | ok c => exact .inr ⟨c, t, u, rfl, rfl⟩

theorem Reread.ofFile_eq (h : Reread host path files d e) (same : SameSelection d e) :
    ofFile host path = (select path d >>= ofSelection host (host.absolute path).parent) ∧
    ofFile { host with files } path =
      select path d >>= ofSelection { host with files } (host.absolute path).parent := by
  rw [ofFile, ofFile, h.before, h.after, ok_bind, ok_bind, select_congr same]
  exact ⟨rfl, rfl⟩

theorem Reread.ofFile_congr (h : Reread host path files d e) (same : SameSelection d e)
    (apart : ∀ s, select path d = .ok s → TokenApart host.files files s.user) :
    ofFile host path = ofFile { host with files } path := by
  obtain ⟨before, after⟩ := h.ofFile_eq same
  rw [before, after]
  exact bind_congr_of_ok fun s hs => ofSelection_congr (apart s hs) _

theorem Reread.ofFile_sameButToken (h : Reread host path files d e) (same : SameSelection d e) :
    SameButToken (ofFile host path) (ofFile { host with files } path) := by
  obtain ⟨before, after⟩ := h.ofFile_eq same
  rw [before, after]
  exact SameButToken.after fun s => h.ofSelection_sameButToken _ s

theorem Reread.exists?_eq (h : Reread host path files d e) (p : Path) : host.files.exists? p = files.exists? p := by
  obtain ⟨_, _, rewritten⟩ := h.rewritten
  exact rewritten.exists? p

/-! ### The configuration to use -/

section
variable {kubeconfig : String} (access : accessFile host kubeconfig = .ok path)
include access

theorem Reread.outside_congr (h : Reread host path files d e) (same : SameSelection d e)
    (apart : ∀ s, select path d = .ok s → TokenApart host.files files s.user) (master : String) :
    outside host kubeconfig master = outside { host with files } kubeconfig master := by
  have elsewhere : accessFile { host with files } kubeconfig = .ok path := access
  rw [outside_eq access, outside_eq elsewhere, h.exists?_eq, h.ofFile_congr same apart]

theorem Reread.outside_sameButToken (h : Reread host path files d e) (same : SameSelection d e) (master : String) :
    SameButToken (outside host kubeconfig master) (outside { host with files } kubeconfig master) := by
  have elsewhere : accessFile { host with files } kubeconfig = .ok path := access
  rw [outside_eq access, outside_eq elsewhere, h.exists?_eq]
  refine SameButToken.after fun found => ?_
  split
  · exact (h.ofFile_sameButToken same).withMaster master
  · exact .inl rfl

end

/-- In the cluster nothing but the token is read from a file. -/
theorem inCluster_eq (files : FileSystem) : inCluster { host with files } =
    match server? host with
    | none => .ok none
    | some server => readToken { host with files } (tokenFile host) .unreadableToken >>= fun token =>
        lift (files.exists? (authorityFile host)) >>= fun known =>
          .ok (some { server := .str server, token := .str token,
                      caFile := if known then .path (authorityFile host).text else .none }) := rfl

theorem Reread.inCluster_congr (h : Reread host path files d e)
    (apart : host.files.find (tokenFile host) = files.find (tokenFile host)) :
    inCluster host = inCluster { host with files } := by
  rw [inCluster_eq files, ← readToken_congr apart, ← h.exists?_eq]
  rfl

theorem Reread.inCluster_cases (h : Reread host path files d e) : inCluster host = inCluster { host with files } ∨
    ∃ (c : ClusterConfig) (t u : Value), inCluster host = .ok (some { c with token := t }) ∧
      inCluster { host with files } = .ok (some { c with token := u }) := by
  have here : inCluster host = inCluster { host with files := host.files } := rfl
  rw [here, inCluster_eq host.files, inCluster_eq files, ← h.exists?_eq]
  cases server? host with
  | none => exact .inl rfl
  | some server =>
    rcases h.readToken_cases (tokenFile host) .unreadableToken with same | ⟨t, u, before, after⟩
    · exact .inl (by rw [← same])
    · dsimp only
      rw [before, after, ok_bind, ok_bind]
      cases host.files.exists? (authorityFile host) with
      | error f => exact .inl rfl
      | ok known =>
        let ca : FileReference := if known then .path (authorityFile host).text else .none
        exact .inr ⟨{ server := .str server, caFile := ca }, .str t, .str u, rfl, rfl⟩

/-- No token is read from the access file: neither that of the service account, where that is used, nor else that of
the user who is selected. -/
structure TokensApart (host : Host) (files : FileSystem) (kubeconfig path : String) (d : Value) : Prop where
  account (unset : kubeconfig = "") (inside : server? host ≠ none) :
    host.files.find (tokenFile host) = files.find (tokenFile host)
  user (outer : kubeconfig ≠ "" ∨ server? host = none) {s : Selection} (h : select path d = .ok s) :
    TokenApart host.files files s.user

theorem Reread.load_congr {kubeconfig : String} (access : accessFile host kubeconfig = .ok path)
    (h : Reread host path files d e) (same : SameSelection d e) (apart : TokensApart host files kubeconfig path d)
    (master : String) : load host kubeconfig master = load { host with files } kubeconfig master := by
  have elsewhere (outer : kubeconfig ≠ "" ∨ server? host = none) :=
    h.outside_congr access same (fun _ => apart.user outer) master
  by_cases given : kubeconfig = ""
  · subst given
    by_cases inside : server? host = none
    · have nowhere : server? { host with files } = none := inside
      rw [load_eq, load_eq, inCluster_of_none inside, inCluster_of_none nowhere, elsewhere (.inr inside)]
    · rw [load_eq, load_eq, ← h.inCluster_congr (apart.account rfl inside)]
      refine bind_congr_of_ok fun found origin => ?_
      cases found with
      | none => exact absurd (server?_of_inCluster origin) inside
      | some config => rfl
  · rw [load_of_given given, load_of_given given, elsewhere (.inl given)]

theorem Reread.load_sameButToken {kubeconfig : String} (access : accessFile host kubeconfig = .ok path)
    (h : Reread host path files d e) (same : SameSelection d e) (master : String) :
    SameButToken (load host kubeconfig master) (load { host with files } kubeconfig master) := by
  have without := h.outside_sameButToken access same master
  rw [load_eq, load_eq]
  split
  · exact without
  · rcases h.inCluster_cases with equal | ⟨c, t, u, before, after⟩
    · rw [← equal]
      refine SameButToken.after fun found => ?_
      cases found with
      | none => exact without
      | some config => exact .inl rfl
    · rw [before, after]
      exact SameButToken.withMaster (.inr ⟨c, t, u, rfl, rfl⟩) master

end

/-! ### What a configuration depends on -/

/-- Outside the cluster all comes of an access file, or else of the server alone. -/
theorem load_outside {host : Host} {kubeconfig master : String} {c : ClusterConfig}
    (outer : kubeconfig ≠ "" ∨ server? host = none) (h : load host kubeconfig master = .ok c) :
    outside host kubeconfig master = .ok c := by
  by_cases given : kubeconfig = ""
  · have nowhere := inCluster_of_none (outer.resolve_left fun h => h given)
    rw [load_eq, nowhere] at h
    subst given
    exact h
  · rwa [load_of_given given] at h

theorem outside_cases {host : Host} {kubeconfig path master : String} {c : ClusterConfig}
    (access : accessFile host kubeconfig = .ok path) (h : outside host kubeconfig master = .ok c) :
    (∃ config, ofFile host path = .ok config ∧ c = withMaster master config) ∨ c = { server := .str master } := by
  rw [outside_eq access] at h
  obtain ⟨found, -, h⟩ := bind_eq_ok.mp h
  split at h
  · obtain ⟨config, made, h⟩ := bind_eq_ok.mp h
    exact .inl ⟨config, made, (Except.ok.inj h).symm⟩
  · split at h
    · exact .inr (Except.ok.inj h).symm
    · cases h

theorem withMaster_of_ne {master : String} (given : master ≠ "") (c : ClusterConfig) :
    withMaster master c = { c with server := .str master } :=
  if_pos (bne_iff_ne.mpr given)

theorem outside_with_master {host : Host} {kubeconfig master : String} {c : ClusterConfig}
    (given : master ≠ "") (h : outside host kubeconfig "" = .ok c) :
    outside host kubeconfig master = .ok { c with server := .str master } := by
  obtain ⟨path, access, -⟩ := bind_eq_ok.mp h
  have access := lift_eq_ok.mp access
  rw [outside_eq access] at h ⊢
  obtain ⟨found, asked, h⟩ := bind_eq_ok.mp h
  rw [asked, ok_bind]
  cases found with
  | false => cases h
  | true =>
    obtain ⟨config, made, h⟩ := bind_eq_ok.mp h
    cases h
    rw [if_pos rfl, made, ok_bind, withMaster_of_ne given]
    rfl

theorem load_with_master {host : Host} {kubeconfig master : String} {c : ClusterConfig}
    (given : master ≠ "") (h : load host kubeconfig "" = .ok c) :
    load host kubeconfig master = .ok { c with server := .str master } := by
  rw [load_eq] at h ⊢
  obtain ⟨found, origin, h⟩ := bind_eq_ok.mp h
  rw [origin, ok_bind]
  cases found with
  | none => exact outside_with_master given h
  | some config =>
    cases h
    exact congrArg Except.ok (withMaster_of_ne given _)

/-- How the configuration depends on the access file and on `master`. -/
structure Selects (host : Host) (kubeconfig : String) : Prop where
  /-- Entries that the current context does not name have no part in it, but in a token that is read from the access
  file itself. -/
  unmixed {path : String} {files : FileSystem} {d e : Value} (access : accessFile host kubeconfig = .ok path)
    (reread : Reread host path files d e) (same : SameSelection d e) (master : String) :
    SameButToken (load host kubeconfig master) (load { host with files } kubeconfig master)
  /-- They have no part at all if no token is read from there. -/
  apart {path : String} {files : FileSystem} {d e : Value} (access : accessFile host kubeconfig = .ok path)
    (reread : Reread host path files d e) (same : SameSelection d e)
    (apart : TokensApart host files kubeconfig path d) (master : String) :
    load host kubeconfig master = load { host with files } kubeconfig master
  nobody {path master : String} {d context name : Value} {config : ClusterConfig}
    (outer : kubeconfig ≠ "" ∨ server? host = none) (access : accessFile host kubeconfig = .ok path)
    (read : readDocument host path = .ok d) (current : ContextOf d context)
    (named : context.get "user" = .ok name) (none : name.truthy = false)
    (loaded : load host kubeconfig master = .ok config) : Anonymous config
  master {config : ClusterConfig} (loaded : load host kubeconfig "" = .ok config) {master : String}
    (given : master ≠ "") : load host kubeconfig master = .ok { config with server := .str master }

/-- The current context alone decides, and `master` replaces the server. -/
theorem current_context_decides (host : Host) (kubeconfig : String) : Selects host kubeconfig where
  unmixed access reread same := reread.load_sameButToken access same
  apart access reread same apart := reread.load_congr access same apart
  nobody {path master d context name config} outer access read current named none loaded := by
    rcases outside_cases access (load_outside outer loaded) with ⟨c, made, rfl⟩ | rfl
    · exact (ofFile_anonymous read current named none made).withMaster master
    · exact ⟨rfl, rfl, rfl, rfl, rfl⟩
  master loaded _ given := load_with_master given loaded

/-! ### Two access files of one selection -/

theorem SameSelection.of_entries {d e current userName : Value} {fields : List (Scalar × Value)}
    {clusterName : Option Value} (hd : d.get "current-context" = .ok current)
    (he : e.get "current-context" = .ok current) (context : entryNamed? d "contexts" current = .ok (some fields))
    (context' : entryNamed? e "contexts" current = .ok (some fields))
    (cluster : (contentOf "context" fields).get? "cluster" = .ok clusterName)
    (clusters : entryNamed? d "clusters" (clusterName.getD (.str "")) =
      entryNamed? e "clusters" (clusterName.getD (.str "")))
    (user : (contentOf "context" fields).get "user" = .ok userName)
    (users : entryNamed? d "users" userName = entryNamed? e "users" userName) : SameSelection d e := by
  have only {c : Value} (h : ContextOf d c) : c = contentOf "context" fields := by
    obtain ⟨current', fields', hd', -, found, rfl⟩ := h
    cases hd.symm.trans hd'
    cases context.symm.trans found
    rfl
  exact {
    current := hd.trans he.symm
    context := fun h _ => by
      cases hd.symm.trans h
      rw [context, context']
    cluster := fun h name named => by
      cases only h
      cases cluster.symm.trans named
      exact clusters
    user := fun h name named _ => by
      cases only h
      cases user.symm.trans named
      exact users }

/-- An access file with one context, whose user has a token in the file `k`, line by line. -/
def accessLines (others : List String) : List String :=
  ["current-context: d", "contexts:", "- name: d", "  context:", "    cluster: c", "    user: u",
    "clusters:", "- name: c", "  cluster:", "    server: s", "users:"] ++ others ++
    ["- name: u", "  user:", "    tokenFile: k"]

def entry (name kind key value : String) : Value :=
  .dict [(.str "name", .str name), (.str kind, .dict [(.str key, .str value)])]

def accessDocument (others : List Value) : Value :=
  .dict [(.str "current-context", .str "d"),
    (.str "contexts", .list [.dict [(.str "name", .str "d"),
      (.str "context", .dict [(.str "cluster", .str "c"), (.str "user", .str "u")])]]),
    (.str "clusters", .list [entry "c" "cluster" "server" "s"]),
    (.str "users", .list (others ++ [entry "u" "user" "tokenFile" "k"]))]

/-- The characters of an access file for one user, and for another one before. -/
def charsFor (more : Bool) : List Char :=
  let others := if more then ["- name: v", "  user:", "    token: t"] else []
  (accessLines others).flatMap fun line => line.toList ++ ['\n']

def textFor (more : Bool) : String :=
  String.ofList (charsFor more)

def documentFor : Bool → Value
  | false => accessDocument []
  | true => accessDocument [entry "v" "user" "token" "t"]

theorem sameSelection_textFor : SameSelection (documentFor false) (documentFor true) := by
  have context (more : Bool) : (entryNamed? (documentFor more) "contexts" (.str "d")).toOption =
      some (some [(.str "name", .str "d"),
        (.str "context", .dict [(.str "cluster", .str "c"), (.str "user", .str "u")])]) := by
    cases more <;> decide +kernel
  have cluster (more : Bool) : (entryNamed? (documentFor more) "clusters" (.str "c")).toOption =
      some (some [(.str "name", .str "c"), (.str "cluster", .dict [(.str "server", .str "s")])]) := by
    cases more <;> decide +kernel
  have user (more : Bool) : (entryNamed? (documentFor more) "users" (.str "u")).toOption =
      some (some [(.str "name", .str "u"), (.str "user", .dict [(.str "tokenFile", .str "k")])]) := by
    cases more <;> decide +kernel
  refine .of_entries rfl rfl (eq_ok_of_toOption (context false)) (eq_ok_of_toOption (context true)) rfl ?_ rfl ?_
  · exact (eq_ok_of_toOption (cluster false)).trans (eq_ok_of_toOption (cluster true)).symm
  · exact (eq_ok_of_toOption (user false)).trans (eq_ok_of_toOption (user true)).symm

/-- The directory of an access file, with a token beside it. -/
def accessFiles (name : String) (content : List UInt8) : FileSystem where
  here := [([name], .file content), (["k"], .file (Text.Utf8.encode "secret".toList))]

def bytesFor (more : Bool) : List UInt8 :=
  Text.Utf8.encode (charsFor more)

theorem read_bytesFor (more : Bool) : (Yaml.read (.ofBytes (bytesFor more))).toOption = some (documentFor more) := by
  cases more <;> decide +kernel

def accessHost (name : String) (more : Bool) : Host where
  files := accessFiles name (bytesFor more)
  environment := []

deriving instance DecidableEq for ClusterConfig
deriving instance DecidableEq for Selection

theorem readText_k (more : Bool) : (accessFiles "k" (bytesFor more)).readText "k" = .ok (textFor more) := by
  have found : (accessFiles "k" (bytesFor more)).find "k" = .ok (.file (bytesFor more)) := rfl
  have decoded : (Text.Utf8.decode? (bytesFor more)).map Text.unifyLineEnds = some (charsFor more) := by
    cases more <;> decide +kernel
  obtain ⟨cs, decoded, unified⟩ := Option.map_eq_some_iff.mp decoded
  rw [FileSystem.readText, FileSystem.readBytes_eq_ok.mpr found, ok_bind]
  simp only [decoded, unified]
  rfl

section
variable {name : String} (found : ∀ content, (accessFiles name content).find name = .ok (.file content))
include found

theorem readDocument_accessHost (more : Bool) : readDocument (accessHost name more) name = .ok (documentFor more) := by
  exact readDocument_of_find (found _) (eq_ok_of_toOption (read_bytesFor more)) (by cases more <;> rfl)

theorem rewritten_accessFiles (old new : List UInt8) :
    FileSystem.Rewritten name old new (accessFiles name old) (accessFiles name new) where
  before := found old
  after := found new
  anywhere := FileSystem.find_rewritten (FileTree.rewritten_entry [] [name] _) (FileTree.rewritten_self _)

theorem reread_accessHost : Reread (accessHost name false) name (accessFiles name (bytesFor true))
    (documentFor false) (documentFor true) where
  rewritten := ⟨bytesFor false, bytesFor true, rewritten_accessFiles found _ _⟩
  before := readDocument_accessHost found false
  after := readDocument_accessHost found true

end

theorem select_documentFor (path : String) (more : Bool) : select path (documentFor more) = .ok
    { cluster := .dict [(.str "server", .str "s")]
      user := .dict [(.str "tokenFile", .str "k")]
      server := .str "s" } := by
  cases more <;> rfl

theorem text_k : (Path.ofString "k").text = "k" := by decide +kernel

/-- An access file that is there makes the configuration of its selection. -/
theorem load_of_selection {host : Host} {kubeconfig : String} {d : Value} {s : Selection} (given : kubeconfig ≠ "")
    (there : host.files.exists? (.ofString kubeconfig) = .ok true) (read : readDocument host kubeconfig = .ok d)
    (selected : select kubeconfig d = .ok s) :
    load host kubeconfig "" = ofSelection host (host.absolute kubeconfig).parent s := by
  have access : accessFile host kubeconfig = .ok kubeconfig := if_pos (bne_iff_ne.mpr given)
  rw [load_of_given given, outside_eq access, there, lift_ok, ok_bind, if_pos rfl, ofFile, read, ok_bind, selected,
    ok_bind]
  cases ofSelection host (host.absolute kubeconfig).parent s <;> rfl

/-- The configuration of the one context, with the token in the file `k`. -/
theorem load_accessHost {name : String} (given : name ≠ "")
    (found : ∀ content, (accessFiles name content).find name = .ok (.file content))
    (there : ∀ content, (accessFiles name content).exists? (.ofString name) = .ok true) (more : Bool)
    {token : String}
    (read : readToken (accessHost name more) "k" (.unreadableTokenFile (.str "k")) = .ok token) :
    load (accessHost name more) name "" = .ok { server := .str "s", token := .str token } := by
  have held : userToken (accessHost name more) (.dict [(.str "tokenFile", .str "k")]) = .ok (.str token) := by
    change tokenAt (accessHost name more) (.str "k") = _
    rw [tokenAt, text_k, read]
    rfl
  have asked : (accessHost name more).files.exists? (.ofString name) = .ok true := there (bytesFor more)
  rw [load_of_selection given asked (readDocument_accessHost found more) (select_documentFor name more), ofSelection,
    held, ok_bind]
  rfl

/-- A token in the access file itself is all of that file, entries of other users included. -/
theorem token_shows_other_users :
    Reread (accessHost "k" false) "k" (accessFiles "k" (bytesFor true)) (documentFor false) (documentFor true) ∧
    SameSelection (documentFor false) (documentFor true) ∧
    load (accessHost "k" false) "k" "" =
      .ok { server := .str "s", token := .str (Text.trim (textFor false)) } ∧
    load { accessHost "k" false with files := accessFiles "k" (bytesFor true) } "k" "" =
      .ok { server := .str "s", token := .str (Text.trim (textFor true)) } ∧
    load (accessHost "k" false) "k" "" ≠
      load { accessHost "k" false with files := accessFiles "k" (bytesFor true) } "k" "" := by
  have token (more : Bool) : readToken (accessHost "k" more) "k" (.unreadableTokenFile (.str "k")) =
      .ok (Text.trim (textFor more)) := by
    have text : (accessHost "k" more).files.readText "k" = .ok (textFor more) := readText_k more
    rw [readToken, text]
  have loaded (more : Bool) := load_accessHost (by decide) (fun _ => rfl) (fun _ => rfl) more (token more)
  have differ : Text.trim (textFor false) ≠ Text.trim (textFor true) := by
    intro same
    have chars := congrArg String.toList same
    simp only [Text.trim, textFor, String.toList_ofList] at chars
    exact absurd chars (by decide +kernel)
  refine ⟨reread_accessHost fun _ => rfl, sameSelection_textFor, loaded false, loaded true, fun same => differ ?_⟩
  have equal := (loaded false).symm.trans (same.trans (loaded true))
  exact Scalar.str.inj (Value.scalar.inj (ClusterConfig.mk.inj (Except.ok.inj equal)).2.1)

/-- The token of the one context, where the file `k` holds nothing else. -/
theorem readToken_secret :
    readToken (accessHost "config" false) "k" (.unreadableTokenFile (.str "k")) = .ok "secret" := by
  have secret : ((accessFiles "config" []).readText "k").toOption = some "secret" := by decide +kernel
  have k (content : List UInt8) : (accessFiles "config" content).find "k" =
      .ok (.file (Text.Utf8.encode "secret".toList)) := rfl
  have text := eq_ok_of_toOption secret
  rw [← FileSystem.readText_of_find (k []) (k (bytesFor false))] at text
  have text : (accessHost "config" false).files.readText "k" = .ok "secret" := text
  have trimmed : Text.trim "secret" = "secret" := by decide +kernel
  rw [readToken, text]
  exact congrArg Except.ok trimmed

/-- A machine with an access file whose context has no user. -/
def userlessHost : Host where
  files := accessFiles "config" (Text.Utf8.encode (userlessLines.flatMap fun line => line.toList ++ ['\n']))
  environment := []
where
  userlessLines : List String :=
    ["current-context: d", "contexts:", "- name: d", "  context:", "    cluster: c",
      "clusters:", "- name: c", "  cluster:", "    server: s"]

def userlessDocument : Value :=
  .dict [(.str "current-context", .str "d"), (.str "contexts", .list [entry "d" "context" "cluster" "c"]),
    (.str "clusters", .list [entry "c" "cluster" "server" "s"])]

/-- With the token in a file of its own the entry of another user makes no difference, and with the token in the access
file no more than that. A context without a user has nothing of one. -/
theorem current_context_decides_secret :
    SameSelection (documentFor false) (documentFor true) ∧
    load (accessHost "config" false) "config" "" = .ok { server := .str "s", token := .str "secret" } ∧
    load (accessHost "config" true) "config" "" = .ok { server := .str "s", token := .str "secret" } ∧
    load (accessHost "config" false) "config" "m" = .ok { server := .str "m", token := .str "secret" } ∧
    SameButToken (load (accessHost "k" false) "k" "") (load (accessHost "k" true) "k" "") ∧
    ∃ config, load userlessHost "config" "" = .ok config ∧ Anonymous config := by
  have selects := current_context_decides (accessHost "config" false) "config"
  have found (content : List UInt8) : (accessFiles "config" content).find "config" = .ok (.file content) := rfl
  have k (content : List UInt8) : (accessFiles "config" content).find "k" =
      .ok (.file (Text.Utf8.encode "secret".toList)) := rfl
  have loaded := load_accessHost (by decide) found (fun _ => rfl) false readToken_secret
  refine ⟨sameSelection_textFor, loaded, ?_, selects.master loaded (by decide), ?_, ?_⟩
  · rw [← loaded]
    have apart : TokensApart (accessHost "config" false) (accessFiles "config" (bytesFor true)) "config" "config"
        (documentFor false) := by
      refine ⟨fun unset => absurd unset (by decide), fun _ s hs t ht => ?_⟩
      cases (select_documentFor "config" false).symm.trans hs
      obtain rfl : "k" = t := Scalar.str.inj (Value.scalar.inj (Except.ok.inj ht.pointed))
      rw [text_k]
      exact (k _).trans (k _).symm
    exact (selects.apart rfl (reread_accessHost found) sameSelection_textFor apart "").symm
  · have selects := current_context_decides (accessHost "k" false) "k"
    exact selects.unmixed rfl (reread_accessHost fun _ => rfl) sameSelection_textFor ""
  · have read : (readDocument userlessHost "config").toOption = some userlessDocument := by decide +kernel
    have read := eq_ok_of_toOption read
    have current : (contextIn "config" userlessDocument).toOption = some (.dict [(.str "cluster", .str "c")]) := by
      decide +kernel
    have loaded : load userlessHost "config" "" = .ok { server := .str "s" } :=
      load_of_selection (by decide) rfl read rfl
    have selects := current_context_decides userlessHost "config"
    exact ⟨_, loaded, selects.nobody (.inl (by decide)) rfl read
      (contextIn_eq_ok.mp (eq_ok_of_toOption current)) rfl rfl loaded⟩

end ClusterMdns.ClusterConfig
