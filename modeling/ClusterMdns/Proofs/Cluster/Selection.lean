import ClusterMdns.Cluster.Config
import ClusterMdns.Proofs.Outcome

/-! What an access file is read for: the current context, and the cluster and the user that it names. Two files that
agree on these select the same, whatever else is in them. A context without a user selects nobody, and then nothing
of a user is in the configuration. -/

namespace ClusterMdns.ClusterConfig

open Document

@[simp] theorem lift_ok {α : Type} (a : α) : lift (.ok a) = .ok a := rfl

theorem lift_eq_ok {α : Type} {x : Except Fault α} {a : α} : lift x = .ok a ↔ x = .ok a := by
  constructor
  · intro h
    cases x with
    | ok b =>
      cases h
      rfl
    | error f => cases h
  · rintro rfl
    rfl

theorem named_eq_ok {d name v : Value} {list kind : String} : named d list kind name = .ok v ↔
    ∃ fields, entryNamed? d list name = .ok (some fields) ∧ v = contentOf kind fields := by
  rw [named]
  cases entryNamed? d list name with
  | error f => exact ⟨nofun, nofun⟩
  | ok found =>
    cases found with
    | some fields => simp [eq_comm]
    | none =>
      simp only [lift_ok, ok_bind, showing]
      split <;> simp

theorem named_congr {d e name : Value} {list : String} (kind : String)
    (h : entryNamed? d list name = entryNamed? e list name) : named d list kind name = named e list kind name := by
  rw [named, named, h]

/-! ### The current context -/

/-- What the first entry of the name of the current context holds. -/
def ContextOf (d context : Value) : Prop :=
  ∃ current fields, d.get "current-context" = .ok current ∧ current.truthy = true ∧
    entryNamed? d "contexts" current = .ok (some fields) ∧ context = contentOf "context" fields

/-- Two access files with the same current context, the same first entry of its name, and the same first entries of
the names of the cluster and the user, if any, that it gives. -/
structure SameSelection (d e : Value) : Prop where
  current : d.get "current-context" = e.get "current-context"
  context {current : Value} (h : d.get "current-context" = .ok current) (given : current.truthy = true) :
    entryNamed? d "contexts" current = entryNamed? e "contexts" current
  cluster {context : Value} (h : ContextOf d context) {name : Option Value}
    (named : context.get? "cluster" = .ok name) :
    entryNamed? d "clusters" (name.getD (.str "")) = entryNamed? e "clusters" (name.getD (.str ""))
  user {context : Value} (h : ContextOf d context) {name : Value} (named : context.get "user" = .ok name)
    (given : name.truthy = true) : entryNamed? d "users" name = entryNamed? e "users" name

theorem contextIn_eq_ok {d context : Value} {path : String} :
    contextIn path d = .ok context ↔ ContextOf d context := by
  constructor
  · intro h
    obtain ⟨current, hc, h⟩ := bind_eq_ok.mp h
    split at h
    · rename_i given
      obtain ⟨fields, entry, content⟩ := named_eq_ok.mp h
      exact ⟨current, fields, lift_eq_ok.mp hc, given, entry, content⟩
    · cases h
  · rintro ⟨current, fields, hc, given, entry, rfl⟩
    rw [contextIn, hc, lift_ok, ok_bind, if_pos given]
    exact named_eq_ok.mpr ⟨fields, entry, rfl⟩

section
variable {d e : Value} (same : SameSelection d e)
include same

theorem contextIn_congr (path : String) : contextIn path d = contextIn path e := by
  rw [contextIn, contextIn, ← same.current]
  refine bind_congr_of_ok fun current hc => ?_
  split
  · rename_i given
    exact named_congr "context" (same.context (lift_eq_ok.mp hc) given)
  · rfl

theorem clusterOf_congr {context : Value} (h : ContextOf d context) : clusterOf d context = clusterOf e context :=
  bind_congr_of_ok fun _ named => named_congr "cluster" (same.cluster h (lift_eq_ok.mp named))

theorem userOf_congr {context : Value} (h : ContextOf d context) : userOf d context = userOf e context := by
  refine bind_congr_of_ok fun name named => ?_
  split
  · rename_i given
    exact named_congr "user" (same.user h (lift_eq_ok.mp named) given)
  · rfl

theorem select_congr (path : String) : select path d = select path e := by
  rw [select, select, ← contextIn_congr same path]
  refine bind_congr_of_ok fun context hc => ?_
  have current := contextIn_eq_ok.mp hc
  rw [clusterOf_congr same current, userOf_congr same current]

end

/-! ### Tokens -/

theorem truthy_orElse (v : Value) {w : Value} (h : w.truthy = false) : (v.orElse w).truthy = v.truthy := by
  unfold Value.orElse
  cases given : v.truthy with
  | true => exact given
  | false => exact h

theorem tokenAt_of_no_text {file : Value} (other : ∀ s, file ≠ .str s) (host : Host) :
    tokenAt host file = .error (.fault .wrongKind) := by
  unfold tokenAt
  split
  · exact absurd rfl (other _)
  · rfl

/-- A token that is given goes before a file. -/
theorem userToken_of_given {user token : Value} (named : user.get "token" = .ok token) (given : token.truthy = true)
    (host : Host) : userToken host user = .ok token := by
  have first : token.orElse (.str "") = token := if_pos given
  rw [userToken, named, lift_ok, ok_bind, first, if_pos given]

theorem userToken_of_nothing {user token : Value} (named : user.get "token" = .ok token)
    (nothing : token.truthy = false) (host : Host) :
    userToken host user = lift (user.get "tokenFile") >>= fun file =>
      if file.truthy then tokenAt host file else .ok (.str "") := by
  have other : token.orElse (.str "") = .str "" := if_neg (by rw [nothing]; exact Bool.false_ne_true)
  rw [userToken, named, lift_ok, ok_bind, other]
  rfl

/-- The token of a user is not given but looked for in a file. -/
structure TokenFrom (user : Value) (file : String) : Prop where
  unnamed : ∃ token, user.get "token" = .ok token ∧ token.truthy = false
  pointed : user.get "tokenFile" = .ok (.str file)
  some_char : file ≠ ""

theorem userToken_of_file {user : Value} {file : String} (h : TokenFrom user file) (host : Host) :
    userToken host user = tokenAt host (.str file) := by
  obtain ⟨⟨token, named, nothing⟩, pointed, some_char⟩ := h
  have wanted : (Value.str file).truthy = true := bne_iff_ne.mpr some_char
  rw [userToken_of_nothing named nothing, pointed, lift_ok, ok_bind, if_pos wanted]

/-! ### Contexts without a user -/

/-- Nothing tells who asks. -/
structure Anonymous (c : ClusterConfig) : Prop where
  token : c.token = .str ""
  clientCert : c.clientCert = .none
  clientKey : c.clientKey = .none
  username : c.username = .str ""
  password : c.password = .str ""

theorem Anonymous.withMaster {c : ClusterConfig} (h : Anonymous c) (master : String) :
    Anonymous (withMaster master c) := by
  unfold ClusterConfig.withMaster
  split
  · exact ⟨h.token, h.clientCert, h.clientKey, h.username, h.password⟩
  · exact h

theorem userOf_of_none {d context name : Value} (named : context.get "user" = .ok name)
    (none : name.truthy = false) : userOf d context = .ok (.dict []) := by
  rw [userOf, named, lift_ok, ok_bind, none]
  rfl

theorem ofSelection_anonymous {host : Host} {base : Path} {s : Selection} {c : ClusterConfig}
    (nobody : s.user = .dict []) (h : ofSelection host base s = .ok c) : Anonymous c := by
  have no_token : userToken host (.dict []) = .ok (.str "") := rfl
  have no_file (key : String) : fileReference host base (.dict []) key = .ok .none := rfl
  have no_text (key : String) : (Value.dict []).get key = .ok .null := rfl
  rw [ofSelection, nobody, no_token, ok_bind, withoutToken, nobody, no_file, no_file, no_text, no_text] at h
  obtain ⟨config, hconfig, h⟩ := bind_eq_ok.mp h
  cases h
  obtain ⟨caFile, -, rest⟩ := bind_eq_ok.mp (lift_eq_ok.mp hconfig)
  simp only [ok_bind] at rest
  obtain ⟨skip, -, rest⟩ := bind_eq_ok.mp rest
  cases rest
  exact ⟨rfl, rfl, rfl, rfl, rfl⟩

theorem ofFile_anonymous {host : Host} {path : String} {d context name : Value} {c : ClusterConfig}
    (read : readDocument host path = .ok d) (current : ContextOf d context)
    (named : context.get "user" = .ok name) (none : name.truthy = false) (h : ofFile host path = .ok c) :
    Anonymous c := by
  rw [ofFile, read, ok_bind] at h
  obtain ⟨s, selected, made⟩ := bind_eq_ok.mp h
  rw [select, contextIn_eq_ok.mpr current, ok_bind] at selected
  obtain ⟨cluster, -, selected⟩ := bind_eq_ok.mp selected
  rw [userOf_of_none named none, ok_bind] at selected
  obtain ⟨server, -, selected⟩ := bind_eq_ok.mp selected
  cases selected
  exact ofSelection_anonymous rfl made

/-! ### The configuration to use -/

/-- Where the configuration comes from: an access file is used if it is given, or outside the cluster. -/
theorem load_eq (host : Host) (kubeconfig master : String) : load host kubeconfig master =
    (if kubeconfig != "" then .ok none else inCluster host) >>= fun found =>
      match found with
      | some config => .ok (withMaster master config)
      | none => outside host kubeconfig master := by
  unfold load
  split <;> rfl

theorem inCluster_of_none {host : Host} (h : server? host = none) : inCluster host = .ok none := by
  rw [inCluster, h]

theorem server?_of_inCluster (h : inCluster host = .ok none) : server? host = none := by
  rw [inCluster] at h
  split at h
  · assumption
  · obtain ⟨token, -, h⟩ := bind_eq_ok.mp h
    obtain ⟨known, -, h⟩ := bind_eq_ok.mp h
    cases h

theorem load_of_given {kubeconfig : String} (given : kubeconfig ≠ "") (host : Host) (master : String) :
    load host kubeconfig master = outside host kubeconfig master := by
  rw [load_eq, if_pos (bne_iff_ne.mpr given)]
  rfl

theorem outside_eq {host : Host} {kubeconfig path : String} (access : accessFile host kubeconfig = .ok path)
    (master : String) :
    outside host kubeconfig master = lift (host.files.exists? (.ofString path)) >>= fun found =>
      if found then ofFile host path >>= fun c => .ok (withMaster master c)
      else if master != "" then .ok { server := .str master } else .error (.nowhere path) := by
  rw [outside, access, lift_ok, ok_bind]

end ClusterMdns.ClusterConfig
