import ClusterMdns.Launch
import ClusterMdns.Proofs.Cluster.Selection
import ClusterMdns.Proofs.Document.Equality
import ClusterMdns.Proofs.Document.Failure
import ClusterMdns.Proofs.Host.Names

/-! How loading the configuration of the cluster fails in a way that no error of the configuration foresees. Each such
fault comes of a file that cannot be read as a text, of a text that is no document, or of a value in the access file
that is not of the kind that is expected where it stands. The program reports the errors of the configuration, and of
the faults only one. -/

namespace ClusterMdns

open Document

namespace ClusterConfig

theorem lift_eq_fault {α : Type} {x : Except Fault α} {f : Fault} : lift x = .error (.fault f) ↔ x = .error f := by
  constructor
  · intro h
    cases x with
    | ok a => cases h
    | error e =>
      cases h
      rfl
  · rintro rfl
    rfl

theorem showing_eq_fault {v : Value} {e : Error} {f : Fault} (plain : ∀ f, e ≠ .fault f) :
    showing v e = .fault f ↔ v.isWritable = false ∧ f = .badValue := by
  unfold showing
  cases writable : v.isWritable with
  | true => simp [plain f]
  | false => simp [eq_comm]

/-! ### Files -/

/-- How the text of a file cannot be had, other than that there is no file to read. -/
inductive FileFault (fs : FileSystem) (path : String) : Fault → Prop
  | path (h : fs.readText path = .error .badPath) : FileFault fs path .badValue
  | bytes (h : fs.readText path = .error .undecodable) : FileFault fs path .undecodable

theorem readToken_eq_fault {host : Host} {path : String} {unreadable : Error} {f : Fault}
    (plain : ∀ f, unreadable ≠ .fault f) :
    readToken host path unreadable = .error (.fault f) ↔ FileFault host.files path f := by
  rw [readToken]
  constructor
  · intro h
    split at h
    · cases h
    · rename_i bad
      cases h
      exact .path bad
    · rename_i bad
      cases h
      exact .bytes bad
    · exact absurd (Except.error.inj h) (plain f)
  · intro h
    cases h with
    | path h => rw [h]
    | bytes h => rw [h]

/-- How an access file gives no document, other than that there is none to read. -/
inductive DocumentFault (host : Host) (path : String) : Fault → Prop
  | path (h : host.files.readBytes path = .error .badPath) : DocumentFault host path .badValue
  /-- What is read of it is no text, or holds a value that is none of its type. -/
  | content {content : List UInt8} {f : Fault} (h : host.files.readBytes path = .ok content)
      (fails : Yaml.read (.ofBytes content) = .error (.fault f)) : DocumentFault host path f

theorem readDocument_eq_fault {host : Host} {path : String} {f : Fault} :
    readDocument host path = .error (.fault f) ↔ DocumentFault host path f := by
  rw [readDocument]
  constructor
  · intro h
    split at h
    · rename_i content held
      split at h
      · cases h
      · cases h
      · rename_i fails
        cases h
        exact .content held fails
    · rename_i bad
      cases h
      exact .path bad
    · cases h
  · intro h
    cases h with
    | path h => rw [h]
    | content h fails =>
      rw [h]
      simp only [fails]

/-- How the files of a container in the cluster fail. -/
inductive AccountFault (host : Host) : Fault → Prop
  | token {server : String} {f : Fault} (named : server? host = some server)
      (h : FileFault host.files (tokenFile host) f) : AccountFault host f
  /-- It cannot be asked whether there is a certificate. -/
  | authority {server token : String} {f : Fault} (named : server? host = some server)
      (held : readToken host (tokenFile host) .unreadableToken = .ok token)
      (h : host.files.exists? (authorityFile host) = .error f) : AccountFault host f

theorem inCluster_eq_fault {host : Host} {f : Fault} :
    inCluster host = .error (.fault f) ↔ AccountFault host f := by
  rw [inCluster]
  cases named : server? host with
  | none =>
    constructor
    · intro h
      cases h
    · intro h
      cases h with
      | token named' => cases named.symm.trans named'
      | authority named' => cases named.symm.trans named'
  | some server =>
    have plain (f : Fault) : Error.unreadableToken ≠ .fault f := by
      intro h
      cases h
    dsimp only
    rw [bind_eq_error, readToken_eq_fault plain]
    constructor
    · rintro (h | ⟨token, held, h⟩)
      · exact .token named h
      · exact .authority named held (lift_eq_fault.mp (bind_pure_eq_error.mp h))
    · intro h
      cases h with
      | token _ h => exact .inl h
      | authority _ held h => exact .inr ⟨_, held, bind_pure_eq_error.mpr (lift_eq_fault.mpr h)⟩

/-! ### Entries -/

/-- The name of an item is compared with another without end. No item before bears that name. -/
inductive Endless (name : Value) : List Value → Prop
  | here {item : Value} {rest : List Value} {fields : List (Scalar × Value)} (mapping : item.opened = .dict fields)
      (h : ((lookup (.str "name") fields).getD .null).equal name = .error .tooDeep) : Endless name (item :: rest)
  | later {item : Value} {rest : List Value}
      (passed : ∀ fields, item.opened = .dict fields →
        ((lookup (.str "name") fields).getD .null).equal name = .ok false)
      (h : Endless name rest) : Endless name (item :: rest)

theorem firstNamed?_eq_error {name : Value} {items : List Value} {f : Fault} :
    firstNamed? name items = .error f ↔ Endless name items ∧ f = .tooDeep := by
  induction items with
  | nil => exact ⟨nofun, nofun⟩
  | cons item rest ih =>
    rw [firstNamed?]
    split
    · rename_i fields mapping
      constructor
      · intro h
        rcases bind_eq_error.mp h with h | ⟨same, compared, h⟩
        · obtain rfl := Value.equalWithin_eq_error h
          exact ⟨.here mapping h, rfl⟩
        · cases same with
          | true => cases h
          | false =>
            obtain ⟨endless, rfl⟩ := ih.mp h
            refine ⟨.later (fun others h => ?_) endless, rfl⟩
            cases mapping.symm.trans h
            exact compared
      · rintro ⟨h, rfl⟩
        rw [bind_eq_error]
        cases h with
        | here mapping' h =>
          cases mapping.symm.trans mapping'
          exact .inl h
        | later passed h => exact .inr ⟨false, passed fields mapping, ih.mpr ⟨h, rfl⟩⟩
    · rename_i other
      rw [ih]
      refine and_congr_left' ⟨.later fun fields mapping => absurd mapping (other fields), fun h => ?_⟩
      cases h with
      | here mapping => exact absurd mapping (other _)
      | later _ h => exact h

/-- How looking up an entry fails, other than that there is none of its name. -/
inductive NamedFault (d : Value) (list : String) (name : Value) : Fault → Prop
  | document (h : ¬ d.IsMapping) : NamedFault d list name .noOperation
  /-- What is in the place of the list cannot be stepped through. -/
  | items {listed : Value} (h : d.get list = .ok listed)
      (single : ∀ items, (listed.orElse (.list [])).elements ≠ .ok items) : NamedFault d list name .wrongKind
  | name {listed : Value} {items : List Value} (h : d.get list = .ok listed)
      (each : (listed.orElse (.list [])).elements = .ok items) (endless : Endless name items) :
      NamedFault d list name .tooDeep
  /-- There is none of its name, but the name cannot be written. -/
  | message (absent : entryNamed? d list name = .ok none) (unwritable : name.isWritable = false) :
      NamedFault d list name .badValue

theorem named_eq_fault {d name : Value} {list kind : String} {f : Fault} :
    named d list kind name = .error (.fault f) ↔ NamedFault d list name f := by
  have plain (f : Fault) : Error.notFound kind name ≠ .fault f := nofun
  rw [named, bind_eq_error, lift_eq_fault]
  constructor
  · rintro (h | ⟨found, looked_up, h⟩)
    · rw [entryNamed?, bind_eq_error, Value.get_eq_error] at h
      rcases h with ⟨h, rfl⟩ | ⟨listed, hl, h⟩
      · exact .document h
      · rcases bind_eq_error.mp h with h | ⟨items, each, h⟩
        · obtain ⟨single, rfl⟩ := Value.elements_eq_error.mp h
          exact .items hl single
        · obtain ⟨endless, rfl⟩ := firstNamed?_eq_error.mp h
          exact .name hl each endless
    · cases found with
      | some fields => cases h
      | none =>
        obtain ⟨unwritable, rfl⟩ := (showing_eq_fault plain).mp (Except.error.inj h)
        exact .message (lift_eq_ok.mp looked_up) unwritable
  · intro h
    cases h with
    | document h => exact .inl (bind_eq_error.mpr (.inl (Value.get_eq_error.mpr ⟨h, rfl⟩)))
    | items h single =>
      refine .inl (bind_eq_error.mpr (.inr ⟨_, h, bind_eq_error.mpr (.inl ?_)⟩))
      exact Value.elements_eq_error.mpr ⟨single, rfl⟩
    | name h each endless =>
      refine .inl (bind_eq_error.mpr (.inr ⟨_, h, bind_eq_error.mpr (.inr ⟨_, each, ?_⟩)⟩))
      exact firstNamed?_eq_error.mpr ⟨endless, rfl⟩
    | message absent unwritable =>
      refine .inr ⟨none, lift_eq_ok.mpr absent, ?_⟩
      exact congrArg Except.error ((showing_eq_fault plain).mpr ⟨unwritable, rfl⟩)

/-! ### The selection -/

/-- How the selection of a document fails, other than by what is missing in it. -/
inductive SelectionFault (d : Value) : Fault → Prop
  | document (h : ¬ d.IsMapping) : SelectionFault d .noOperation
  | context {current : Value} {f : Fault} (named : d.get "current-context" = .ok current)
      (given : current.truthy = true) (h : NamedFault d "contexts" current f) : SelectionFault d f
  | content {context : Value} (current : ContextOf d context) (h : ¬ context.IsMapping) :
      SelectionFault d .noOperation
  | cluster {context : Value} {name : Option Value} {f : Fault} (current : ContextOf d context)
      (named : context.get? "cluster" = .ok name) (h : NamedFault d "clusters" (name.getD (.str "")) f) :
      SelectionFault d f
  | user {context cluster name : Value} {f : Fault} (current : ContextOf d context)
      (chosen : clusterOf d context = .ok cluster) (named : context.get "user" = .ok name)
      (given : name.truthy = true) (h : NamedFault d "users" name f) : SelectionFault d f
  | server {context cluster user : Value} (current : ContextOf d context)
      (chosen : clusterOf d context = .ok cluster) (asked : userOf d context = .ok user)
      (h : ¬ cluster.IsMapping) : SelectionFault d .noOperation
  /-- The cluster has no server, but its name cannot be written. -/
  | message {context cluster user given name : Value} (current : ContextOf d context)
      (chosen : clusterOf d context = .ok cluster) (asked : userOf d context = .ok user)
      (missing : cluster.get "server" = .ok given) (nothing : given.truthy = false)
      (named : context.get "cluster" = .ok name) (unwritable : name.isWritable = false) :
      SelectionFault d .badValue

section
variable {d context cluster : Value} {f : Fault}

theorem contextIn_eq_fault {path : String} : contextIn path d = .error (.fault f) ↔
    ¬ d.IsMapping ∧ f = .noOperation ∨
      ∃ current, d.get "current-context" = .ok current ∧ current.truthy = true ∧ NamedFault d "contexts" current f := by
  rw [contextIn, bind_eq_error, lift_eq_fault, Value.get_eq_error]
  refine or_congr_right (exists_congr fun current => ?_)
  rw [lift_eq_ok]
  refine and_congr_right fun _ => ?_
  cases current.truthy with
  | false => simp
  | true => simp [named_eq_fault]

theorem clusterOf_eq_fault : clusterOf d context = .error (.fault f) ↔
    ¬ context.IsMapping ∧ f = .noOperation ∨
      ∃ name, context.get? "cluster" = .ok name ∧ NamedFault d "clusters" (name.getD (.str "")) f := by
  rw [clusterOf, bind_eq_error, lift_eq_fault, Value.get?_eq_error]
  simp only [lift_eq_ok, named_eq_fault]

theorem userOf_eq_fault : userOf d context = .error (.fault f) ↔
    ¬ context.IsMapping ∧ f = .noOperation ∨
      ∃ name, context.get "user" = .ok name ∧ name.truthy = true ∧ NamedFault d "users" name f := by
  rw [userOf, bind_eq_error, lift_eq_fault, Value.get_eq_error]
  refine or_congr_right (exists_congr fun name => ?_)
  rw [lift_eq_ok]
  refine and_congr_right fun _ => ?_
  cases name.truthy with
  | false => simp
  | true => simp [named_eq_fault]

theorem serverOf_eq_fault (mapping : context.IsMapping) : serverOf context cluster = .error (.fault f) ↔
    ¬ cluster.IsMapping ∧ f = .noOperation ∨
      ∃ given name, cluster.get "server" = .ok given ∧ given.truthy = false ∧
        context.get "cluster" = .ok name ∧ name.isWritable = false ∧ f = .badValue := by
  have empty : (Value.str "").truthy = false := rfl
  rw [serverOf, bind_eq_error, lift_eq_fault, Value.get_eq_error]
  refine or_congr_right (exists_congr fun given => ?_)
  dsimp only
  rw [lift_eq_ok, truthy_orElse given empty]
  cases nothing : given.truthy with
  | true => simp
  | false =>
    have plain (name : Value) (f : Fault) : Error.noServer name ≠ .fault f := nofun
    simp only [Bool.false_eq_true, if_false, true_and, bind_eq_error, lift_eq_fault, lift_eq_ok,
      Value.get_eq_error, Except.error.injEq, showing_eq_fault (plain _)]
    constructor
    · rintro ⟨hg, ⟨none, -⟩ | ⟨name, named, unwritable, rfl⟩⟩
      · exact absurd mapping none
      · exact ⟨name, hg, named, unwritable, rfl⟩
    · rintro ⟨name, hg, named, unwritable, rfl⟩
      exact ⟨hg, .inr ⟨name, named, unwritable, rfl⟩⟩

end

theorem select_of_context {path : String} {d context : Value} (current : ContextOf d context) :
    select path d = clusterOf d context >>= fun cluster => userOf d context >>= fun user =>
      serverOf context cluster >>= fun server => .ok { cluster, user, server } := by
  rw [select, contextIn_eq_ok.mpr current, ok_bind]

theorem isMapping_of_clusterOf {d context cluster : Value} (chosen : clusterOf d context = .ok cluster) :
    context.IsMapping := by
  obtain ⟨name, named, -⟩ := bind_eq_ok.mp chosen
  exact Value.isMapping_of_get? (lift_eq_ok.mp named)

theorem select_eq_fault {path : String} {d : Value} {f : Fault} :
    select path d = .error (.fault f) ↔ SelectionFault d f := by
  constructor
  · intro h
    rcases bind_eq_error.mp h with failed | ⟨context, hc, -⟩
    · rcases contextIn_eq_fault.mp failed with ⟨none, rfl⟩ | ⟨current, named, given, fault⟩
      · exact .document none
      · exact .context named given fault
    · have current := contextIn_eq_ok.mp hc
      rw [select_of_context current, bind_eq_error] at h
      rcases h with failed | ⟨cluster, chosen, h⟩
      · rcases clusterOf_eq_fault.mp failed with ⟨none, rfl⟩ | ⟨name, named, fault⟩
        · exact .content current none
        · exact .cluster current named fault
      · have mapping := isMapping_of_clusterOf chosen
        rcases bind_eq_error.mp h with failed | ⟨user, asked, failed⟩
        · rcases userOf_eq_fault.mp failed with ⟨none, -⟩ | ⟨name, named, given, fault⟩
          · exact absurd mapping none
          · exact .user current chosen named given fault
        · rcases (serverOf_eq_fault mapping).mp (bind_pure_eq_error.mp failed) with
            ⟨none, rfl⟩ | ⟨given, name, missing, nothing, named, unwritable, rfl⟩
          · exact .server current chosen asked none
          · exact .message current chosen asked missing nothing named unwritable
  · intro h
    cases h with
    | document none => exact bind_eq_error.mpr (.inl (contextIn_eq_fault.mpr (.inl ⟨none, rfl⟩)))
    | context named given fault =>
      exact bind_eq_error.mpr (.inl (contextIn_eq_fault.mpr (.inr ⟨_, named, given, fault⟩)))
    | content current none =>
      rw [select_of_context current, clusterOf_eq_fault.mpr (.inl ⟨none, rfl⟩)]
      rfl
    | cluster current named fault =>
      rw [select_of_context current, clusterOf_eq_fault.mpr (.inr ⟨_, named, fault⟩)]
      rfl
    | user current chosen named given fault =>
      rw [select_of_context current, chosen, ok_bind, userOf_eq_fault.mpr (.inr ⟨_, named, given, fault⟩)]
      rfl
    | server current chosen asked none =>
      have mapping := isMapping_of_clusterOf chosen
      rw [select_of_context current, chosen, ok_bind, asked, ok_bind,
        (serverOf_eq_fault mapping).mpr (.inl ⟨none, rfl⟩)]
      rfl
    | message current chosen asked missing nothing named unwritable =>
      have mapping := isMapping_of_clusterOf chosen
      rw [select_of_context current, chosen, ok_bind, asked, ok_bind,
        (serverOf_eq_fault mapping).mpr (.inr ⟨_, _, missing, nothing, named, unwritable, rfl⟩)]
      rfl

/-! ### Tokens and references -/

/-- How the token of a user fails. -/
inductive UserTokenFault (host : Host) (user : Value) : Fault → Prop
  | user (h : ¬ user.IsMapping) : UserTokenFault host user .noOperation
  /-- The path of the file is no text. -/
  | kind {given file : Value} (named : user.get "token" = .ok given) (nothing : given.truthy = false)
      (pointed : user.get "tokenFile" = .ok file) (wanted : file.truthy = true) (other : ∀ s, file ≠ .str s) :
      UserTokenFault host user .wrongKind
  | file {s : String} {f : Fault} (held : TokenFrom user s) (h : FileFault host.files (Path.ofString s).text f) :
      UserTokenFault host user f

theorem tokenAt_eq_fault {host : Host} {s : String} {f : Fault} :
    tokenAt host (.str s) = .error (.fault f) ↔ FileFault host.files (Path.ofString s).text f := by
  have plain (f : Fault) : Error.unreadableTokenFile (.str s) ≠ .fault f := nofun
  rw [← readToken_eq_fault plain, tokenAt]
  cases readToken host (Path.ofString s).text (.unreadableTokenFile (.str s)) <;> simp [Except.map]

theorem userToken_eq_fault {host : Host} {user : Value} {f : Fault} :
    userToken host user = .error (.fault f) ↔ UserTokenFault host user f := by
  constructor
  · intro h
    cases named : user.get "token" with
    | error f' =>
      rw [userToken, named] at h
      cases h
      obtain ⟨none, rfl⟩ := Value.get_eq_error.mp named
      exact .user none
    | ok token =>
      cases nothing : token.truthy with
      | true =>
        rw [userToken_of_given named nothing] at h
        cases h
      | false =>
        rw [userToken_of_nothing named nothing] at h
        rcases bind_eq_error.mp h with failed | ⟨file, pointed, failed⟩
        · obtain ⟨none, rfl⟩ := Value.get_eq_error.mp (lift_eq_fault.mp failed)
          exact .user none
        · split at failed
          · rename_i wanted
            by_cases text : ∃ s, file = .str s
            · obtain ⟨s, rfl⟩ := text
              have held : TokenFrom user s := ⟨⟨token, named, nothing⟩, lift_eq_ok.mp pointed, bne_iff_ne.mp wanted⟩
              exact .file held (tokenAt_eq_fault.mp failed)
            · have other (s : String) : file ≠ .str s := fun h => text ⟨s, h⟩
              rw [tokenAt_of_no_text other] at failed
              cases failed
              exact .kind named nothing (lift_eq_ok.mp pointed) wanted other
          · cases failed
  · intro h
    cases h with
    | user none =>
      rw [userToken, Value.get_eq_error.mpr ⟨none, rfl⟩]
      rfl
    | kind named nothing pointed wanted other =>
      rw [userToken_of_nothing named nothing, pointed, lift_ok, ok_bind, if_pos wanted, tokenAt_of_no_text other]
    | file held fault =>
      rw [userToken_of_file held]
      exact tokenAt_eq_fault.mpr fault

/-- How an entry fails to refer to a file. -/
inductive ReferenceFault (host : Host) (entry : Value) (key : String) : Fault → Prop
  | entry (h : ¬ entry.IsMapping) : ReferenceFault host entry key .noOperation
  | data {data : Value} {f : Fault} (held : entry.get (key ++ "-data") = .ok data) (given : data.truthy = true)
      (h : decodeData data = .error f) : ReferenceFault host entry key f
  | path {data path : Value} {f : Fault} (held : entry.get (key ++ "-data") = .ok data)
      (nothing : data.truthy = false) (named : entry.get key = .ok path) (given : path.truthy = true)
      (h : pathOf host path = .error f) : ReferenceFault host entry key f

theorem fileReference_eq_error {host : Host} {base : Path} {entry : Value} {key : String} {f : Fault} :
    fileReference host base entry key = .error f ↔ ReferenceFault host entry key f := by
  constructor
  · intro h
    rcases bind_eq_error.mp h with failed | ⟨data, held, h⟩
    · obtain ⟨none, rfl⟩ := Value.get_eq_error.mp failed
      exact .entry none
    · split at h
      · rename_i given
        exact .data held given (bind_pure_eq_error.mp h)
      · rename_i nothing
        rcases bind_eq_error.mp h with failed | ⟨path, named, h⟩
        · obtain ⟨none, rfl⟩ := Value.get_eq_error.mp failed
          exact .entry none
        · split at h
          · rename_i given
            exact .path held (Bool.eq_false_iff.mpr nothing) named given (bind_pure_eq_error.mp h)
          · cases h
  · intro h
    cases h with
    | entry none =>
      rw [fileReference, Value.get_eq_error.mpr ⟨none, rfl⟩]
      rfl
    | data held given bad =>
      rw [fileReference, held, ok_bind, if_pos given, bad]
      rfl
    | path held nothing named given bad =>
      rw [fileReference, held, ok_bind, nothing, if_neg Bool.false_ne_true, named, ok_bind, if_pos given, bad]
      rfl

/-! ### The configuration -/

/-- How a selection makes no configuration. -/
inductive ConfigurationFault (host : Host) (base : Path) (s : Selection) : Fault → Prop
  | token {f : Fault} (h : UserTokenFault host s.user f) : ConfigurationFault host base s f
  | authority {t : Value} {f : Fault} (held : userToken host s.user = .ok t)
      (h : ReferenceFault host s.cluster "certificate-authority" f) : ConfigurationFault host base s f
  | certificate {t : Value} {ca : FileReference} {f : Fault} (held : userToken host s.user = .ok t)
      (found : fileReference host base s.cluster "certificate-authority" = .ok ca)
      (h : ReferenceFault host s.user "client-certificate" f) : ConfigurationFault host base s f
  | key {t : Value} {ca certificate : FileReference} {f : Fault} (held : userToken host s.user = .ok t)
      (found : fileReference host base s.cluster "certificate-authority" = .ok ca)
      (found' : fileReference host base s.user "client-certificate" = .ok certificate)
      (h : ReferenceFault host s.user "client-key" f) : ConfigurationFault host base s f

section
variable {host : Host} {base : Path} {s : Selection} {f : Fault}

theorem isMapping_of_fileReference {entry : Value} {key : String} {found : FileReference}
    (h : fileReference host base entry key = .ok found) : entry.IsMapping := by
  obtain ⟨data, held, -⟩ := bind_eq_ok.mp h
  exact Value.isMapping_of_get held

theorem get_of_isMapping {v : Value} (mapping : v.IsMapping) (key : String) : ∃ w, v.get key = .ok w := by
  cases h : v.get key with
  | ok w => exact ⟨w, rfl⟩
  | error f => exact absurd mapping (Value.get_eq_error.mp h).1

/-- The first file that fails makes it fail; once all are found, nothing can. -/
theorem withoutToken_eq_error : withoutToken host base s = .error f ↔
    ReferenceFault host s.cluster "certificate-authority" f ∨
      ∃ ca, fileReference host base s.cluster "certificate-authority" = .ok ca ∧
        (ReferenceFault host s.user "client-certificate" f ∨
          ∃ certificate, fileReference host base s.user "client-certificate" = .ok certificate ∧
            ReferenceFault host s.user "client-key" f) := by
  rw [withoutToken, bind_eq_error, fileReference_eq_error]
  refine or_congr_right (exists_congr fun ca => and_congr_right fun found => ?_)
  rw [bind_eq_error, fileReference_eq_error]
  refine or_congr_right (exists_congr fun certificate => and_congr_right fun found' => ?_)
  rw [bind_eq_error, fileReference_eq_error]
  refine or_iff_left ?_
  rintro ⟨key, found'', failed⟩
  obtain ⟨username, hu⟩ := get_of_isMapping (isMapping_of_fileReference found') "username"
  obtain ⟨password, hp⟩ := get_of_isMapping (isMapping_of_fileReference found') "password"
  obtain ⟨skip, hs⟩ := get_of_isMapping (isMapping_of_fileReference found) "insecure-skip-tls-verify"
  rw [hu, ok_bind, hp, ok_bind, hs, ok_bind] at failed
  cases failed

theorem ofSelection_eq_fault : ofSelection host base s = .error (.fault f) ↔ ConfigurationFault host base s f := by
  rw [ofSelection, bind_eq_error, userToken_eq_fault]
  simp only [bind_pure_eq_error, lift_eq_fault, withoutToken_eq_error]
  constructor
  · rintro (h | ⟨t, held, h | ⟨ca, found, h | ⟨certificate, found', h⟩⟩⟩)
    · exact .token h
    · exact .authority held h
    · exact .certificate held found h
    · exact .key held found found' h
  · intro h
    cases h with
    | token h => exact .inl h
    | authority held h => exact .inr ⟨_, held, .inl h⟩
    | certificate held found h => exact .inr ⟨_, held, .inr ⟨_, found, .inl h⟩⟩
    | key held found found' h => exact .inr ⟨_, held, .inr ⟨_, found, .inr ⟨_, found', h⟩⟩⟩

end

/-- An access file is used, and this is its path. -/
structure Consults (host : Host) (kubeconfig path : String) : Prop where
  outer : kubeconfig ≠ "" ∨ server? host = none
  access : accessFile host kubeconfig = .ok path
  there : host.files.exists? (.ofString path) = .ok true

/-- What makes loading fail with a fault. -/
inductive Escape (host : Host) (kubeconfig : String) : Fault → Prop
  | account {f : Fault} (unset : kubeconfig = "") (h : AccountFault host f) : Escape host kubeconfig f
  /-- There is no home directory to look into. -/
  | home {f : Fault} (outer : kubeconfig ≠ "" ∨ server? host = none) (h : accessFile host kubeconfig = .error f) :
      Escape host kubeconfig f
  /-- It cannot be asked whether there is an access file. -/
  | search {path : String} {f : Fault} (outer : kubeconfig ≠ "" ∨ server? host = none)
      (access : accessFile host kubeconfig = .ok path) (h : host.files.exists? (.ofString path) = .error f) :
      Escape host kubeconfig f
  | document {path : String} {f : Fault} (file : Consults host kubeconfig path) (h : DocumentFault host path f) :
      Escape host kubeconfig f
  | selection {path : String} {d : Value} {f : Fault} (file : Consults host kubeconfig path)
      (read : readDocument host path = .ok d) (h : SelectionFault d f) : Escape host kubeconfig f
  | configuration {path : String} {d : Value} {s : Selection} {f : Fault} (file : Consults host kubeconfig path)
      (read : readDocument host path = .ok d) (selected : select path d = .ok s)
      (h : ConfigurationFault host (host.absolute path).parent s f) : Escape host kubeconfig f

section
variable {host : Host} {kubeconfig path : String} {f : Fault}

theorem ofFile_eq_fault : ofFile host path = .error (.fault f) ↔ DocumentFault host path f ∨
    ∃ d, readDocument host path = .ok d ∧ (SelectionFault d f ∨
      ∃ s, select path d = .ok s ∧ ConfigurationFault host (host.absolute path).parent s f) := by
  simp only [ofFile, bind_eq_error, readDocument_eq_fault, select_eq_fault, ofSelection_eq_fault]

theorem outside_eq_fault (master : String) : outside host kubeconfig master = .error (.fault f) ↔
    accessFile host kubeconfig = .error f ∨ ∃ path, accessFile host kubeconfig = .ok path ∧
      (host.files.exists? (.ofString path) = .error f ∨
        host.files.exists? (.ofString path) = .ok true ∧ ofFile host path = .error (.fault f)) := by
  rw [outside, bind_eq_error, lift_eq_fault]
  refine or_congr_right (exists_congr fun path => ?_)
  rw [lift_eq_ok, bind_eq_error, lift_eq_fault]
  refine and_congr_right fun _ => or_congr_right ?_
  constructor
  · rintro ⟨found, asked, h⟩
    cases found with
    | true => exact ⟨lift_eq_ok.mp asked, bind_pure_eq_error.mp h⟩
    | false =>
      rw [if_neg Bool.false_ne_true] at h
      split at h <;> cases h
  · rintro ⟨asked, h⟩
    exact ⟨true, lift_eq_ok.mpr asked, bind_pure_eq_error.mpr h⟩

/-- Either the files of a container fail, or it is outside the cluster. -/
theorem load_eq_fault_cases (master : String) : load host kubeconfig master = .error (.fault f) ↔
    kubeconfig = "" ∧ AccountFault host f ∨
      (kubeconfig ≠ "" ∨ server? host = none) ∧ outside host kubeconfig master = .error (.fault f) := by
  by_cases given : kubeconfig = ""
  · subst given
    rw [load_eq, if_neg (by decide), bind_eq_error, inCluster_eq_fault]
    simp only [true_and, ne_eq, not_true_eq_false, false_or]
    refine or_congr_right ⟨?_, ?_⟩
    · rintro ⟨found, origin, h⟩
      cases found with
      | some config => cases h
      | none => exact ⟨server?_of_inCluster origin, h⟩
    · rintro ⟨outer, h⟩
      exact ⟨none, inCluster_of_none outer, h⟩
  · rw [load_of_given given]
    simp [given]

theorem load_eq_fault (master : String) :
    load host kubeconfig master = .error (.fault f) ↔ Escape host kubeconfig f := by
  rw [load_eq_fault_cases, outside_eq_fault]
  simp only [ofFile_eq_fault]
  constructor
  · rintro (⟨unset, h⟩ | ⟨outer, h | ⟨path, access, h | ⟨there, h⟩⟩⟩)
    · exact .account unset h
    · exact .home outer h
    · exact .search outer access h
    · have file : Consults host kubeconfig path := ⟨outer, access, there⟩
      rcases h with h | ⟨d, read, h | ⟨s, selected, h⟩⟩
      · exact .document file h
      · exact .selection file read h
      · exact .configuration file read selected h
  · intro h
    cases h with
    | account unset h => exact .inl ⟨unset, h⟩
    | home outer h => exact .inr ⟨outer, .inl h⟩
    | search outer access h => exact .inr ⟨outer, .inr ⟨_, access, .inl h⟩⟩
    | document file h => exact .inr ⟨file.outer, .inr ⟨_, file.access, .inr ⟨file.there, .inl h⟩⟩⟩
    | selection file read h =>
      exact .inr ⟨file.outer, .inr ⟨_, file.access, .inr ⟨file.there, .inr ⟨_, read, .inl h⟩⟩⟩⟩
    | configuration file read selected h =>
      exact .inr ⟨file.outer, .inr ⟨_, file.access, .inr ⟨file.there, .inr ⟨_, read, .inr ⟨_, selected, h⟩⟩⟩⟩⟩

end

end ClusterConfig

/-! ### What the program makes of it -/

namespace Launch

/-- The program comes to connect to the cluster: its settings are loaded and its port is open. -/
structure Connects (l : Launch) (settings : Settings) (level : Nat) : Prop where
  configured : ∃ p, CommandLine.parse l.arguments = .ok p ∧ (configure l.host p).outcome = .ok (settings, level)
  greeted : (greeting settings).outcome = .ok ()
  opened : l.openStation.2.outcome = .ok ()
  working : settings.test = false

/-- The program ends after a last line at the level of errors. -/
def Reports (l : Launch) (level : Nat) (line : String) : Prop :=
  ∃ before closed, l.start = .over none ⟨before ++ shownAt level [⟨.error, line⟩], closed, .exit 1⟩

variable {l : Launch} {settings : Settings} {level : Nat}

theorem withSettings_of_opened (opened : l.openStation.2.outcome = .ok ()) (working : settings.test = false)
    (shown : List LogLine) : l.withSettings settings level shown =
      l.build settings level (shown ++ shownAt level l.openStation.2.lines) l.openStation.1 := by
  rw [withSettings]
  cases station : l.openStation with
  | mk s opening =>
    rw [station] at opened
    dsimp only
    rw [opened]
    dsimp only
    rw [working, if_neg Bool.false_ne_true]

theorem start_of_connects (h : Connects l settings level) :
    ∃ shown s, l.start = l.build settings level shown s := by
  obtain ⟨⟨p, parsed, configured⟩, greeted, opened, working⟩ := h
  have started : l.start = l.withSettings settings level
      (shownAt l.firstLevel (configure l.host p).lines ++ shownAt level (greeting settings).lines) := by
    rw [start, parsed]
    dsimp only
    rw [configured]
    dsimp only
    rw [greeted]
  exact ⟨_, _, started.trans (withSettings_of_opened opened working _)⟩

theorem connect_of_load {e : ClusterConfig.Error}
    (h : ClusterConfig.load l.host settings.kubeconfig settings.master = .error e) :
    l.connect settings = .error e := by
  rw [connect, h]
  rfl

section
variable (connects : Connects l settings level)
include connects

/-- An error that the configuration foresees is reported with its message. -/
theorem reports_of_load {e : ClusterConfig.Error} (plain : ∀ f, e ≠ .fault f)
    (h : ClusterConfig.load l.host settings.kubeconfig settings.master = .error e) :
    Reports l level ("Failed to create Kubernetes client: " ++ e.message) := by
  obtain ⟨shown, s, started⟩ := start_of_connects connects
  refine ⟨shown, s.responder.close, started.trans ?_⟩
  rw [build, connect_of_load h]
  cases e with
  | fault f => exact absurd rfl (plain f)
  | _ => rfl

/-- A path that is too long is reported as if the responder had failed. -/
theorem reports_of_longPath
    (h : ClusterConfig.load l.host settings.kubeconfig settings.master = .error (.fault .longPath)) :
    Reports l level "Failed to start mDNS responder: *" := by
  obtain ⟨shown, s, started⟩ := start_of_connects connects
  refine ⟨shown, s.responder.close, started.trans ?_⟩
  rw [build, connect_of_load h]

/-- Any other fault ends the program without a word. -/
theorem breaks_of_load {f : Fault} (other : f ≠ .longPath)
    (h : ClusterConfig.load l.host settings.kubeconfig settings.master = .error (.fault f)) :
    ∃ shown closed, l.start = .over none ⟨shown, closed, .fault f⟩ := by
  obtain ⟨shown, s, started⟩ := start_of_connects connects
  refine ⟨shown, s.responder.close, started.trans ?_⟩
  rw [build, connect_of_load h]
  cases f with
  | longPath => exact absurd rfl other
  | _ => rfl

end

end Launch

namespace ClusterConfig

/-- Loading fails with a fault in the ways of `Escape` and in no other. The program reports the other errors with their
messages, and ends with 1. Of the faults it reports a path that is too long, as a failure of the responder; with
any other it ends without a word. -/
theorem load_fault_iff_escape (host : Host) (kubeconfig master : String) :
    (∀ f, load host kubeconfig master = .error (.fault f) ↔ Escape host kubeconfig f) ∧
    ∀ (l : Launch) (settings : Settings) (level : Nat), l.Connects settings level →
      (∀ e, (∀ f, e ≠ .fault f) → load l.host settings.kubeconfig settings.master = .error e →
        l.Reports level ("Failed to create Kubernetes client: " ++ e.message)) ∧
      (Escape l.host settings.kubeconfig .longPath → l.Reports level "Failed to start mDNS responder: *") ∧
      ∀ f, f ≠ .longPath → Escape l.host settings.kubeconfig f →
        ∃ shown closed, l.start = .over none ⟨shown, closed, .fault f⟩ := by
  refine ⟨fun f => load_eq_fault master, fun l settings level connects => ⟨fun e plain h => ?_, fun escape => ?_,
    fun f other escape => ?_⟩⟩
  · exact Launch.reports_of_load connects plain h
  · exact Launch.reports_of_longPath connects ((load_eq_fault settings.master).mpr escape)
  · exact Launch.breaks_of_load connects other ((load_eq_fault settings.master).mpr escape)

/-! ### Access files of little content -/

/-- A machine with an access file. -/
def hostWith (content : List UInt8) : Host where
  files := { here := [(["config"], .file content)] }
  environment := [("KUBECONFIG", "config")]

/-- The program on a machine, publishing for one kind of source. -/
def launchOn (host : Host) : Launch :=
  { host, arguments := ["--source=ingress"] }

theorem connects_launchOn (host : Host)
    (h : ((CommandLine.parse (launchOn host).arguments).toOption.bind fun p =>
      (Launch.configure host p).outcome.toOption.map fun s =>
        (s.1.kubeconfig, s.1.master, s.1.test, s.1.isWritable)) = some ("", "", false, true)) :
    ∃ settings level, (launchOn host).Connects settings level ∧ settings.kubeconfig = "" ∧ settings.master = "" := by
  obtain ⟨p, parsed, h⟩ := Option.bind_eq_some_iff.mp h
  obtain ⟨⟨settings, level⟩, configured, fields⟩ := Option.map_eq_some_iff.mp h
  simp only [Prod.mk.injEq] at fields
  obtain ⟨kubeconfig, master, working, writable⟩ := fields
  refine ⟨settings, level, ⟨⟨p, eq_ok_of_toOption parsed, eq_ok_of_toOption configured⟩, ?_, rfl, working⟩,
    kubeconfig, master⟩
  rw [Launch.greeting, writable]
  rfl

deriving instance DecidableEq for Error

def error? {α : Type} : Except Error α → Option Error
  | .error e => some e
  | .ok _ => none

theorem eq_error_of_error? {α : Type} {x : Except Error α} {e : Error} (h : error? x = some e) : x = .error e := by
  cases x with
  | error _ => exact congrArg Except.error (Option.some.inj h)
  | ok _ => cases h

/-- An access file that holds a list. -/
def listHost : Host :=
  hostWith (Text.Utf8.encode "- dev\n".toList)

/-- A name of 64 characters with four bytes each, which no file can have. -/
def longName : String :=
  String.ofList (List.replicate 64 '𝄞')

def longHost : Host :=
  { hostWith [] with environment := [("KUBECONFIG", longName)] }

theorem escape_longName : Escape longHost "" .longPath := by
  have chars : longName.toList = List.replicate 64 '𝄞' := String.toList_ofList
  have bare : FileName longName := ⟨by simp [chars], by simp [chars], by simp [chars]⟩
  have access : accessFile longHost "" = .ok longName := by
    have wanted : longHost.variableOr "KUBECONFIG" = longName := rfl
    have whole : Text.splitOn ':' longName = [longName] := by
      have bare : ∀ c ∈ longName.toList, (c == ':') = false := by simp [chars]
      rw [Text.splitOn, Text.splitChars_single bare, List.map_singleton, String.ofList_toList]
    rw [accessFile, if_neg (by decide), defaultPath, wanted, whole]
    exact if_pos (bne_iff_ne.mpr bare.ne_empty)
  have long : longHost.files.find longName = .error .longPath := by
    refine FileSystem.find_of_long bare rfl ?_ ?_ ?_
    · rw [chars]
      decide +kernel
    · rw [FileTree.bytesOf, chars]
      decide +kernel
    · rw [FileTree.bytesOf, chars]
      decide +kernel
  refine .search (.inr rfl) access ?_
  rw [FileSystem.exists?, FileSystem.look?, bare.text_ofString, long]
  rfl

/-- A list is no access file, and the program ends without a word about it. It does report that an empty access file
has no context, and a path that is too long. -/
theorem load_fault_iff_escape_list :
    load listHost "" "" = .error (.fault .noOperation) ∧
    (∃ shown closed, (launchOn listHost).start = .over none ⟨shown, closed, .fault .noOperation⟩) ∧
    (∃ level, (launchOn (hostWith [])).Reports level
      "Failed to create Kubernetes client: kubeconfig config has no current-context") ∧
    ∃ level, (launchOn longHost).Reports level "Failed to start mDNS responder: *" := by
  obtain ⟨faults, program⟩ := load_fault_iff_escape listHost "" ""
  have read : (readDocument listHost "config").toOption = some (.list [.str "dev"]) := by
    decide +kernel
  have single : ¬ (Value.list [.str "dev"]).IsMapping := fun ⟨_, mapping⟩ => nomatch mapping
  have file : Consults listHost "" "config" := ⟨.inr rfl, eq_ok_of_toOption (by decide +kernel), rfl⟩
  have listed : Escape listHost "" .noOperation := .selection file (eq_ok_of_toOption read) (.document single)
  refine ⟨(faults _).mpr listed, ?_, ?_, ?_⟩
  · obtain ⟨settings, level, connects, given, -⟩ := connects_launchOn listHost (by decide +kernel)
    exact (program _ settings level connects).2.2 _ nofun (given ▸ listed)
  · have empty : load (hostWith []) "" "" = .error (.noCurrentContext "config") :=
      eq_error_of_error? (by decide +kernel)
    obtain ⟨settings, level, connects, given, master⟩ := connects_launchOn (hostWith []) (by decide +kernel)
    refine ⟨level, (program _ settings level connects).1 (.noCurrentContext "config") nofun ?_⟩
    rw [given, master]
    exact empty
  · obtain ⟨settings, level, connects, given, -⟩ := connects_launchOn longHost (by decide +kernel)
    exact ⟨level, (program _ settings level connects).2.1 (given ▸ escape_longName)⟩

/-- The authority of the cluster is given in one character. -/
def scantData : List String :=
  ["current-context: d", "contexts:", "- name: d", "  context:", "    cluster: c", "clusters:", "- name: c",
    "  cluster:", "    server: s", "    certificate-authority-data: x"]

/-- Faults of four kinds come of what an access file holds: a list, a byte that is no text, a number in the place of a
list, and data that is no base 64. -/
theorem faults_of_access_file :
    load listHost "config" "" = .error (.fault .noOperation) ∧
    load (hostWith [0xFF]) "config" "" = .error (.fault .undecodable) ∧
    load (hostWith (Text.Utf8.encode "current-context: dev\ncontexts: 5\n".toList)) "config" "" =
      .error (.fault .wrongKind) ∧
    load (hostWith (Text.Utf8.encode (scantData.flatMap fun line => line.toList ++ ['\n']))) "config" "" =
      .error (.fault .badValue) :=
  ⟨eq_error_of_error? (by decide +kernel), eq_error_of_error? (by decide +kernel),
    eq_error_of_error? (by decide +kernel), eq_error_of_error? (by decide +kernel)⟩

end ClusterConfig

end ClusterMdns
