import ClusterMdns.Proofs.Record.Meaning

/-! The addresses of a resource one by one. Each contributes the lines that it has alone; texts that are no
address, and hidden addresses, contribute none. An exposed address with a scope spoils all lines, for it has no
name for reverse look-ups. -/

namespace ClusterMdns

open Document

theorem Address.reverseName?_of_scope {a : Address} (h : a.scope? ≠ none) : a.reverseName? = none := by
  cases a with
  | v4 a => exact absurd rfl h
  | v6 a =>
    obtain ⟨scope, hs⟩ := Option.ne_none_iff_exists'.mp h
    have named : a.scope = some scope := hs
    rw [reverseName?, AddressV6.reverseName?, named]

namespace RecordPolicy

variable (policy : RecordPolicy) {r : Resource} {s : String}

/-- The addresses that are advertised: those that can be read and are not hidden. -/
def exposed (given : List String) : List Address :=
  (given.filterMap Address.read?).filter policy.exposes

/-- No scope stands against writing lines for the text. -/
def Writable (s : String) : Prop :=
  ∀ a ∈ Address.read? s, policy.exposes a = true → a.scope? = none

instance (s : String) : Decidable (policy.Writable s) :=
  inferInstanceAs (Decidable (∀ a ∈ Address.read? s, policy.exposes a = true → a.scope? = none))

/-- The lines of one address. -/
def linesFor (r : Resource) (a : Address) : List RecordLine :=
  a.reverseName?.elim [] (policy.linesAt r a)

/-- What is logged of a text that is no address. -/
def skipping (r : Resource) (s : String) : LogLine :=
  ⟨.warning, "Skipping unparsable address '" ++ s ++ "' for " ++ textsLiteral r.names⟩

theorem exposed_cons (s : String) (given : List String) :
    policy.exposed (s :: given) = policy.exposed [s] ++ policy.exposed given := by
  simp only [exposed, ← List.filter_append, ← List.filterMap_append, List.singleton_append]

/-! ### One text -/

/-- What can become of a text. -/
inductive Fate (r : Resource) (s : String) : Logged Fault (List RecordLine) → Prop
  | unreadable (read : Address.read? s = none) : Fate r s ⟨[skipping r s], .ok []⟩
  | hidden {a : Address} (read : Address.read? s = some a) (hidden : policy.exposes a = false) :
      Fate r s ⟨[], .ok []⟩
  | written {a : Address} (read : Address.read? s = some a) (shown : policy.exposes a = true)
      (scopeless : a.scope? = none) : Fate r s ⟨[], .ok (policy.linesFor r a)⟩
  | spoiled {a : Address} (read : Address.read? s = some a) (shown : policy.exposes a = true)
      (scope : a.scope? ≠ none) : Fate r s ⟨[], .error .badValue⟩

theorem linesOf_fate (r : Resource) (s : String) : policy.Fate r s (policy.linesOf r (.str s)) := by
  have text : (Value.str s).asText = .ok s := rfl
  rw [linesOf, text, Logged.lift_ok_bind]
  cases read : Address.read? s with
  | none => exact .unreadable read
  | some a =>
    cases shown : policy.exposes a with
    | false =>
      simp only [shown]
      exact .hidden read shown
    | true =>
      by_cases scope : a.scope? = none
      · obtain ⟨reverse, hr, -⟩ := Address.spells_reverseName scope
        have lines : policy.linesAt r a reverse = policy.linesFor r a := by rw [linesFor, hr]; rfl
        simp only [shown, hr, lines]
        exact .written read shown scope
      · simp only [shown, Address.reverseName?_of_scope scope]
        exact .spoiled read shown scope

/-- The texts that are skipped with a warning. -/
def unreadable (given : List String) : List String :=
  given.filter fun s => (Address.read? s).isNone

theorem linesOf_of_writable (r : Resource) (h : policy.Writable s) : policy.linesOf r (.str s) =
    ⟨(unreadable [s]).map (skipping r), .ok ((policy.exposed [s]).flatMap (policy.linesFor r))⟩ := by
  have fate := policy.linesOf_fate r s
  generalize policy.linesOf r (.str s) = found at fate ⊢
  cases fate with
  | unreadable read => simp [unreadable, exposed, read]
  | hidden read hidden => simp [unreadable, exposed, read, hidden]
  | written read shown _ => simp [unreadable, exposed, read, shown]
  | spoiled read shown scope => exact absurd (h _ read shown) scope

theorem linesOf_of_not_writable (r : Resource) (h : ¬ policy.Writable s) :
    (policy.linesOf r (.str s)).outcome = .error .badValue := by
  have only {a : Address} (read : Address.read? s = some a)
      (scopeless : policy.exposes a = true → a.scope? = none) : policy.Writable s := by
    intro b hb
    cases read.symm.trans hb
    exact scopeless
  have fate := policy.linesOf_fate r s
  generalize policy.linesOf r (.str s) = found at fate ⊢
  cases fate with
  | unreadable read => exact absurd (fun _ ha => nomatch read.symm.trans ha) h
  | hidden read hidden => exact absurd (only read fun shown => nomatch hidden.symm.trans shown) h
  | written read _ scopeless => exact absurd (only read fun _ => scopeless) h
  | spoiled => rfl

/-! ### All of them -/

/-- Nothing of a resource is written but what its addresses contribute one by one. -/
theorem linesOfAll_eq_ok_iff {given : List Value} {lines : List RecordLine} :
    (policy.linesOfAll r given).outcome = .ok lines ↔ ∃ parts,
      List.Forall₂ (fun v part => (policy.linesOf r v).outcome = .ok part) given parts ∧
        lines = parts.flatten := by
  induction given generalizing lines with
  | nil =>
    have nothing : (policy.linesOfAll r []).outcome = .ok [] := rfl
    simp [nothing, eq_comm]
  | cons v given ih =>
    simp only [linesOfAll, Logged.outcome_bind, bind_eq_ok, Logged.outcome_pure, ih]
    constructor
    · rintro ⟨part, first, more, ⟨parts, later, rfl⟩, h⟩
      exact ⟨part :: parts, .cons first later, (Except.ok.inj h).symm⟩
    · rintro ⟨_, ⟨⟩ | ⟨first, later⟩, rfl⟩
      exact ⟨_, first, _, ⟨_, later, rfl⟩, rfl⟩

theorem linesOfAll_of_writable {given : List String} (h : ∀ s ∈ given, policy.Writable s) :
    policy.linesOfAll r (given.map Value.str) =
      ⟨(unreadable given).map (skipping r), .ok ((policy.exposed given).flatMap (policy.linesFor r))⟩ := by
  induction given with
  | nil => rfl
  | cons s given ih =>
    obtain ⟨first, later⟩ := List.forall_mem_cons.mp h
    have skipped : unreadable (s :: given) = unreadable [s] ++ unreadable given := by
      rw [unreadable, unreadable, unreadable, ← List.filter_append, List.singleton_append]
    rw [List.map_cons, linesOfAll, policy.linesOf_of_writable r first, ih later,
      policy.exposed_cons s given, skipped, List.map_append, List.flatMap_append]
    exact congrArg (Logged.mk · _) (congrArg _ (List.append_nil _))

theorem linesOfAll_of_not_writable {given : List String} (h : ¬ ∀ s ∈ given, policy.Writable s) :
    (policy.linesOfAll r (given.map Value.str)).outcome = .error .badValue := by
  induction given with
  | nil => exact absurd (List.forall_mem_nil _) h
  | cons s given ih =>
    simp only [List.map_cons, linesOfAll, Logged.outcome_bind]
    by_cases first : policy.Writable s
    · rw [policy.linesOf_of_writable r first, ih fun later => h (List.forall_mem_cons.mpr ⟨first, later⟩)]
      rfl
    · rw [policy.linesOf_of_not_writable r first]
      rfl

theorem text_of_linesOf {v : Value} {part : List RecordLine} (h : (policy.linesOf r v).outcome = .ok part) :
    ∃ s, v = .str s := by
  simp only [linesOf, Logged.outcome_bind, Logged.outcome_lift, bind_eq_ok] at h
  obtain ⟨s, text, -⟩ := h
  unfold Value.asText at text
  split at text
  · exact ⟨_, rfl⟩
  · cases text
  · cases text

/-- Lines are written if all addresses are texts and no exposed one has a scope. -/
theorem lines_eq_ok_iff {lines : List RecordLine} : (policy.lines r).outcome = .ok lines ↔
    ∃ given : List String, r.addresses = given.map Value.str ∧ (∀ s ∈ given, policy.Writable s) ∧
      lines = (policy.exposed given).flatMap (policy.linesFor r) := by
  constructor
  · intro h
    have texts : ∃ given : List String, r.addresses = given.map Value.str := by
      obtain ⟨parts, each, -⟩ := policy.linesOfAll_eq_ok_iff.mp h
      generalize r.addresses = addresses at each ⊢
      induction each with
      | nil => exact ⟨[], rfl⟩
      | cons first _ ih =>
        obtain ⟨s, rfl⟩ := policy.text_of_linesOf first
        obtain ⟨given, rfl⟩ := ih
        exact ⟨s :: given, rfl⟩
    obtain ⟨given, texts⟩ := texts
    rw [RecordPolicy.lines, texts] at h
    by_cases writable : ∀ s ∈ given, policy.Writable s
    · rw [policy.linesOfAll_of_writable writable] at h
      exact ⟨given, texts, writable, (Except.ok.inj h).symm⟩
    · cases (policy.linesOfAll_of_not_writable writable).symm.trans h
  · rintro ⟨given, texts, writable, rfl⟩
    rw [RecordPolicy.lines, texts, policy.linesOfAll_of_writable writable]

theorem lines_of_one (r : Resource) (v : Value) :
    (policy.lines { r with addresses := [v] }).outcome = (policy.linesOf r v).outcome := by
  have one : (policy.lines { r with addresses := [v] }).outcome =
      (policy.linesOf r v).outcome >>= fun here => .ok (here ++ []) := by
    simp only [lines, linesOfAll, Logged.outcome_bind]
    rfl
  rw [one]
  cases (policy.linesOf r v).outcome with
  | error => rfl
  | ok here => exact congrArg Except.ok (List.append_nil here)

/-- Lines are written exactly if no exposed address has a scope. They are those of the addresses one by one, in
order; a text that is no address or is hidden has none, and a warning is logged of the former. -/
theorem lines_address_by_address {given : List String} (h : r.addresses = given.map Value.str) :
    ((∃ lines, (policy.lines r).outcome = .ok lines) ↔ ∀ s ∈ given, policy.Writable s) ∧
    ((¬ ∀ s ∈ given, policy.Writable s) → (policy.lines r).outcome = .error .badValue) ∧
    (∀ lines, (policy.lines r).outcome = .ok lines ↔ ∃ parts, List.Forall₂ (fun s part =>
      (policy.lines { r with addresses := [.str s] }).outcome = .ok part) given parts ∧ lines = parts.flatten) ∧
    (∀ s, (∀ a ∈ Address.read? s, policy.exposes a = false) →
      (policy.lines { r with addresses := [.str s] }).outcome = .ok []) ∧
    ((∀ s ∈ given, policy.Writable s) → (policy.lines r).lines = (unreadable given).map (skipping r)) := by
  have all : policy.lines r = policy.linesOfAll r (given.map Value.str) := congrArg _ h
  refine ⟨?_, fun scope => ?_, fun lines => ?_, fun s hidden => ?_, fun writable => ?_⟩
  · rw [all]
    constructor
    · rintro ⟨lines, written⟩
      by_contra scope
      cases (policy.linesOfAll_of_not_writable scope).symm.trans written
    · intro writable
      rw [policy.linesOfAll_of_writable writable]
      exact ⟨_, rfl⟩
  · rw [all, policy.linesOfAll_of_not_writable scope]
  · rw [all, linesOfAll_eq_ok_iff]
    simp only [List.forall₂_map_left_iff, lines_of_one]
  · have writable : policy.Writable s := fun a ha shown => nomatch (hidden a ha).symm.trans shown
    have nothing : policy.exposed [s] = [] := by
      cases read : Address.read? s with
      | none => simp [exposed, read]
      | some a => simp [exposed, read, hidden a read]
    rw [lines_of_one, policy.linesOf_of_writable r writable, nothing]
    rfl
  · rw [all, policy.linesOfAll_of_writable writable]

/-! ### A link-local address among others -/

def linkLocal : Resource :=
  { webResource with addresses := ["fe80::1%eth0", "192.0.2.7", "web.shop"].map Value.str }

/-- As long as its version is hidden, the scope does no harm. -/
theorem lines_address_by_address_hidden :
    (∃ lines, (RecordPolicy.lines {} linkLocal).outcome = .ok lines) ∧
      (RecordPolicy.lines {} linkLocal).lines =
        [⟨.warning, "Skipping unparsable address 'web.shop' for ['web', 'api.web']"⟩] := by
  obtain ⟨some, -, -, -, logged⟩ := lines_address_by_address {} (r := linkLocal) rfl
  have writable : ∀ s ∈ ["fe80::1%eth0", "192.0.2.7", "web.shop"], RecordPolicy.Writable {} s := by
    decide +kernel
  refine ⟨some.mpr writable, (logged writable).trans ?_⟩
  decide +kernel

/-- Where it is exposed, not even the line of the other address is written. -/
theorem scope_spoils_lines :
    (RecordPolicy.lines { exposeV6 := true } linkLocal).outcome = .error .badValue := by
  have read : Address.read? "fe80::1%eth0" = some (.v6 ⟨#v[0xfe80, 0, 0, 0, 0, 0, 0, 1], some "eth0"⟩) := by
    decide +kernel
  have scope : ¬ RecordPolicy.Writable { exposeV6 := true } "fe80::1%eth0" :=
    fun writable => nomatch writable _ read rfl
  exact linesOfAll_of_not_writable _ fun writable => scope (writable _ List.mem_cons_self)

end RecordPolicy

end ClusterMdns
