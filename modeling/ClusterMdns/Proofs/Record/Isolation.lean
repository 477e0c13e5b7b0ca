import ClusterMdns.Proofs.Hostname.Label
import ClusterMdns.Proofs.Record.Pairs

/-! Namespaced names and the resources they lead to. The dotted form tells name and namespace. The hyphenated one
does not, since labels may hold hyphens themselves: two resources share it exactly if they share name and namespace
or if a label stands at the end of the one's name and, with a hyphen behind it, before the other's namespace. -/

namespace ClusterMdns

open Document Hostname

/-! ### Two parts and a separator -/

section
variable {α : Type} {sep : α} {a b c d : List α}

/-- Where two texts of two parts are equal, so are the parts, or one first part goes on behind the other. -/
theorem joined_eq_iff : a ++ sep :: b = c ++ sep :: d ↔
    a = c ∧ b = d ∨ (∃ m, a = c ++ sep :: m ∧ d = m ++ sep :: b) ∨ ∃ m, c = a ++ sep :: m ∧ b = m ++ sep :: d := by
  constructor
  · intro h
    rcases List.append_eq_append_iff.mp h with ⟨m, rfl, behind⟩ | ⟨m, rfl, behind⟩
    · cases m with
      | nil => exact .inl ⟨(List.append_nil a).symm, (List.cons.inj behind).2⟩
      | cons x m =>
        obtain ⟨rfl, rest⟩ := List.cons.inj behind
        exact .inr (.inr ⟨m, rfl, rest⟩)
    · cases m with
      | nil => exact .inl ⟨List.append_nil c, (List.cons.inj behind).2.symm⟩
      | cons x m =>
        obtain ⟨rfl, rest⟩ := List.cons.inj behind
        exact .inr (.inl ⟨m, rfl, rest⟩)
  · rintro (⟨rfl, rfl⟩ | ⟨m, rfl, rfl⟩ | ⟨m, rfl, rfl⟩)
    · rfl
    · simp
    · simp

/-- A separator that stands in neither first part tells the parts. -/
theorem joined_inj (ha : sep ∉ a) (hc : sep ∉ c) : a ++ sep :: b = c ++ sep :: d ↔ a = c ∧ b = d := by
  rw [joined_eq_iff]
  refine or_iff_left ?_
  rintro (⟨m, rfl, -⟩ | ⟨m, rfl, -⟩)
  · exact ha (List.mem_append_right c List.mem_cons_self)
  · exact hc (List.mem_append_right a List.mem_cons_self)

end

/-! ### Labels -/

namespace Hostname.ProperLabel

variable {front m back : List Char}

theorem no_dot (h : ProperLabel m) : '.' ∉ m := by
  intro dot
  rcases h.plain '.' dot with letter | hyphen
  · exact absurd letter (by decide)
  · exact absurd hyphen (by decide)

/-- What stands between a hyphen in one label and a hyphen in another is a label if it is both the end of the one
and the beginning of the other. -/
theorem between (end_of : ProperLabel (front ++ '-' :: m)) (begin_of : ProperLabel (m ++ '-' :: back)) :
    ProperLabel m := by
  have last : (front ++ '-' :: m).getLast? = ('-' :: m).getLast? :=
    List.getLast?_append_of_ne_nil _ (List.cons_ne_nil _ _)
  have last_ne := end_of.last_ne
  rw [last] at last_ne
  have short := end_of.short
  cases m with
  | nil => exact absurd rfl last_ne
  | cons c m =>
    refine ⟨by simp, ?_, fun x hx => ?_, begin_of.head_ne, ?_⟩
    · rw [List.length_append, List.length_cons] at short
      omega
    · exact end_of.plain x (List.mem_append_right _ (List.mem_cons_of_mem _ hx))
    · rwa [List.getLast?_cons_cons] at last_ne

end Hostname.ProperLabel

/-! ### Namespaced forms -/

/-- Every name of the resource is a single label, and so is its namespace. -/
structure Resource.Labelled (r : Resource) (space : String) : Prop where
  given : r.namespaceName = .str space
  space : ProperLabel space.toList
  names : ∀ name ∈ r.names, ProperLabel name.toList

/-- The owner is one of the two namespaced forms of the name. -/
inductive Resource.Form (r : Resource) (name : String) : String → Prop
  | dotted : r.Form name (r.dottedName name)
  | hyphenated : r.Form name (r.hyphenatedName name)

/-- The owner is a namespaced form of the name, and a line of the resource leads from it to an address. -/
structure RecordPolicy.Answers (policy : RecordPolicy) (r : Resource) (name owner : String) : Prop where
  named : name ∈ r.names
  form : r.Form name owner
  leads : ∃ lines, (policy.lines r).outcome = .ok lines ∧ ∃ l ∈ lines, l.kind ≠ .ptr ∧ l.owner = owner

/-- A label ends the one's name behind a hyphen, and begins the other's namespace before one; all else is the
same. -/
def Shifted (name space other otherSpace : String) : Prop :=
  ∃ label : String, ProperLabel label.toList ∧ name = other ++ "-" ++ label ∧ otherSpace = label ++ "-" ++ space

section
variable {r r₁ r₂ : Resource} {space space₁ space₂ name₁ name₂ : String}

theorem toList_dottedName (given : r.namespaceName = .str space) (name : String) :
    (r.dottedName name).toList = (name.toList ++ '.' :: space.toList) ++ ".local.".toList := by
  have text : r.namespaceName.text = space := by rw [given]; rfl
  rw [Resource.dottedName, text]
  simp

theorem toList_hyphenatedName (given : r.namespaceName = .str space) (name : String) :
    (r.hyphenatedName name).toList = (name.toList ++ '-' :: space.toList) ++ ".local.".toList := by
  have text : r.namespaceName.text = space := by rw [given]; rfl
  rw [Resource.hyphenatedName, text]
  simp

theorem dottedName_eq_iff (h₁ : r₁.Labelled space₁) (h₂ : r₂.Labelled space₂) (hn₁ : name₁ ∈ r₁.names)
    (hn₂ : name₂ ∈ r₂.names) :
    r₁.dottedName name₁ = r₂.dottedName name₂ ↔ name₁ = name₂ ∧ space₁ = space₂ := by
  rw [← String.toList_inj, toList_dottedName h₁.given, toList_dottedName h₂.given, List.append_cancel_right_eq,
    joined_inj (h₁.names _ hn₁).no_dot (h₂.names _ hn₂).no_dot, String.toList_inj, String.toList_inj]

/-- The dotted form has a label more than the hyphenated one. -/
theorem dottedName_ne_hyphenatedName (h₁ : r₁.namespaceName = .str space₁) (h₂ : r₂.Labelled space₂)
    (hn₂ : name₂ ∈ r₂.names) : r₁.dottedName name₁ ≠ r₂.hyphenatedName name₂ := by
  intro h
  rw [← String.toList_inj, toList_dottedName h₁, toList_hyphenatedName h₂.given,
    List.append_cancel_right_eq] at h
  have dot : '.' ∈ name₂.toList ++ '-' :: space₂.toList := h ▸ List.mem_append_right _ List.mem_cons_self
  rcases List.mem_append.mp dot with dot | dot
  · exact (h₂.names _ hn₂).no_dot dot
  · exact h₂.space.no_dot ((List.mem_cons.mp dot).resolve_left (by decide))

theorem shifted_iff (label₁ : ProperLabel name₁.toList) (label₂ : ProperLabel space₂.toList) :
    (∃ m, name₁.toList = name₂.toList ++ '-' :: m ∧ space₂.toList = m ++ '-' :: space₁.toList) ↔
      Shifted name₁ space₁ name₂ space₂ := by
  constructor
  · rintro ⟨m, hn, hs⟩
    rw [hn] at label₁
    rw [hs] at label₂
    refine ⟨String.ofList m, ?_, ?_, ?_⟩
    · rw [String.toList_ofList]
      exact label₁.between label₂
    · rw [← String.toList_inj, hn]
      simp
    · rw [← String.toList_inj, hs]
      simp
  · rintro ⟨label, -, rfl, rfl⟩
    exact ⟨label.toList, by simp, by simp⟩

theorem hyphenatedName_eq_iff (h₁ : r₁.Labelled space₁) (h₂ : r₂.Labelled space₂) (hn₁ : name₁ ∈ r₁.names)
    (hn₂ : name₂ ∈ r₂.names) : r₁.hyphenatedName name₁ = r₂.hyphenatedName name₂ ↔
      name₁ = name₂ ∧ space₁ = space₂ ∨ Shifted name₁ space₁ name₂ space₂ ∨ Shifted name₂ space₂ name₁ space₁ := by
  rw [← String.toList_inj, toList_hyphenatedName h₁.given, toList_hyphenatedName h₂.given,
    List.append_cancel_right_eq, joined_eq_iff, String.toList_inj, String.toList_inj,
    shifted_iff (h₁.names _ hn₁) h₂.space, shifted_iff (h₂.names _ hn₂) h₁.space]

end

/-! ### Answers for a namespaced name -/

namespace RecordPolicy

variable {policy : RecordPolicy} {r r₁ r₂ : Resource} {space₁ space₂ name : String} {lines : List RecordLine}

/-- If lines are written at all, both forms of each name lead to an address. -/
theorem answers_of_lines (written : (policy.lines r).outcome = .ok lines) (some_line : lines ≠ [])
    (named : name ∈ r.names) {owner : String} (form : r.Form name owner) : policy.Answers r name owner := by
  obtain ⟨given, -, writable, all⟩ := policy.lines_eq_ok_iff.mp written
  have some_address : policy.exposed given ≠ [] := by
    intro none
    rw [none] at all
    exact some_line all
  obtain ⟨a, ha⟩ := List.exists_mem_of_ne_nil _ some_address
  obtain ⟨reverse, hr, -⟩ := Address.spells_reverseName (scopeless_of_mem_exposed writable ha)
  have owned : owner ∈ policy.owners r := by
    rw [mem_owners]
    cases form with
    | dotted => exact ⟨name, named, .inl rfl⟩
    | hyphenated => exact ⟨name, named, .inr (.inl rfl)⟩
  have line : policy.forward a owner ∈ lines := by
    rw [all, mem_lines_iff]
    exact ⟨a, ha, reverse, hr, owner, owned, .inl rfl⟩
  exact ⟨named, form, lines, written, _, line, lineKind_ne_ptr a, rfl⟩

/-- Two resources answer for one namespaced name only if they share name and namespace, unless it is the hyphenated
form of both and a label is shifted. If one is, both answer for that form as soon as lines are written for both. -/
theorem namespaced_name_shared (policy : RecordPolicy) (h₁ : r₁.Labelled space₁) (h₂ : r₂.Labelled space₂) :
    (∀ name₁ name₂ owner, policy.Answers r₁ name₁ owner → policy.Answers r₂ name₂ owner →
      name₁ = name₂ ∧ space₁ = space₂ ∨
        owner = r₁.hyphenatedName name₁ ∧ owner = r₂.hyphenatedName name₂ ∧
          (Shifted name₁ space₁ name₂ space₂ ∨ Shifted name₂ space₂ name₁ space₁)) ∧
    ∀ name₁ ∈ r₁.names, ∀ name₂ ∈ r₂.names, Shifted name₁ space₁ name₂ space₂ →
      ∀ lines₁ lines₂, (policy.lines r₁).outcome = .ok lines₁ → lines₁ ≠ [] →
        (policy.lines r₂).outcome = .ok lines₂ → lines₂ ≠ [] →
          ∃ owner, policy.Answers r₁ name₁ owner ∧ policy.Answers r₂ name₂ owner := by
  refine ⟨fun name₁ name₂ owner here there => ?_, ?_⟩
  · obtain ⟨hn₁, form₁, -⟩ := here
    obtain ⟨hn₂, form₂, -⟩ := there
    cases form₁ with
    | dotted =>
      generalize same : r₁.dottedName name₁ = owner at form₂
      cases form₂ with
      | dotted => exact .inl ((dottedName_eq_iff h₁ h₂ hn₁ hn₂).mp same)
      | hyphenated => exact absurd same (dottedName_ne_hyphenatedName h₁.given h₂ hn₂)
    | hyphenated =>
      generalize same : r₁.hyphenatedName name₁ = owner at form₂
      cases form₂ with
      | dotted => exact absurd same.symm (dottedName_ne_hyphenatedName h₂.given h₁ hn₁)
      | hyphenated =>
        rcases (hyphenatedName_eq_iff h₁ h₂ hn₁ hn₂).mp same with equal | shifted
        · exact .inl equal
        · exact .inr ⟨rfl, rfl, shifted⟩
  · intro name₁ hn₁ name₂ hn₂ shifted lines₁ lines₂ written₁ some₁ written₂ some₂
    have same := (hyphenatedName_eq_iff h₁ h₂ hn₁ hn₂).mpr (.inr (.inl shifted))
    refine ⟨r₁.hyphenatedName name₁, answers_of_lines written₁ some₁ hn₁ .hyphenated, ?_⟩
    rw [same]
    exact answers_of_lines written₂ some₂ hn₂ .hyphenated

/-! ### A shop in one namespace, and its pages in another -/

def tenant (name space address : String) : Resource where
  source := .service
  action := .added
  names := [name]
  namespaceName := .str space
  addresses := [.str address]

def shopPages : Resource := tenant "shop-web" "eu" "192.0.2.1"

def webShop : Resource := tenant "shop" "web-eu" "192.0.2.2"

theorem labelled_tenant {name space : String} (address : String) (label : ProperLabel name.toList)
    (namespace_label : ProperLabel space.toList) : (tenant name space address).Labelled space :=
  ⟨rfl, namespace_label, List.forall_mem_singleton.mpr label⟩

theorem labelled_shopPages : shopPages.Labelled "eu" :=
  labelled_tenant _ (by decide) (by decide)

theorem labelled_webShop : webShop.Labelled "web-eu" :=
  labelled_tenant _ (by decide) (by decide)

theorem lines_tenant (name space : String) {address : String} {a : AddressV4}
    (read : Address.read? address = some (.v4 a)) :
    ∃ lines, (RecordPolicy.lines {} (tenant name space address)).outcome = .ok lines ∧ lines ≠ [] := by
  have only : List.Forall₂ ReadsV4 (tenant name space address).addresses [a] := .cons ⟨address, rfl, read⟩ .nil
  refine ⟨_, RecordPolicy.lines_outcome {} only, ?_⟩
  simp [linesAt, namespacedLines, tenant]

theorem lines_shopPages : ∃ lines, (RecordPolicy.lines {} shopPages).outcome = .ok lines ∧ lines ≠ [] := by
  have read : Address.read? "192.0.2.1" = some (.v4 ⟨192, 0, 2, 1⟩) := by decide +kernel
  exact lines_tenant _ _ read

theorem lines_webShop : ∃ lines, (RecordPolicy.lines {} webShop).outcome = .ok lines ∧ lines ≠ [] := by
  have read : Address.read? "192.0.2.2" = some (.v4 ⟨192, 0, 2, 2⟩) := by decide +kernel
  exact lines_tenant _ _ read

theorem namespaced_name_shared_shop :
    shopPages.Labelled "eu" ∧ webShop.Labelled "web-eu" ∧ Shifted "shop-web" "eu" "shop" "web-eu" ∧
      ∃ owner, RecordPolicy.Answers {} shopPages "shop-web" owner ∧
        RecordPolicy.Answers {} webShop "shop" owner := by
  have shifted : Shifted "shop-web" "eu" "shop" "web-eu" := ⟨"web", by decide, rfl, rfl⟩
  obtain ⟨lines₁, written₁, some₁⟩ := lines_shopPages
  obtain ⟨lines₂, written₂, some₂⟩ := lines_webShop
  refine ⟨labelled_shopPages, labelled_webShop, shifted, ?_⟩
  exact (namespaced_name_shared {} labelled_shopPages labelled_webShop).2 _ List.mem_cons_self _
    List.mem_cons_self shifted lines₁ lines₂ written₁ some₁ written₂ some₂

/-- The name `shop-web-eu.local.` leads to objects of two namespaces. -/
theorem hyphenated_name_not_isolated :
    shopPages.Labelled "eu" ∧ webShop.Labelled "web-eu" ∧
      RecordPolicy.Answers {} shopPages "shop-web" "shop-web-eu.local." ∧
      RecordPolicy.Answers {} webShop "shop" "shop-web-eu.local." ∧
      ¬ ("shop-web" = "shop" ∧ "eu" = "web-eu") := by
  obtain ⟨lines₁, written₁, some₁⟩ := lines_shopPages
  obtain ⟨lines₂, written₂, some₂⟩ := lines_webShop
  refine ⟨labelled_shopPages, labelled_webShop, ?_, ?_, by decide⟩
  · exact answers_of_lines written₁ some₁ List.mem_cons_self .hyphenated
  · exact answers_of_lines written₂ some₂ List.mem_cons_self .hyphenated

end RecordPolicy

end ClusterMdns
