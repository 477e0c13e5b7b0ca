import ClusterMdns.Proofs.Record.Addresses

/-! Two policies, of which the second shows every address that the first shows and gives bare names whenever the
first does. The lines under the first are then found under the second, unchanged and in their order; between them
stand only lines of addresses that were hidden, and lines of bare names that were not given. -/

namespace ClusterMdns

open Document

/-- The second list is the first with lines put in between, each of which is `extra`. -/
inductive Extended (extra : RecordLine → Prop) : List RecordLine → List RecordLine → Prop
  | nil : Extended extra [] []
  | kept {less more : List RecordLine} (l : RecordLine) (h : Extended extra less more) :
      Extended extra (l :: less) (l :: more)
  | inserted {less more : List RecordLine} {l : RecordLine} (new : extra l) (h : Extended extra less more) :
      Extended extra less (l :: more)

namespace Extended

variable {extra : RecordLine → Prop} {less more less' more' : List RecordLine}

theorem sublist (h : Extended extra less more) : less.Sublist more := by
  induction h with
  | nil => exact .slnil
  | kept l _ ih => exact ih.cons_cons l
  | inserted _ _ ih => exact ih.cons _

theorem refl (lines : List RecordLine) : Extended extra lines lines := by
  induction lines with
  | nil => exact .nil
  | cons l lines ih => exact .kept l ih

theorem of_extra (h : ∀ l ∈ more, extra l) : Extended extra [] more := by
  induction more with
  | nil => exact .nil
  | cons l more ih =>
    obtain ⟨new, rest⟩ := List.forall_mem_cons.mp h
    exact .inserted new (ih rest)

theorem append (first : Extended extra less more) (later : Extended extra less' more') :
    Extended extra (less ++ less') (more ++ more') := by
  induction first with
  | nil => exact later
  | kept l _ ih => exact .kept l ih
  | inserted new _ ih => exact .inserted new ih

/-- Addresses pass through two filters, of which the second lets more of them through. -/
theorem flatMap_filter {p q : Address → Bool} {f g : Address → List RecordLine} {as : List Address}
    (widens : ∀ a, p a = true → q a = true)
    (both : ∀ a ∈ as, p a = true → Extended extra (f a) (g a))
    (only : ∀ a ∈ as, q a = true → p a = false → ∀ l ∈ g a, extra l) :
    Extended extra ((as.filter p).flatMap f) ((as.filter q).flatMap g) := by
  induction as with
  | nil => exact .nil
  | cons a as ih =>
    obtain ⟨here, both⟩ := List.forall_mem_cons.mp both
    obtain ⟨new, only⟩ := List.forall_mem_cons.mp only
    have rest := ih both only
    cases narrow : p a with
    | true =>
      simp only [List.filter_cons, narrow, widens a narrow, if_true, List.flatMap_cons]
      exact (here narrow).append rest
    | false =>
      cases wide : q a with
      | false => simpa [List.filter_cons, narrow, wide] using rest
      | true =>
        simp only [List.filter_cons, narrow, wide, if_true, List.flatMap_cons]
        exact (of_extra (new wide narrow)).append rest

end Extended

namespace RecordPolicy

/-- The second policy shows what the first shows, and gives the resource bare names if the first does. -/
structure Widens (narrow wide : RecordPolicy) (r : Resource) : Prop where
  ttl : wide.ttl = narrow.ttl
  v4 : narrow.exposeV4 = true → wide.exposeV4 = true
  v6 : narrow.exposeV6 = true → wide.exposeV6 = true
  bare : narrow.publishesUnqualified r = true → wide.publishesUnqualified r = true

/-- One option is switched on, and nothing else is changed. -/
inductive SwitchedOn (p : RecordPolicy) : RecordPolicy → Prop
  | v4 : SwitchedOn p { p with exposeV4 := true }
  | v6 : SwitchedOn p { p with exposeV6 := true }
  | withoutNamespace : SwitchedOn p { p with withoutNamespace := true }
  | unqualified (s : SourceType) : SwitchedOn p { p with unqualifiedSources := s :: p.unqualifiedSources }

/-- A line that only the second policy gives: one of an address that the first hides, or one of a bare name that the
first does not give. -/
inductive Added (narrow wide : RecordPolicy) (r : Resource) (given : List String) (l : RecordLine) : Prop
  | family {a : Address} (shown : a ∈ wide.exposed given) (hidden : narrow.exposes a = false)
      (line : l ∈ wide.linesFor r a)
  | bare {a : Address} {reverse name : String} (unnamed : narrow.publishesUnqualified r = false)
      (shown : a ∈ wide.exposed given) (back : a.reverseName? = some reverse) (named : name ∈ r.names)
      (line : l ∈ wide.bareLines a reverse name)

/-- All lines under the first policy are lines under the second, in the same order, and the others were added. -/
def OnlyAdds (narrow wide : RecordPolicy) (r : Resource) (given : List String) : Prop :=
  ∃ less more, (narrow.lines r).outcome = .ok less ∧ (wide.lines r).outcome = .ok more ∧ less.Sublist more ∧
    Extended (Added narrow wide r given) less more

variable {narrow wide : RecordPolicy} {r : Resource} {given : List String}

theorem Widens.exposes (h : Widens narrow wide r) (a : Address) (shown : narrow.exposes a = true) :
    wide.exposes a = true := by
  cases a with
  | v4 => exact h.v4 shown
  | v6 => exact h.v6 shown

theorem SwitchedOn.widens (h : SwitchedOn narrow wide) (r : Resource) : Widens narrow wide r := by
  cases h with
  | v4 => exact ⟨rfl, fun _ => rfl, id, id⟩
  | v6 => exact ⟨rfl, id, fun _ => rfl, id⟩
  | withoutNamespace => exact ⟨rfl, id, id, fun _ => by simp [publishesUnqualified]⟩
  | unqualified s =>
    refine ⟨rfl, id, id, fun bare => ?_⟩
    simp only [publishesUnqualified, Bool.or_eq_true, List.contains_cons] at bare ⊢
    exact bare.imp_right Or.inr

/-- Only the time to live of a policy enters a line. -/
theorem Widens.same_lines (h : Widens narrow wide r) (a : Address) (reverse : String) :
    narrow.namespacedLines r a reverse = wide.namespacedLines r a reverse ∧
      narrow.bareLines a reverse = wide.bareLines a reverse := by
  constructor <;> funext name
  · simp only [namespacedLines, forward, backward, h.ttl]
  · simp only [bareLines, forward, backward, h.ttl]

theorem Widens.linesFor (h : Widens narrow wide r) {a : Address} (shown : a ∈ wide.exposed given) :
    Extended (Added narrow wide r given) (narrow.linesFor r a) (wide.linesFor r a) := by
  unfold RecordPolicy.linesFor
  cases back : a.reverseName? with
  | none => exact .nil
  | some reverse =>
    obtain ⟨namespaced, bare⟩ := h.same_lines a reverse
    simp only [Option.elim_some, linesAt, namespaced, bare]
    refine (Extended.refl _).append ?_
    cases unnamed : narrow.publishesUnqualified r with
    | true =>
      rw [h.bare unnamed]
      exact .refl _
    | false =>
      refine Extended.of_extra fun l hl => ?_
      split at hl
      · obtain ⟨name, named, line⟩ := List.mem_flatMap.mp hl
        exact .bare unnamed shown back named line
      · cases hl

theorem Widens.onlyAdds (h : Widens narrow wide r) (texts : r.addresses = given.map Value.str)
    (scopeless : ∀ s ∈ given, ∀ a ∈ Address.read? s, a.scope? = none) : OnlyAdds narrow wide r given := by
  have writable (p : RecordPolicy) : ∀ s ∈ given, p.Writable s := fun s hs a ha _ => scopeless s hs a ha
  have lines (p : RecordPolicy) : (p.lines r).outcome = .ok ((p.exposed given).flatMap (p.linesFor r)) :=
    p.lines_eq_ok_iff.mpr ⟨given, texts, writable p, rfl⟩
  have extended : Extended (Added narrow wide r given) ((narrow.exposed given).flatMap (narrow.linesFor r))
      ((wide.exposed given).flatMap (wide.linesFor r)) := by
    have shown {a : Address} (read : a ∈ given.filterMap Address.read?) (wide_shows : wide.exposes a = true) :
        a ∈ wide.exposed given := List.mem_filter.mpr ⟨read, wide_shows⟩
    refine Extended.flatMap_filter h.exposes (fun a read narrow_shows => ?_) fun a read wide_shows hidden l line => ?_
    · exact h.linesFor (shown read (h.exposes a narrow_shows))
    · exact .family (shown read wide_shows) hidden line
  exact ⟨_, _, lines narrow, lines wide, extended.sublist, extended⟩

/-- A policy that is widened, by an option that is switched on or otherwise, only adds lines, each of an address that
was hidden or of a bare name that was not given. -/
theorem widening_only_adds (texts : r.addresses = given.map Value.str)
    (scopeless : ∀ s ∈ given, ∀ a ∈ Address.read? s, a.scope? = none) :
    (∀ narrow wide, Widens narrow wide r → OnlyAdds narrow wide r given) ∧
      ∀ narrow wide, SwitchedOn narrow wide → OnlyAdds narrow wide r given :=
  ⟨fun _ _ widens => widens.onlyAdds texts scopeless,
    fun _ _ switched => (switched.widens r).onlyAdds texts scopeless⟩

/-! ### Both families and bare names -/

/-- A service with an address of each family and a text that is no address. -/
def dualStack : Resource :=
  { webResource with addresses := ["192.0.2.7", "2001:db8::1", "web.shop"].map Value.str }

theorem widening_only_adds_dualStack :
    let wide : RecordPolicy := { exposeV6 := true, withoutNamespace := true }
    OnlyAdds {} wide dualStack ["192.0.2.7", "2001:db8::1", "web.shop"] ∧
    OnlyAdds {} { exposeV6 := true } dualStack ["192.0.2.7", "2001:db8::1", "web.shop"] ∧
    ((RecordPolicy.lines {} dualStack).outcome.toOption.map List.length) = some 8 ∧
    ((wide.lines dualStack).outcome.toOption.map List.length) = some 24 := by
  intro wide
  have scopeless : ∀ s ∈ ["192.0.2.7", "2001:db8::1", "web.shop"], ∀ a ∈ Address.read? s, a.scope? = none := by
    decide +kernel
  obtain ⟨widened, switched⟩ := widening_only_adds (r := dualStack) rfl scopeless
  have widens : Widens {} wide dualStack := ⟨rfl, id, nofun, fun _ => rfl⟩
  exact ⟨widened _ _ widens, switched _ _ .v6, by decide +kernel, by decide +kernel⟩

end RecordPolicy

end ClusterMdns
