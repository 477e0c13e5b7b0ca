import ClusterMdns.Proofs.Dns.LetterCase
import ClusterMdns.Proofs.Record.Reading
import Mathlib.Data.List.Forall2

/-! A zone text keeps its meaning, but for letter case, when letters of owners and of names that pointers lead to
change their case. -/

namespace ClusterMdns

open Dns

namespace Dns.Zone

/-- What may stand between owner and type: a time to live and a class. -/
inductive Middle : List String → Prop
  | none : Middle []
  | ttl {n : String} (number : isNumber n = true) : Middle [n]
  | class_ {name : String} (known : name = "IN" ∨ name = "CH") : Middle [name]
  | both {n name : String} (number : isNumber n = true) (known : name = "IN" ∨ name = "CH") : Middle [n, name]

/-- Letters of an owner changed their case, and so did letters of the name that a pointer leads to. -/
inductive Entry.Recased : Entry → Entry → Prop
  | directive (d : Directive) (value : String) : Recased (.directive d value) (.directive d value)
  | owner {first other : String} (h : SameText first other) (words : List String) :
      Recased (.record (first :: words)) (.record (other :: words))
  | target {first other target further : String} {middle : List String} (h : SameText first other)
      (hm : Middle middle) (ht : SameText target further) (more : List String) :
      Recased (.record (first :: (middle ++ "PTR" :: target :: more)))
        (.record (other :: (middle ++ "PTR" :: further :: more)))

/-- The texts have the same entries, but for letter case in owners and in names that pointers lead to. -/
def Recased (s t : String) : Prop :=
  ∃ es fs, entries s = some es ∧ entries t = some fs ∧ List.Forall₂ Entry.Recased es fs

/-- What differs in letter case only, of two contexts, is the owner of the record before. -/
structure Context.Alike (c d : Context) : Prop where
  origin : c.origin = d.origin
  owner : c.owner.SameLetters d.owner
  ttl : c.ttl = d.ttl

namespace Context.Alike

variable {c d : Context} (h : c.Alike d)
include h

theorem ownerOf? {s t : String} (hs : SameText s t) {m : Name} (hm : c.ownerOf? s = some m) :
    ∃ n, d.ownerOf? t = some n ∧ m.SameLetters n := by
  have empty : (s == "") = (t == "") := by
    rw [← lowerText_beq_empty s, ← lowerText_beq_empty t, hs]
  have at_sign : (s == "@") = (t == "@") := by
    rw [← lowerText_beq_at s, ← lowerText_beq_at t, hs]
  unfold Context.ownerOf? at hm ⊢
  rw [← empty, ← at_sign]
  split
  · rename_i none
    rw [if_pos none] at hm
    cases hm
    exact ⟨_, rfl, h.owner⟩
  · rename_i some_owner
    rw [if_neg some_owner] at hm
    split
    · rename_i top
      rw [if_pos top] at hm
      cases hm
      exact ⟨_, rfl, by rw [h.origin]; rfl⟩
    · rename_i named
      rw [if_neg named] at hm
      rw [← h.origin]
      exact Name.below?_sameText hs hm

theorem direct? {value : String} {directive : Directive} {next : Context}
    (hn : c.direct? value directive = some next) : ∃ after, d.direct? value directive = some after ∧ next.Alike after := by
  cases directive with
  | origin =>
    obtain ⟨name, hname, rfl⟩ := Option.map_eq_some_iff.mp hn
    exact ⟨_, Option.map_eq_some_iff.mpr ⟨name, hname, rfl⟩, rfl, rfl, h.ttl⟩
  | ttl =>
    obtain ⟨time, htime, rfl⟩ := Option.map_eq_some_iff.mp hn
    exact ⟨_, Option.map_eq_some_iff.mpr ⟨time, htime, rfl⟩, h.origin, h.owner, rfl⟩

theorem body? (words : List String) : c.body? words = d.body? words := by
  obtain ⟨origin, owner, ttl⟩ := c
  obtain ⟨_, _, _⟩ := d
  obtain ⟨rfl, -, rfl⟩ := h
  rfl

end Context.Alike

/-- What stands before the type of a pointer has no part in the name that it leads to. -/
theorem Context.body?_pointer (c : Context) {middle : List String} (hm : Middle middle) :
    ∃ (ttl : Option Nat) (recordClass : RecordClass), ∀ s more, c.body? (middle ++ "PTR" :: s :: more) =
      ttl.bind fun ttl => (Name.below? c.origin s).map fun name => (ttl, recordClass, .ptr name) := by
  have type : isNumber "PTR" = false := by decide
  have pointed {α : Type} (s : String) (f : RecordData → α) :
      (Option.map RecordData.ptr (Name.below? c.origin s)).bind (fun d => some (f d)) =
        (Name.below? c.origin s).map fun name => f (.ptr name) := by
    cases Name.below? c.origin s <;> rfl
  cases hm with
  | none =>
    refine ⟨ttlOf? c.ttl, .internet, fun s more => ?_⟩
    simp [body?, type, data?_pointer, pointed]
  | @ttl n number =>
    refine ⟨(Number.readInt? n).bind ttlOf?, .internet, fun s more => ?_⟩
    cases read : Number.readInt? n <;> simp [body?, number, data?_pointer, pointed, read]
  | class_ known =>
    have wordy : isNumber "IN" = false ∧ isNumber "CH" = false := by decide
    rcases known with rfl | rfl
    · exact ⟨ttlOf? c.ttl, .internet, fun s more => by simp [body?, wordy, data?_pointer, pointed]⟩
    · exact ⟨ttlOf? c.ttl, .chaos, fun s more => by simp [body?, wordy, data?_pointer, pointed]⟩
  | @both n name number known =>
    rcases known with rfl | rfl
    · refine ⟨(Number.readInt? n).bind ttlOf?, .internet, fun s more => ?_⟩
      cases read : Number.readInt? n <;> simp [body?, number, data?_pointer, pointed, read]
    · refine ⟨(Number.readInt? n).bind ttlOf?, .chaos, fun s more => ?_⟩
      cases read : Number.readInt? n <;> simp [body?, number, data?_pointer, pointed, read]

section
variable {c d : Context} (h : c.Alike d)
include h

/-- Changing letter case in the words of a record changes nothing but letter case in the record. -/
theorem record?_recased {words others : List String} (hw : Entry.Recased (.record words) (.record others))
    {record : Record} (hr : c.record? words = some record) :
    ∃ other, d.record? others = some other ∧ record.SameLetters other := by
  cases hw with
  | owner hs words =>
    obtain ⟨name, hname, hr⟩ := Option.bind_eq_some_iff.mp hr
    obtain ⟨⟨ttl, recordClass, data⟩, hbody, hr⟩ := Option.bind_eq_some_iff.mp hr
    cases hr
    obtain ⟨same, hsame, letters⟩ := h.ownerOf? hs hname
    rw [h.body?] at hbody
    refine ⟨⟨same, ttl, recordClass, data⟩, ?_, letters, .refl _⟩
    simp only [Context.record?, hsame, hbody, Option.bind_eq_bind, Option.bind_some]
  | @target first other target further middle hs hm ht more =>
    obtain ⟨name, hname, hr⟩ := Option.bind_eq_some_iff.mp hr
    obtain ⟨body, hbody, hr⟩ := Option.bind_eq_some_iff.mp hr
    obtain ⟨ttl?, recordClass, pointer⟩ := d.body?_pointer hm
    rw [h.body?, pointer] at hbody
    obtain ⟨ttl, httl, hbody⟩ := Option.bind_eq_some_iff.mp hbody
    obtain ⟨aim, haim, rfl⟩ := Option.map_eq_some_iff.mp hbody
    cases hr
    obtain ⟨same, hsame, letters⟩ := h.ownerOf? hs hname
    obtain ⟨wanted, hwanted, more_letters⟩ := Name.below?_sameText ht haim
    refine ⟨⟨same, ttl, recordClass, .ptr wanted⟩, ?_, letters, .ptr more_letters⟩
    simp only [Context.record?, hsame, pointer, httl, hwanted, Option.bind_eq_bind, Option.bind_some,
      Option.map_some]

/-- Changing letter case in entries changes nothing but letter case in the records. -/
theorem records?_recased {es fs : List Entry} (hes : List.Forall₂ Entry.Recased es fs) {records : List Record}
    (hr : c.records? es = some records) :
    ∃ others, d.records? fs = some others ∧ List.Forall₂ Record.SameLetters records others := by
  induction hes generalizing c d records with
  | nil =>
    cases hr
    exact ⟨[], rfl, .nil⟩
  | @cons e f es fs first rest ih =>
    cases e with
    | directive directive value =>
      cases first
      obtain ⟨next, hnext, hr⟩ := Option.bind_eq_some_iff.mp hr
      obtain ⟨after, hafter, alike⟩ := h.direct? hnext
      obtain ⟨others, hothers, same⟩ := ih alike hr
      exact ⟨others, by rw [Context.records?, hafter, Option.bind_some, hothers], same⟩
    | record words =>
      have recased : ∃ others, f = .record others := by cases first <;> exact ⟨_, rfl⟩
      obtain ⟨others, rfl⟩ := recased
      obtain ⟨record, hrecord, hr⟩ := Option.bind_eq_some_iff.mp hr
      obtain ⟨more, hmore, rfl⟩ := Option.map_eq_some_iff.mp hr
      obtain ⟨other, hother, same⟩ := record?_recased h first hrecord
      have alike : Context.Alike { c with owner := record.owner } { d with owner := other.owner } :=
        ⟨h.origin, same.owner, h.ttl⟩
      obtain ⟨later, hlater, all⟩ := ih alike hmore
      exact ⟨other :: later, by rw [Context.records?, hother, Option.bind_some, hlater]; rfl, .cons same all⟩

end

/-- Changing letter case in owners and in names that pointers lead to changes nothing but letter case in what is
read. -/
theorem read_recased {s t : String} (h : Recased s t) {records : List Record} (hr : read s = some records) :
    ∃ others, read t = some others ∧ List.Forall₂ Record.SameLetters records others := by
  obtain ⟨es, fs, hs, ht, recased⟩ := h
  rw [read_eq_entries, hs, Option.bind_some] at hr
  rw [read_eq_entries, ht, Option.bind_some]
  exact records?_recased ⟨rfl, rfl, rfl⟩ recased hr

end Dns.Zone

/-! ### Record lines -/

namespace RecordLine

/-- Letters of the owner changed their case, and so did letters of the name that a pointer leads to. -/
inductive Recased : RecordLine → RecordLine → Prop
  | owner {first other : String} (h : SameText first other) (ttl : Int) (kind : LineKind) (data : String) :
      Recased ⟨first, ttl, kind, data⟩ ⟨other, ttl, kind, data⟩
  | target {first other target further : String} (h : SameText first other) (ttl : Int)
      (ht : SameText target further) : Recased ⟨first, ttl, .ptr, target⟩ ⟨other, ttl, .ptr, further⟩

end RecordLine

/-- Changing letter case in a line changes nothing but letter case in the record that it is read as. -/
theorem Responder.readLine_recased {line other : String} (h : Zone.Recased line other) {record : Record}
    (hr : readLine line = .ok record) : ∃ same, readLine other = .ok same ∧ record.SameLetters same := by
  have read : Zone.read line = some [record] := by
    unfold readLine at hr
    split at hr
    · cases hr
    · rename_i heq
      cases hr
      exact heq
    · cases hr
  obtain ⟨records, hrecords, same⟩ := Zone.read_recased h read
  obtain ⟨found, rest, letters, none, rfl⟩ := List.forall₂_cons_left_iff.mp same
  obtain rfl := List.forall₂_nil_left_iff.mp none
  exact ⟨found, by rw [readLine, hrecords], letters⟩

end ClusterMdns
