import ClusterMdns.Dns.Zone

/-! A zone text entry by entry: what is read of it is what its entries say, one after the other. -/

namespace ClusterMdns.Dns.Zone

/-- The words of a record, or a directive with its value. -/
inductive Entry where
  | record (words : List String)
  | directive (d : Directive) (value : String)

/-- The entry of a line that is over, if it has words. -/
def lineEntry (words : List String) : List Entry :=
  if words.isEmpty then [] else [.record words]

/-- The entries of the tokens behind some words of a line. -/
def entriesFrom (words : List String) (grouped afterLine : Bool) : List Token → Option (List Entry)
  | [] => some (lineEntry words)
  | .lineEnd :: ts =>
    if grouped then entriesFrom words grouped true ts
    else (entriesFrom [] grouped true ts).map (lineEntry words ++ ·)
  | .space :: ts => entriesFrom (if afterLine && !grouped then words ++ [""] else words) grouped false ts
  | .comment :: ts => entriesFrom words grouped false ts
  | .word s :: ts =>
    match Directive.ofWord? s with
    | none =>
      if s == "(" then entriesFrom words true false ts
      else if s == ")" then entriesFrom words false false ts
      else entriesFrom (words ++ [s]) grouped false ts
    | some d =>
      match ts with
      | [] | [.space] => some (lineEntry words)
      | .space :: .word value :: ts => (entriesFrom words grouped false ts).map (.directive d value :: ·)
      | _ => none

def entries (s : String) : Option (List Entry) :=
  (tokens s).bind (entriesFrom [] false false)

namespace Context

def direct? (c : Context) (value : String) : Directive → Option Context
  | .origin => (Name.ofText? value).map fun name => { c with origin := name, owner := name }
  | .ttl => (time? value).map fun ttl => { c with ttl }

/-- The records of entries, each in the context that the ones before leave. -/
def records? (c : Context) : List Entry → Option (List Record)
  | [] => some []
  | .record words :: es =>
    (c.record? words).bind fun record => (records? { c with owner := record.owner } es).map (record :: ·)
  | .directive d value :: es => (c.direct? value d).bind fun c => records? c es

theorem records?_lineEntry (c : Context) (word : String) (words : List String) (es : List Entry) :
    c.records? (lineEntry (word :: words) ++ es) = (c.record? (word :: words)).bind fun record =>
      (records? { c with owner := record.owner } es).map (record :: ·) := rfl

end Context

section
variable (c : Context) (grouped afterLine : Bool) (records : List Record)

theorem endRecord_cons (word : String) (words : List String) :
    (Reader.mk c (word :: words) grouped afterLine records).endRecord = (c.record? (word :: words)).map fun record =>
      ⟨{ c with owner := record.owner }, [], grouped, afterLine, records ++ [record]⟩ := by
  rw [Reader.endRecord]
  cases c.record? (word :: words) <;> rfl

/-- The end of a line makes its record. -/
theorem map_endRecord (words : List String) :
    (Reader.mk c words grouped afterLine records).endRecord.map Reader.records =
      (c.records? (lineEntry words)).map (records ++ ·) := by
  cases words with
  | nil => exact congrArg some (List.append_nil records).symm
  | cons word words =>
    rw [endRecord_cons, lineEntry, List.isEmpty_cons, if_neg Bool.false_ne_true, Context.records?]
    cases c.record? (word :: words) <;> rfl

end

/-- Reading tokens is reading their entries. -/
theorem run_eq_entries (c : Context) (words : List String) (grouped afterLine : Bool) (records : List Record)
    (ts : List Token) : (Reader.run ⟨c, words, grouped, afterLine, records⟩ ts).map Reader.records =
      (entriesFrom words grouped afterLine ts).bind fun es => (c.records? es).map (records ++ ·) := by
  fun_induction entriesFrom words grouped afterLine ts generalizing c records with
  | case1 => exact map_endRecord ..
  | case2 words afterLine ts ih => exact ih c records
  | case3 words grouped afterLine ts open_line ih =>
    obtain rfl : grouped = false := by simpa using open_line
    cases words with
    | nil =>
      refine (ih c records).trans ?_
      rw [Option.bind_map]
      rfl
    | cons word words =>
      have step : Reader.run ⟨c, word :: words, false, afterLine, records⟩ (.lineEnd :: ts) =
          (Reader.endRecord ⟨c, word :: words, false, afterLine, records⟩).bind fun r =>
            Reader.run { r with afterLine := true } ts := rfl
      rw [step, endRecord_cons, Option.bind_map, Option.bind_map]
      cases made : c.record? (word :: words) with
      | none =>
        simp only [Function.comp_def, Context.records?_lineEntry, made, Option.bind_none, Option.map_none,
          Option.bind_fun_none]
      | some record =>
        simp only [Context.records?_lineEntry, made, Option.bind_some, Function.comp_def, ih, Option.map_map,
          List.append_assoc, List.singleton_append]
  | case4 words grouped afterLine ts ih => exact ih c records
  | case5 words grouped afterLine ts ih => exact ih c records
  | case6 words grouped afterLine s ts plain opening ih =>
    rw [Reader.run, plain]
    dsimp only
    rw [Reader.takeWord, if_pos opening]
    exact ih c records
  | case7 words grouped afterLine s ts plain other closing ih =>
    rw [Reader.run, plain]
    dsimp only
    rw [Reader.takeWord, if_neg other, if_pos closing]
    exact ih c records
  | case8 words grouped afterLine s ts plain other still ih =>
    rw [Reader.run, plain]
    dsimp only
    rw [Reader.takeWord, if_neg other, if_neg still]
    exact ih c records
  | case9 words grouped afterLine s d found =>
    rw [Reader.run, found]
    exact map_endRecord ..
  | case10 words grouped afterLine s d found =>
    rw [Reader.run, found]
    exact map_endRecord ..
  | case11 words grouped afterLine s d found value ts ih =>
    have direct : (Reader.mk c words grouped afterLine records).direct d value =
        (c.direct? value d).map fun c => ⟨c, words, grouped, false, records⟩ := by
      cases d
      · rw [Reader.direct, Context.direct?]
        cases Name.ofText? value <;> rfl
      · rw [Reader.direct, Context.direct?]
        cases time? value <;> rfl
    rw [Reader.run, found, Option.bind_map]
    dsimp only
    rw [direct, Option.bind_eq_bind, Option.bind_map]
    cases directed : c.direct? value d with
    | none => simp only [Function.comp_def, Context.records?, directed, Option.bind_none, Option.map_none,
        Option.bind_fun_none]
    | some c => simp only [Option.bind_some, Function.comp_def, ih, Context.records?, directed]
  | case12 words grouped afterLine s ts d found some_token other_than_space malformed =>
    rw [Reader.run, found]
    dsimp only
    split
    · exact absurd rfl some_token
    · exact absurd rfl other_than_space
    · exact absurd rfl (malformed _ _)
    · rfl

theorem read_eq_entries (s : String) : read s = (entries s).bind ({} : Context).records? := by
  rw [read, entries, Option.bind_assoc]
  refine congrArg (Option.bind (tokens s)) (funext fun ts => ?_)
  have run := run_eq_entries {} [] false false [] ts
  simp only [List.nil_append, Option.map_id'] at run
  rw [← run]
  cases Reader.run {} ts <;> rfl

end ClusterMdns.Dns.Zone
