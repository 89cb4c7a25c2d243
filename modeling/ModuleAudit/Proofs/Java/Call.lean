import ModuleAudit.Java.Source
import ModuleAudit.Proofs.Java.Declaration
import ModuleAudit.Proofs.Pattern.First

/-!
# Calls in the code of a file

An occurrence of a name before a parenthesis is a call, unless it is the name in the declaration of a
method (`Source.IsCall`). The scan looks for the name before a parenthesis, which cannot overlap with
itself, so it finds every occurrence (`mem_callOf_iff`). A declaration has a type before its name and
hence no receiver (`not_onReceiver_of_declares`).

* `Source.calls_eq`: the calls of a name on a receiver are all listed; of those without one, the calls on
  a line that declares a method of this name are left out;
* `Source.calls_one_line`: the call in a method that is written on one line is left out.
-/

namespace ModuleAudit.Java

open ModuleAudit.Text (isBlank isIdent isAlphanumeric lineNumber)
open ModuleAudit.Pattern (headIs)

/-! ## Places of calls and of declarations -/

/-- A name stands at an offset of a text before a parenthesis, blanks apart, and is no part of a longer
name. -/
def CallAt (name s : List Char) (k : Nat) : Prop :=
  ∃ x gap y, s = x ++ (name ++ gap ++ ['('] ++ y) ∧ x.length = k ∧ headIs isIdent x.reverse = false ∧
    ∀ c ∈ gap, isBlank c = true

/-- The nearest character to the left of an offset is a dot, blanks apart. -/
def OnReceiver (s : List Char) (k : Nat) : Prop :=
  ∃ x gap, s.take k = x ++ '.' :: gap ∧ ∀ c ∈ gap, isBlank c = true

/-- The names of the methods that a text declares, each with the offset at which it stands. -/
def declarationsOf (s : List Char) : List (List Char × Nat) :=
  (callSite.findAll (bareOf s)).filterMap fun site =>
    (methodAt? s (codeOf s) (bareOf s) site).map fun m => (m.name, site.start.offset)

/-- The name of a call that is found. -/
theorem fits_callOf {name : String} {before w after : List Char} :
    (Source.callOf name).Fits before w after ↔ headIs isIdent before = false ∧
      ∃ gap, w = name.toList ++ gap ++ ['('] ∧ ∀ c ∈ gap, isBlank c = true := by
  simp only [Source.callOf, Pattern.fits_sequence_cons, Pattern.fits_sequence_nil, Pattern.notAfter,
    Pattern.Fits, Pattern.fits_word, Pattern.fits_gap, Pattern.fits_exactly, Bool.not_eq_true']
  constructor
  · rintro ⟨_, _, rfl, ⟨rfl, front⟩, _, _, rfl, rfl, gap, _, rfl, blank, _, _, rfl, rfl, rfl⟩
    exact ⟨front, gap, by simp, blank⟩
  · rintro ⟨front, gap, rfl, blank⟩
    exact ⟨[], _, rfl, ⟨rfl, front⟩, _, gap ++ ['('], List.append_assoc .., rfl, gap, ['('], rfl, blank,
      ['('], [], rfl, rfl, rfl⟩

/-- Up to a character of an identifier, an occurrence before a parenthesis is a part of the name. -/
theorem prefix_of_ident {name gap v z : List Char} {c : Char} (blank : ∀ d ∈ gap, isBlank d = true)
    (split : name ++ gap ++ ['('] = v ++ c :: z) (ident : isIdent c = true) : v <+: name := by
  rw [List.append_assoc, List.append_eq_append_iff] at split
  rcases split with ⟨u, rfl, rest⟩ | ⟨u, rfl, -⟩
  · have mem : c ∈ gap ++ ['('] := rest ▸ List.mem_append_right _ List.mem_cons_self
    rcases List.mem_append.1 mem with mem | mem
    · exact absurd ident (by rw [isIdent_of_isBlank (blank c mem)]; exact Bool.false_ne_true)
    · rw [List.mem_singleton.1 mem] at ident
      exact absurd ident (by decide)
  · exact List.prefix_append v u

/-- A name before a parenthesis does not start inside of another occurrence of it. -/
theorem CallAt.not_inside {name s : List Char} {k : Nat} (h : CallAt name s k)
    (nonempty : name ≠ []) (ident : ∀ c ∈ name, isIdent c = true) {x gap y : List Char}
    (split : s = x ++ (name ++ gap ++ ['('] ++ y)) (blank : ∀ c ∈ gap, isBlank c = true)
    (after : x.length < k) : x.length + (name ++ gap ++ ['(']).length ≤ k := by
  obtain ⟨x', gap', y', split', rfl, front, -⟩ := h
  by_contra inside
  rw [split, List.append_eq_append_iff] at split'
  rcases split' with ⟨v, rfl, rest⟩ | ⟨v, rfl, -⟩
  · have length : (x ++ v).length = x.length + v.length := List.length_append
    rw [length] at after inside
    -- The occurrence goes on past `v` with the first character of the name, so `v` ends inside of it.
    obtain ⟨c, name', rfl⟩ := List.exists_cons_of_ne_nil nonempty
    obtain ⟨z, ahead⟩ : ∃ z, c :: name' ++ gap ++ ['('] = v ++ c :: z := by
      rcases List.append_eq_append_iff.1 rest with ⟨u, rfl, -⟩ | ⟨u, ahead, next⟩
      · have longer : (c :: name' ++ gap ++ ['('] ++ u).length =
            (c :: name' ++ gap ++ ['(']).length + u.length := List.length_append
        omega
      · cases u with
        | nil =>
          rw [ahead, List.append_nil] at inside
          omega
        | cons d u =>
          obtain rfl := (List.cons.inj next).1
          exact ⟨u, ahead⟩
    obtain ⟨w, whole⟩ := prefix_of_ident blank ahead (ident c List.mem_cons_self)
    rcases v.eq_nil_or_concat with rfl | ⟨v, d, rfl⟩
    · simp at after
    · rw [List.concat_eq_append] at whole front
      have last : isIdent d = true :=
        ident d (whole ▸ List.mem_append_left w List.mem_concat_self)
      rw [← List.append_assoc, List.reverse_concat] at front
      exact absurd last (Bool.eq_false_iff.1 front)
  · rw [List.length_append] at after
    omega

/-- The scan for calls of a name finds exactly its occurrences before a parenthesis. -/
theorem mem_callOf_iff {name : String} (nonempty : name.toList ≠ [])
    (ident : ∀ c ∈ name.toList, isIdent c = true) {s : List Char} {k : Nat} :
    (∃ site ∈ (Source.callOf name).findAll s, site.start.offset = k) ↔ CallAt name.toList s k := by
  constructor
  · rintro ⟨site, found, rfl⟩
    obtain ⟨place, stop⟩ := Pattern.mem_findAll found
    obtain ⟨w, way, fit⟩ := Pattern.fits_of_mem_ends stop
    obtain ⟨front, gap, rfl, blank⟩ := fits_callOf.1 fit
    refine ⟨site.start.before.reverse, gap, site.stop.after, ?_, ?_, by rwa [List.reverse_reverse], blank⟩
    · rw [← place.split, way.after]
    · rw [List.length_reverse, place.offset]
  · intro call
    obtain ⟨x, gap, y, split, rfl, front, blank⟩ := id call
    have fit : (Source.callOf name).Fits x.reverse (name.toList ++ gap ++ ['(']) y :=
      fits_callOf.2 ⟨front, gap, rfl, blank⟩
    rcases here : (Source.callOf name).matchAt? ⟨x.reverse, name.toList ++ gap ++ ['('] ++ y, x.length, []⟩
      with _ | site
    · exact absurd fit (Pattern.matchAt?_eq_none_iff.1 here _ y rfl)
    refine ⟨site, ?_, congrArg Place.offset (Pattern.matchAt?_eq_some here).1⟩
    rw [split]
    refine Pattern.mem_findAll_of_matchAt? here fun a u v b front nonempty' back covered fit => ?_
    obtain ⟨-, gap', whole, blank'⟩ := fits_callOf.1 fit
    have split' : s = a ++ (name.toList ++ gap' ++ ['('] ++ b) := by
      rw [← whole, split, back, front, List.append_assoc, List.append_assoc]
    have length : x.length = a.length + u.length := by rw [front, List.length_append]
    have before : a.length < x.length := by
      have := List.length_pos_iff.2 nonempty'
      omega
    have outside := call.not_inside nonempty ident split' blank' before
    rw [← whole, List.length_append] at outside
    have := List.length_pos_iff.2 covered
    omega

/-! ## Receivers -/

theorem dropWhile_isBlank {gap : List Char} (h : ∀ c ∈ gap, isBlank c = true) (s : List Char) :
    (gap ++ '.' :: s).dropWhile isBlank = '.' :: s := by
  rw [List.dropWhile_append_of_pos h]
  exact List.dropWhile_cons_of_neg (by decide)

theorem afterDot_iff {before : List Char} :
    Source.afterDot before = true ↔
      ∃ gap rest, before = gap ++ '.' :: rest ∧ ∀ c ∈ gap, isBlank c = true := by
  constructor
  · intro h
    rw [Source.afterDot, beq_iff_eq] at h
    induction before with
    | nil => exact nomatch h
    | cons c before ih =>
      rw [List.dropWhile_cons] at h
      split at h
      · rename_i blank
        obtain ⟨gap, rest, rfl, each⟩ := ih h
        exact ⟨c :: gap, rest, rfl, List.forall_mem_cons.2 ⟨blank, each⟩⟩
      · obtain rfl := Option.some.inj h
        exact ⟨[], before, rfl, List.forall_mem_nil _⟩
  · rintro ⟨gap, rest, rfl, blank⟩
    rw [Source.afterDot, dropWhile_isBlank blank]
    rfl

/-- What the scan sees to the left of a place is what stands there in the text. -/
theorem onReceiver_iff {s : List Char} {p : Place} (h : p.In s) :
    OnReceiver s p.offset ↔ Source.afterDot p.before = true := by
  have front : s.take p.offset = p.before.reverse := by
    rw [← h.split, h.offset, ← List.length_reverse, List.take_left]
  rw [OnReceiver, front, afterDot_iff]
  constructor
  · rintro ⟨x, gap, split, blank⟩
    refine ⟨gap.reverse, x.reverse, ?_, fun c hc => blank c (List.mem_reverse.1 hc)⟩
    rw [← List.reverse_reverse p.before, split]
    simp
  · rintro ⟨gap, rest, split, blank⟩
    refine ⟨rest.reverse, gap.reverse, ?_, fun c hc => blank c (List.mem_reverse.1 hc)⟩
    rw [split]
    simp

/-! ## Declarations -/

theorem methodAt?_eq_some_name {text code bare : List Char} {site : Match} {m : Method}
    (h : methodAt? text code bare site = some m) :
    m.line = lineNumber text site.start.offset ∧ ∃ type, declaredType? site.start.before = some type := by
  simp only [methodAt?, Option.bind_eq_bind, Option.pure_def] at h
  split at h
  · cases h
  · obtain ⟨type, declared, h⟩ := Option.bind_eq_some_iff.1 h
    obtain ⟨_, -, h⟩ := Option.bind_eq_some_iff.1 h
    obtain ⟨_, -, h⟩ := Option.bind_eq_some_iff.1 h
    exact ⟨(congrArg Method.line (Option.some.inj h)).symm, type, declared⟩

/-- Nothing is declared after a dot: its type would have to end there. -/
theorem declaredType?_of_afterDot {before : List Char} (h : Source.afterDot before = true) :
    declaredType? before = none := by
  obtain ⟨gap, rest, rfl, blank⟩ := afterDot_iff.1 h
  rw [declaredType?, List.take_append]
  by_cases near : gap.length < typeReach
  · rw [List.take_of_length_le near.le]
    obtain ⟨n, hn⟩ := Nat.exists_eq_succ_of_ne_zero (Nat.sub_ne_zero_of_lt near)
    rw [hn, List.take_succ_cons, dropWhile_isBlank blank]
    rfl
  · have far : (gap.take typeReach ++ []).dropWhile isBlank = [] :=
      List.dropWhile_append_of_pos fun c hc => blank c (List.take_subset _ _ hc)
    rw [Nat.sub_eq_zero_of_le (Nat.not_lt.1 near), List.take_zero, far]

/-- A declaration has a type before its name, and hence no receiver. -/
theorem not_onReceiver_of_declared {s name : List Char} {k : Nat} (h : (name, k) ∈ declarationsOf s) :
    ¬ OnReceiver (bareOf s) k := by
  obtain ⟨site, found, declared⟩ := List.mem_filterMap.1 h
  obtain ⟨m, method, e⟩ := Option.map_eq_some_iff.1 declared
  obtain ⟨-, rfl⟩ := Prod.mk.inj e
  obtain ⟨-, type, before⟩ := methodAt?_eq_some_name method
  rw [onReceiver_iff (Pattern.mem_findAll found).1]
  intro dot
  rw [declaredType?_of_afterDot dot] at before
  exact nomatch before

/-- The lines of the methods of a name are the lines of its declarations. -/
theorem exists_method_iff {s name : List Char} {line : Nat} :
    (∃ m ∈ methodsOf s, m.name = name ∧ m.line = line) ↔
      ∃ k, (name, k) ∈ declarationsOf s ∧ lineNumber s k = line := by
  constructor
  · rintro ⟨m, mem, rfl, rfl⟩
    obtain ⟨site, found, method⟩ := List.mem_filterMap.1 mem
    refine ⟨site.start.offset, List.mem_filterMap.2 ⟨site, found, by rw [method]; rfl⟩, ?_⟩
    exact (methodAt?_eq_some_name method).1.symm
  · rintro ⟨k, declared, rfl⟩
    obtain ⟨site, found, declared⟩ := List.mem_filterMap.1 declared
    obtain ⟨m, method, e⟩ := Option.map_eq_some_iff.1 declared
    obtain ⟨rfl, rfl⟩ := Prod.mk.inj e
    exact ⟨m, List.mem_filterMap.2 ⟨site, found, method⟩, rfl, (methodAt?_eq_some_name method).1⟩

/-! ## Calls -/

namespace Source

/-- A name is called at an offset: it stands before a parenthesis, and not to declare a method. -/
structure IsCall (s : Source) (name : String) (k : Nat) : Prop where
  callAt : CallAt name.toList s.bare k
  undeclared : (name.toList, k) ∉ declarationsOf s.text

/-- A method of a name is declared on the line of an offset. -/
def SharesLine (s : Source) (name : String) (k : Nat) : Prop :=
  ∃ k', (name.toList, k') ∈ declarationsOf s.text ∧ s.lineOf k' = s.lineOf k

/-- The calls that are counted. -/
def Counts (s : Source) (name : String) (qualified : Bool) (k : Nat) : Prop :=
  OnReceiver s.bare k ∨ qualified = false ∧ ¬ s.SharesLine name k

variable {s : Source} {name : String}

/-- Whether a call that is found is counted. -/
def isCounted (s : Source) (name : String) (qualified : Bool) (site : Match) : Bool :=
  afterDot site.start.before || !(qualified ||
    (((s.methods.filter fun m => m.name == name.toList).map (·.line)).contains
      (s.lineOf site.start.offset)))

theorem calls_eq_map (s : Source) (name : String) (qualified : Bool) :
    s.calls name qualified =
      ((((callOf name).findAll s.bare).filter (s.isCounted name qualified)).map
        (·.start.offset)).map s.lineOf := by
  have lines (l : List Match) : ((l.filter (s.isCounted name qualified)).map (·.start.offset)).map
      s.lineOf = l.filterMap fun site =>
        if s.isCounted name qualified site then some (s.lineOf site.start.offset) else none := by
    rw [List.map_map, ← List.filterMap_eq_map, List.filterMap_filter]
    rfl
  rw [lines, calls]
  refine congrArg (List.filterMap · _) (funext fun site => ?_)
  rw [isCounted]
  cases afterDot site.start.before with
  | true => rfl
  | false =>
    dsimp only
    generalize (qualified || _ : Bool) = dropped
    cases dropped <;> rfl

theorem contains_line_iff (s : Source) (name : String) (k : Nat) :
    ((s.methods.filter fun m => m.name == name.toList).map (·.line)).contains (s.lineOf k) = true ↔
      s.SharesLine name k := by
  rw [List.contains_iff_mem, List.mem_map, SharesLine, methods_eq]
  have method (m : Method) : (m ∈ (methodsOf s.text).filter (fun m => m.name == name.toList) ∧
      m.line = s.lineOf k) ↔ m ∈ methodsOf s.text ∧ m.name = name.toList ∧ m.line = s.lineOf k := by
    rw [List.mem_filter, beq_iff_eq, and_assoc]
  exact (exists_congr method).trans exists_method_iff

theorem isCounted_iff {qualified : Bool} {site : Match} (h : site ∈ (callOf name).findAll s.bare) :
    s.isCounted name qualified site = true ↔ s.Counts name qualified site.start.offset := by
  rw [isCounted, Counts, onReceiver_iff (Pattern.mem_findAll h).1, ← contains_line_iff, Bool.or_eq_true,
    Bool.not_eq_true', Bool.or_eq_false_iff, Bool.not_eq_true]

/-- What is counted does not declare a method. -/
theorem Counts.undeclared {qualified : Bool} {k : Nat} (h : s.Counts name qualified k) :
    (name.toList, k) ∉ declarationsOf s.text := by
  intro declared
  rcases h with receiver | ⟨-, apart⟩
  · rw [bare_eq] at receiver
    exact not_onReceiver_of_declared declared receiver
  · exact apart ⟨k, declared, rfl⟩

theorem callOf_start_lt {text : List Char} {site : Match} (h : site ∈ (callOf name).findAll text) :
    site.start.offset < site.stop.offset := by
  obtain ⟨w, way, fit⟩ := Pattern.fits_of_mem_ends (Pattern.mem_findAll h).2
  obtain ⟨-, gap, rfl, -⟩ := fits_callOf.1 fit
  rw [way.offset, List.length_append, List.length_singleton]
  omega

/-- The calls that are counted are listed in text order, each with the number of its line: all calls
on a receiver and, unless only these are asked for, the calls on lines that declare no method of the
name. -/
theorem calls_eq (nonempty : name.toList ≠ []) (ident : name.toList.all isIdent = true)
    (s : Source) (qualified : Bool) :
    ∃ ks : List Nat, ks.Pairwise (· < ·) ∧
      (∀ k, k ∈ ks ↔ s.IsCall name k ∧ s.Counts name qualified k) ∧
      s.calls name qualified = ks.map s.lineOf := by
  have ident := List.all_eq_true.1 ident
  refine ⟨_, ?_, fun k => ?_, calls_eq_map s name qualified⟩
  · rw [List.pairwise_map]
    refine List.Pairwise.filter _ ((Pattern.pairwise_findAll _ _).imp_of_mem fun hm _ le => ?_)
    exact Nat.lt_of_lt_of_le (callOf_start_lt hm) le
  · rw [List.mem_map]
    constructor
    · rintro ⟨site, mem, rfl⟩
      obtain ⟨found, counted⟩ := List.mem_filter.1 mem
      have counts := (isCounted_iff found).1 counted
      exact ⟨⟨(mem_callOf_iff nonempty ident).1 ⟨site, found, rfl⟩, counts.undeclared⟩, counts⟩
    · rintro ⟨⟨callAt, -⟩, counts⟩
      obtain ⟨site, found, rfl⟩ := (mem_callOf_iff nonempty ident).2 callAt
      exact ⟨site, List.mem_filter.2 ⟨found, (isCounted_iff found).2 counts⟩, rfl⟩

/-- A method that calls itself on a receiver, and another one that calls it without one. -/
theorem calls_eq_two_lines :
    let s := Source.ofText ⟨0, ["A.java"]⟩
      "class A \x7b\nint f() \x7b return this.f(); \x7d\nint g() \x7b return f(); \x7d \x7d".toList
    "f".toList ≠ [] ∧ "f".toList.all isIdent = true ∧ s.calls "f" false = [2, 3] ∧
      ∃ ks : List Nat, ks.Pairwise (· < ·) ∧ (∀ k, k ∈ ks ↔ s.IsCall "f" k ∧ s.Counts "f" false k) ∧
        [2, 3] = ks.map s.lineOf := by
  intro s
  have nonempty : "f".toList ≠ [] := by decide
  have ident : "f".toList.all isIdent = true := by decide +kernel
  have lines : s.calls "f" false = [2, 3] := by decide +kernel
  exact ⟨nonempty, ident, lines, lines ▸ calls_eq nonempty ident s false⟩

/-- A method that is written on one line and calls itself: the call is left out with the declaration. -/
theorem calls_one_line :
    let s := Source.ofText ⟨0, ["A.java"]⟩ "class A \x7b int f() \x7b return f(); \x7d \x7d".toList
    s.IsCall "f" 27 ∧ s.lineOf 27 = 1 ∧ s.calls "f" false = [] := by
  intro s
  have split : s.bare = "class A \x7b int f() \x7b return ".toList ++
      ("f".toList ++ [] ++ ['('] ++ "); \x7d \x7d".toList) := by decide +kernel
  refine ⟨⟨⟨_, [], _, split, by decide +kernel, by decide +kernel, List.forall_mem_nil _⟩, ?_⟩,
    by decide +kernel, by decide +kernel⟩
  decide +kernel

end Source

end ModuleAudit.Java
