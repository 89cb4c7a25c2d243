import ModuleAudit.Proofs.Java.Body

/-!
# How the bodies of methods nest

Methods are looked for at every name before a parenthesis, each one by itself and whatever the text
around it. Their bodies nest like blocks all the same (`bodies_nest`): two methods cannot share a
brace, because the parenthesis that precedes it closes only one other (`DeclaredAt.brace_ne`), and
the spans of two braces are apart or one lies in the other (`spanOf_laminar`).
-/

namespace ModuleAudit.Java

/-! ## A brace for every method -/

/-- The parameters of a method stand after the parenthesis at an offset: no parenthesis is closed
between the one that closes it and the brace of the body. -/
structure DeclaredAt (bare : List Char) (m : Method) (a : Nat) : Prop where
  opens : bare[a]? = some '('
  closes : ∃ k < m.bodyStart - 1, closingAt? '(' ')' bare a = some k ∧
    ∀ j, k < j → j < m.bodyStart - 1 → bare[j]? ≠ some ')'

/-- A brace tells which parenthesis is the last one before it, and this one which one it closes. -/
theorem DeclaredAt.brace_ne {bare : List Char} {m m' : Method} {a b : Nat} (h : DeclaredAt bare m a)
    (h' : DeclaredAt bare m' b) (lt : a < b) : m.bodyStart ≠ m'.bodyStart := by
  intro same
  obtain ⟨k, before, closed, last⟩ := h.closes
  obtain ⟨k', before', closed', last'⟩ := h'.closes
  obtain ⟨-, found, -⟩ := closingAt?_eq_some (by decide) closed
  obtain ⟨after', found', -⟩ := closingAt?_eq_some (by decide) closed'
  obtain rfl : k' = k := by
    rcases Nat.lt_trichotomy k' k with less | same | more
    · exact absurd found (last' k less (same ▸ before))
    · exact same
    · exact absurd found' (last k' more (same.symm ▸ before'))
  obtain ⟨k, closed, less⟩ := closingAt?_inner (by decide) closed h'.opens lt after'
  obtain rfl := Option.some.inj (closed.symm.trans closed')
  exact absurd less (Nat.lt_irrefl k)

theorem declaredAt_of_mem {s : List Char} {site : Match} {m : Method}
    (hsite : site ∈ callSite.findAll (bareOf s))
    (hm : methodAt? s (codeOf s) (bareOf s) site = some m) :
    ∃ a, site.start.offset ≤ a ∧ a < site.stop.offset ∧ DeclaredAt (bareOf s) m a := by
  obtain ⟨start, stop⟩ := Pattern.mem_findAll hsite
  obtain ⟨_, way, fit⟩ := Pattern.fits_of_mem_ends stop
  obtain ⟨n, g, rfl, -, -⟩ := fits_callSite fit
  obtain ⟨u, w, y, after, closed, thrown, brace, -, -⟩ := methodAt?_eq_some hm
  have split : bareOf s = (site.start.before.reverse ++ (n ++ g)) ++ '(' :: site.stop.after := by
    rw [← start.split, way.after]
    simp
  have offset : (site.start.before.reverse ++ (n ++ g)).length + 1 = site.stop.offset := by
    rw [way.offset, start.offset]
    simp [Nat.add_assoc]
  generalize site.start.before.reverse ++ (n ++ g) = v at split offset
  rw [way.offset] at offset ⊢
  refine ⟨v.length, ?_, ?_, ?_, v.length + 1 + u.length, ?_, ?_, fun j lower upper => ?_⟩
  · simp at offset
    omega
  · omega
  · simp [split]
  · rw [brace, way.offset]
    omega
  · have tail : (bareOf s).drop (v.length + 1) = site.stop.after := by
      rw [split, List.append_cons, List.drop_left']
      simp
    rw [closingAt?, tail, closed]
    simp [Nat.add_comm]
  · -- What stands there is part of the clause after the parameters.
    obtain ⟨i, rfl⟩ := Nat.exists_eq_add_of_lt lower
    have index : i < w.length := by
      rw [brace, way.offset] at upper
      omega
    have found : (bareOf s)[v.length + 1 + u.length + i + 1]? = some w[i] := by
      have cut : bareOf s = (v ++ '(' :: u ++ [')']) ++ (w ++ '\x7b' :: y) := by
        rw [split, after]
        simp
      have place : v.length + 1 + u.length + i + 1 = (v ++ '(' :: u ++ [')']).length + i := by
        simp
        omega
      rw [cut, place, List.getElem?_append_right (Nat.le_add_right ..), Nat.add_sub_cancel_left,
        List.getElem?_append_left index, List.getElem?_eq_getElem index]
    rw [found]
    intro close
    have := thrown _ (List.getElem_mem index)
    rw [Option.some.inj close] at this
    exact absurd this (by decide)

/-- No two methods have a brace in common. -/
theorem pairwise_brace_ne (s : List Char) :
    (methodsOf s).Pairwise fun m m' => m.bodyStart ≠ m'.bodyStart := by
  refine List.pairwise_filterMap.2 (List.Pairwise.imp_of_mem ?_ (Pattern.pairwise_findAll _ _))
  intro site site' hsite hsite' apart m hm m' hm'
  obtain ⟨a, -, le, declared⟩ := declaredAt_of_mem hsite hm
  obtain ⟨b, le', -, declared'⟩ := declaredAt_of_mem hsite' hm'
  exact declared.brace_ne declared' (by omega)

/-! ## Bodies with their braces -/

/-- The offsets of a method's body, from its opening brace through its closing one or through the end
of the text. -/
def Method.span (s : List Char) (m : Method) : Set Nat :=
  Set.Ico (m.bodyStart - 1) (if m.bodyEnd < s.length then m.bodyEnd + 1 else s.length)

section Span

variable {s : List Char} {m m' : Method}

/-- A body that ends before the text does ends with the brace that closes it. -/
theorem closed_iff (h : m ∈ methodsOf s) : m.bodyEnd < s.length ↔
    closingAt? '\x7b' '\x7d' (bareOf s) (m.bodyStart - 1) = some m.bodyEnd := by
  obtain ⟨-, stop, -⟩ := body_agrees h
  cases closed : closingAt? '\x7b' '\x7d' (bareOf s) (m.bodyStart - 1) with
  | none => simp [stop, closed, length_bareOf]
  | some k =>
    obtain ⟨-, found, -⟩ := closingAt?_eq_some (by decide) closed
    have lt : k < s.length := length_bareOf s ▸ (List.getElem?_eq_some_iff.1 found).1
    simp [stop, closed, lt]

theorem span_eq (h : m ∈ methodsOf s) :
    m.span s = spanOf '\x7b' '\x7d' (bareOf s) (m.bodyStart - 1) := by
  obtain ⟨-, stop, -⟩ := body_agrees h
  rw [Method.span, spanOf]
  by_cases closed : m.bodyEnd < s.length
  · rw [if_pos closed, (closed_iff h).1 closed]
    rfl
  · rw [if_neg closed]
    rw [closed_iff h] at closed
    cases found : closingAt? '\x7b' '\x7d' (bareOf s) (m.bodyStart - 1) with
    | none => rw [Option.map_none, Option.getD_none, length_bareOf]
    | some k => exact absurd (by rw [found, stop, found]; rfl) closed

/-- The body of a method whose brace is closed runs up to that brace and is balanced. -/
theorem balanced_of_closed (h : m ∈ methodsOf s) (closed : m.bodyEnd < s.length) :
    (bareOf s)[m.bodyEnd]? = some '\x7d' ∧ Balanced '\x7b' '\x7d' m.bare := by
  obtain ⟨⟨pos, -⟩, -, -, copy, -⟩ := body_agrees h
  obtain ⟨-, found, balanced⟩ := closingAt?_eq_some (by decide) ((closed_iff h).1 closed)
  rw [Nat.sub_add_cancel pos] at balanced
  exact ⟨found, copy ▸ balanced⟩

theorem spans_laminar (h : m ∈ methodsOf s) (h' : m' ∈ methodsOf s)
    (ne : m.bodyStart ≠ m'.bodyStart) :
    Disjoint (m.span s) (m'.span s) ∨ m.span s ⊂ m'.span s ∨ m'.span s ⊂ m.span s := by
  obtain ⟨⟨pos, brace⟩, -⟩ := body_agrees h
  obtain ⟨⟨pos', brace'⟩, -⟩ := body_agrees h'
  rw [span_eq h, span_eq h']
  rcases Nat.lt_or_gt_of_ne ne with lt | gt
  · exact (spanOf_laminar (by decide) brace' (by omega)).imp_right .inr
  · exact (spanOf_laminar (by decide) brace (by omega)).imp (fun apart => apart.symm) .inl

/-- A body that starts in another one whose brace is closed ends before that brace. -/
theorem closed_of_inside (h : m ∈ methodsOf s) (h' : m' ∈ methodsOf s) (closed : m.bodyEnd < s.length)
    (after : m.bodyStart < m'.bodyStart) (inside : m'.bodyStart ≤ m.bodyEnd) :
    m'.bodyEnd < m.bodyEnd := by
  obtain ⟨⟨pos, -⟩, -⟩ := body_agrees h
  obtain ⟨⟨pos', brace'⟩, stop', -⟩ := body_agrees h'
  obtain ⟨k, closed', lt⟩ := closingAt?_inner (by decide) ((closed_iff h).1 closed) brace'
    (by omega) (by omega)
  rw [stop', closed']
  exact lt

end Span

/-- The bodies of the methods of a text nest like blocks. No two start at the same brace, and of any
two, with their braces, either both are apart or one lies in the other. A body whose brace is closed
ends there and is balanced, and what starts in it ends in it. -/
theorem bodies_nest (s : List Char) :
    ((methodsOf s).Pairwise fun m m' => m.bodyStart ≠ m'.bodyStart ∧
      (Disjoint (m.span s) (m'.span s) ∨ m.span s ⊂ m'.span s ∨ m'.span s ⊂ m.span s)) ∧
    ∀ m ∈ methodsOf s, (bareOf s)[m.bodyStart - 1]? = some '\x7b' ∧
      m.span s = spanOf '\x7b' '\x7d' (bareOf s) (m.bodyStart - 1) ∧
      (m.bodyEnd < s.length →
        (bareOf s)[m.bodyEnd]? = some '\x7d' ∧ Balanced '\x7b' '\x7d' m.bare ∧
        ∀ m' ∈ methodsOf s, m.bodyStart < m'.bodyStart → m'.bodyStart ≤ m.bodyEnd →
          m'.bodyEnd < m.bodyEnd) := by
  constructor
  · refine (pairwise_brace_ne s).imp_of_mem fun h h' ne => ?_
    exact ⟨ne, spans_laminar h h' ne⟩
  · intro m h
    obtain ⟨⟨-, brace⟩, -⟩ := body_agrees h
    refine ⟨brace, span_eq h, fun closed => ?_⟩
    obtain ⟨found, balanced⟩ := balanced_of_closed h closed
    exact ⟨found, balanced, fun m' h' => closed_of_inside h h' closed⟩

/-- A method of an anonymous class ends before the method that returns the class does. -/
theorem bodies_nest_anonymous :
    let s := "class A \x7b B f() \x7b return new B() \x7b int g() \x7b \x7d \x7d; \x7d \x7d".toList
    ∃ m ∈ methodsOf s, ∃ m' ∈ methodsOf s, m.name = ['f'] ∧ m'.name = ['g'] ∧
      m'.bodyEnd < m.bodyEnd := by
  intro s
  let m : Method := {
    name := ['f'], returnType := ['B'], params := []
    body := " return new B() \x7b int g() \x7b \x7d \x7d; ".toList
    line := 1, bodyStart := 17, bodyEnd := 50 }
  let m' : Method := {
    name := ['g'], returnType := "int".toList, params := [], body := [' ']
    line := 1, bodyStart := 44, bodyEnd := 45 }
  have h : m ∈ methodsOf s := by decide +kernel
  have h' : m' ∈ methodsOf s := by decide +kernel
  have closed : m.bodyEnd < s.length := by decide
  obtain ⟨-, -, inner⟩ := ((bodies_nest s).2 m h).2.2 closed
  exact ⟨m, h, m', h', rfl, rfl, inner m' h' (by decide) (by decide)⟩

end ModuleAudit.Java
