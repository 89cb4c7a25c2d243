import ModuleAudit.Connector.Classification
import ModuleAudit.Proofs.Pattern.Fit

/-!
# Which class decides on the delegation

The superclass of a file is the one named by the first extends clause in it, whichever class has the
clause (`superclass_by_extends`). Without any extends clause a connector is standalone, and it
delegates only if the first clause names a shared base class (`delegation_by_extends`). The clause
need not be that of the first class: `nested_class_delegates`.
-/

namespace ModuleAudit.Java

open ModuleAudit.Text (isBlank isIdent isWord)
open ModuleAudit.Pattern (headIs)

/-- Type parameters, or none. -/
inductive IsTypeParams : List Char → Prop
  | none : IsTypeParams []
  | some {b inner} (blank : ∀ c ∈ b, isBlank c = true) (inside : '\x7b' ∉ inner) :
    IsTypeParams (b ++ ('<' :: (inner ++ ['>'])))

/-- The header of a class up to the name of its superclass, after the text `before` (reversed). -/
inductive OpensExtends (before : List Char) : List Char → Prop
  | intro {b name params b' b''} (edge : headIs isWord before = false) (gap : IsRun isBlank b)
    (ident : IsRun isIdent name) (types : IsTypeParams params) (gap' : IsRun isBlank b')
    (gap'' : IsRun isBlank b'') :
    OpensExtends before
      ("class".toList ++ (b ++ (name ++ (params ++ (b' ++ ("extends".toList ++ b''))))))

/-- The header of a class with an extends clause, after the text `before` (reversed); `base` is what
it extends. -/
structure Extends (before header base : List Char) : Prop where
  opening : ∃ u, header = u ++ base ∧ OpensExtends before u
  dotted : IsRun isDotted base

theorem IsTypeParams.brace_not_mem {w : List Char} (h : IsTypeParams w) : '\x7b' ∉ w := by
  cases h with
  | none => exact List.not_mem_nil
  | some blank inside =>
    have hb : '\x7b' ∉ _ := fun hw => absurd (blank _ hw) (by decide)
    simp [hb, inside]

/-- The header of a class stands before its brace. -/
theorem Extends.brace_not_mem {before header base : List Char} (h : Extends before header base) :
    '\x7b' ∉ header := by
  obtain ⟨⟨_, rfl, _, gap, ident, types, gap', gap''⟩, dotted⟩ := h
  simp only [List.mem_append, not_or]
  exact ⟨⟨by decide, gap.not_mem (by decide), ident.not_mem (by decide), types.brace_not_mem,
    gap'.not_mem (by decide), by decide, gap''.not_mem (by decide)⟩, dotted.not_mem (by decide)⟩

/-- A class header stands whole in the text up to the next brace. -/
theorem Extends.takeWhile_append {before header base : List Char} (h : Extends before header base)
    (y : List Char) :
    (header ++ y).takeWhile (· != '\x7b') = header ++ y.takeWhile (· != '\x7b') :=
  List.takeWhile_append_of_pos fun _ hc => bne_iff_ne.2 fun e => h.brace_not_mem (e ▸ hc)

/-- Of the text before a class header only the last character matters. -/
theorem Extends.of_edge {before before' header base : List Char} (h : Extends before header base)
    (edge : headIs isWord before' = false) : Extends before' header base := by
  obtain ⟨⟨u, split, -, gap, ident, types, gap', gap''⟩, dotted⟩ := h
  exact ⟨⟨_, split, edge, gap, ident, types, gap', gap''⟩, dotted⟩

namespace Source

/-- The patterns of a class header, up to the name of the superclass. -/
def headerOpening : List Pattern :=
  [.edge, .word "class", .blanks, .many isIdent,
    .optional (.sequence [.gap, .exactly '<', .fewest (· != '\x7b'), .exactly '>']),
    .blanks, .word "extends", .blanks]

theorem classHeader_eq :
    classHeader = .sequence (headerOpening ++ [.capture 1 (.many isDotted)]) := rfl

theorem fits_typeParams {before w after : List Char} :
    (Pattern.optional (.sequence
      [.gap, .exactly '<', .fewest (· != '\x7b'), .exactly '>'])).Fits before w after ↔
      IsTypeParams w := by
  simp only [Pattern.fits_optional, Pattern.fits_sequence_cons, Pattern.fits_sequence_nil,
    Pattern.fits_gap, Pattern.fits_exactly, Pattern.fits_fewest]
  constructor
  · rintro (⟨b, _, rfl, blank, _, _, rfl, rfl, inner, _, rfl, inside, _, _, rfl, rfl, rfl⟩ | rfl)
    · exact .some blank fun h => by simpa using inside _ h
    · exact .none
  · rintro (_ | @⟨b, inner, blank, inside⟩)
    · exact .inr rfl
    · refine .inl ⟨b, _, rfl, blank, ['<'], _, rfl, rfl, inner, ['>'], rfl, fun c hc => ?_, ['>'], [],
        rfl, rfl, rfl⟩
      exact bne_iff_ne.2 fun e => inside (e ▸ hc)

theorem headIs_class (w : List Char) : headIs isWord ("class".toList ++ w) = true := by
  rw [headIs]
  exact (by decide : isWord 'c' = true)

theorem fits_headerOpening {before w after : List Char} :
    (Pattern.sequence headerOpening).Fits before w after ↔ OpensExtends before w := by
  simp only [headerOpening, Pattern.fits_sequence_cons, Pattern.fits_sequence_nil,
    Pattern.fits_word, Pattern.fits_blanks, Pattern.fits_many, Pattern.fits_edge, fits_typeParams]
  constructor
  · rintro ⟨_, _, rfl, ⟨rfl, edge⟩, _, _, rfl, rfl, b, _, rfl, gap, name, _, rfl, ident, params, _,
      rfl, types, b', _, rfl, gap', _, _, rfl, rfl, b'', _, rfl, gap'', rfl⟩
    rw [List.append_assoc, headIs_class, ne_eq, Bool.not_eq_true] at edge
    rw [List.append_nil]
    exact .intro edge gap ident types gap' gap''
  · rintro ⟨edge, gap, ident, types, gap', gap''⟩
    refine ⟨[], _, (List.nil_append _).symm, ⟨rfl, ?_⟩, _, _, rfl, rfl, _, _, rfl, gap, _, _, rfl,
      ident, _, _, rfl, types, _, _, rfl, gap', _, _, rfl, rfl, _, [], (List.append_nil _).symm,
      gap'', rfl⟩
    rw [List.append_assoc, headIs_class, edge]
    decide

theorem fits_classHeader {before w after : List Char} :
    classHeader.Fits before w after ↔ ∃ base, Extends before w base := by
  rw [classHeader_eq, Pattern.fits_sequence_append]
  simp only [fits_headerOpening, Pattern.fits_sequence_cons, Pattern.fits_sequence_nil,
    Pattern.fits_capture, Pattern.fits_many]
  constructor
  · rintro ⟨u, _, rfl, opening, base, _, rfl, dotted, rfl⟩
    exact ⟨base, ⟨u, by rw [List.append_nil], opening⟩, dotted⟩
  · rintro ⟨base, ⟨u, rfl, opening⟩, dotted⟩
    exact ⟨u, base, rfl, opening, base, [], (List.append_nil _).symm, dotted, rfl⟩

/-- The first match of a class header has captured all of the name of the superclass. -/
theorem head_ends_classHeader {s t : Place} (h : (classHeader.ends s).head? = some t) :
    ∃ w, s.Over w t ∧ Extends s.before w (t.capture 1) ∧ headIs isDotted t.after = false := by
  rw [classHeader_eq, Pattern.ends_sequence_append, List.head?_flatMap] at h
  obtain ⟨u, hu, named⟩ := List.exists_of_findSome?_eq_some h
  obtain ⟨w, way, fit⟩ := Pattern.fits_of_mem_ends hu
  rw [Pattern.ends_sequence_singleton] at named
  obtain ⟨way', dotted, stop⟩ := Pattern.head_ends_capture_many named
  exact ⟨_, way.trans way', ⟨⟨w, rfl, fits_headerOpening.1 fit⟩, dotted⟩, stop⟩

theorem superclass_eq_none_iff {s : Source} :
    s.superclass = none ↔
      ∀ x h y base, s.bare = x ++ h ++ y → ¬ Extends x.reverse h base := by
  simp only [superclass, Option.map_eq_none_iff, Pattern.search?_eq_none_iff, fits_classHeader,
    not_exists]
  exact forall₃_congr fun x h y => forall_comm

/-- The superclass of a file is named by the first extends clause in it. -/
theorem superclass_by_extends {s : Source} {name : String} (h : s.superclass = some name) :
    ∃ x h y base, s.bare = x ++ h ++ y ∧ Extends x.reverse h base ∧ headIs isDotted y = false ∧
      name = String.ofList (lastName base) ∧
      ∀ x' h' y' base', s.bare = x' ++ h' ++ y' → Extends x'.reverse h' base' →
        x.length ≤ x'.length := by
  obtain ⟨m, hm, rfl⟩ := Option.map_eq_some_iff.1 h
  obtain ⟨x, z, split, start, stop, first⟩ := Pattern.of_search? hm
  obtain ⟨w, way, header, ends⟩ := head_ends_classHeader stop
  rw [start] at way header
  refine ⟨x, w, m.stop.after, m.stop.capture 1, ?_, header, ends, rfl, ?_⟩
  · rw [split, List.append_assoc]
    exact congrArg _ way.after
  · intro x' h' y' base' split' header'
    exact first x' h' y' split' (fits_classHeader.2 ⟨base', header'⟩)

/-! ## The first class -/

/-- Where a class is declared. -/
def classOpening : Pattern := .sequence [.edge, .word "class", .blanks, .many isIdent]

/-- The header of the first class of a file, up to its brace. -/
def firstHeader? (s : Source) : Option (List Char) :=
  (classOpening.search? s.bare).map fun m => m.start.after.takeWhile (· != '\x7b')

theorem headIs_takeWhile {p q : Char → Bool} {y : List Char} (h : headIs p y = false) :
    headIs p (y.takeWhile q) = false := by
  cases y with
  | nil => rfl
  | cons c y =>
    rw [List.takeWhile_cons]
    split
    · exact h
    · rfl

theorem edge_of_fits_classOpening {before w after : List Char}
    (h : classOpening.Fits before w after) : headIs isWord before = false := by
  simp only [classOpening, Pattern.fits_sequence_cons, Pattern.fits_word, Pattern.fits_edge] at h
  obtain ⟨_, _, rfl, ⟨rfl, edge⟩, _, _, rfl, rfl, -⟩ := h
  rw [List.append_assoc, headIs_class] at edge
  simpa using edge

/-- A class with an extends clause is a class. -/
theorem exists_fits_classOpening {before header base : List Char} (h : Extends before header base) :
    ∃ w y, header = w ++ y ∧ ∀ after, classOpening.Fits before w after := by
  obtain ⟨⟨_, rfl, @⟨b, name, params, b', b'', edge, gap, ident, types, gap', gap''⟩⟩, dotted⟩ := h
  refine ⟨"class".toList ++ (b ++ name), params ++ (b' ++ ("extends".toList ++ b'')) ++ base,
    by simp only [List.append_assoc], fun after => ?_⟩
  simp only [classOpening, Pattern.fits_sequence_cons, Pattern.fits_sequence_nil, Pattern.fits_word,
    Pattern.fits_blanks, Pattern.fits_many, Pattern.fits_edge]
  refine ⟨[], _, (List.nil_append _).symm, ⟨rfl, ?_⟩, _, _, rfl, rfl, b, name, rfl, gap, name, [],
    (List.append_nil _).symm, ident, rfl⟩
  rw [List.append_assoc, headIs_class, edge]
  decide

/-- If the first class of a file has an extends clause of its own, that clause names the superclass,
whatever other classes extend. -/
theorem superclass_of_firstHeader {s : Source} {header : List Char} (h : s.firstHeader? = some header)
    (own : ∃ w y base, header = w ++ y ∧ Extends [] w base) :
    ∃ w y base, header = w ++ y ∧ Extends [] w base ∧ headIs isDotted y = false ∧
      s.superclass = some (String.ofList (lastName base)) := by
  obtain ⟨m, hm, rfl⟩ := Option.map_eq_some_iff.1 h
  obtain ⟨x, z, split, start, stop, first⟩ := Pattern.of_search? hm
  obtain ⟨w, y, base, cut, header⟩ := own
  rw [start] at cut ⊢
  have edge : headIs isWord x.reverse = false := by
    obtain ⟨v, -, fit⟩ := Pattern.fits_of_mem_ends (List.mem_of_head? stop)
    simpa [start] using edge_of_fits_classOpening fit
  have own : s.bare = x ++ w ++ (y ++ z.dropWhile (· != '\x7b')) := by
    rw [split, List.append_assoc, ← List.append_assoc w, ← cut, List.takeWhile_append_dropWhile]
  obtain ⟨name, found⟩ : ∃ name, s.superclass = some name := by
    rw [← Option.ne_none_iff_exists']
    exact fun none => superclass_eq_none_iff.1 none x w _ base own (header.of_edge edge)
  obtain ⟨x', w', y', base', split', header', stop', rfl, first'⟩ := superclass_by_extends found
  -- No class stands before the first one, and no extends clause before the one that is found.
  have same : x' = x := by
    have le : x'.length ≤ x.length := first' x w _ base own (header.of_edge edge)
    obtain ⟨v, v', rfl, fit⟩ := exists_fits_classOpening header'
    have ge : x.length ≤ x'.length := first x' v (v' ++ y')
      (by rw [split', List.append_assoc, List.append_assoc, List.append_assoc]) (fit _)
    rw [split, List.append_assoc] at split'
    exact (List.append_inj_left split' (by omega)).symm
  subst same
  obtain rfl : z = w' ++ y' := by
    rw [split, List.append_assoc] at split'
    exact List.append_cancel_left split'
  exact ⟨w', y'.takeWhile (· != '\x7b'), base', header'.takeWhile_append y', header'.of_edge rfl,
    headIs_takeWhile stop', found⟩

end Source

end ModuleAudit.Java

namespace ModuleAudit.Classification

open Java (Extends isDotted)
open Java.Source (lastName)
open Pattern (headIs)

theorem delegates_iff (s : Java.Source) :
    (ofSource s).delegation = .baseDelegated ↔ ∃ base ∈ baseTypes, s.superclass = some base := by
  simp only [ofSource]
  cases h : s.superclass with
  | none => simp
  | some base => by_cases hb : baseTypes.contains base <;> simp_all [Option.filter]

/-- Without an extends clause a connector is standalone. If its first class has a clause, this
clause names the superclass. A connector that delegates has a shared base class in the first clause
of its file, which may be that of any class. -/
theorem delegation_by_extends (s : Java.Source) :
    ((∀ x h y base, s.bare = x ++ h ++ y → ¬ Extends x.reverse h base) →
      s.superclass = none ∧ (ofSource s).delegation = .standalone) ∧
    (∀ header w y base, s.firstHeader? = some header → header = w ++ y → Extends [] w base →
      ∃ w' y' base', header = w' ++ y' ∧ Extends [] w' base' ∧ headIs isDotted y' = false ∧
        s.superclass = some (String.ofList (lastName base'))) ∧
    ((ofSource s).delegation = .baseDelegated →
      ∃ x h y base, s.bare = x ++ h ++ y ∧ Extends x.reverse h base ∧ headIs isDotted y = false ∧
        String.ofList (lastName base) ∈ baseTypes ∧
        ∀ x' h' y' base', s.bare = x' ++ h' ++ y' → Extends x'.reverse h' base' →
          x.length ≤ x'.length) := by
  refine ⟨fun none => ?_, fun header w y base first split own => ?_, fun delegates => ?_⟩
  · have none := Java.Source.superclass_eq_none_iff.2 none
    exact ⟨none, by simp [ofSource, none]⟩
  · exact Java.Source.superclass_of_firstHeader first ⟨w, y, base, split, own⟩
  · obtain ⟨base, shared, found⟩ := (delegates_iff s).1 delegates
    obtain ⟨x, h, y, base, split, header, stop, rfl, first⟩ := Java.Source.superclass_by_extends found
    exact ⟨x, h, y, base, split, header, stop, shared, first⟩

/-- The first class extends nothing, but a class in it does: the connector counts as one that
delegates. -/
theorem nested_class_delegates :
    let s : Java.Source := .ofText ⟨0, ["AcmeConnector.java"]⟩
      ("public class AcmeConnector implements SupaflowConnector \x7b\n" ++
        "    static class Session extends BaseJdbcConnector \x7b\n    \x7d\n\x7d\n").toList
    (∃ header, s.firstHeader? = some header ∧
      header = "class AcmeConnector implements SupaflowConnector ".toList ∧
      Text.occursIn "extends".toList header = false) ∧
    s.superclass = some "BaseJdbcConnector" ∧ (ofSource s).delegation = .baseDelegated := by
  refine ⟨⟨_, ?_, rfl, ?_⟩, ?_, ?_⟩ <;> decide +kernel

end ModuleAudit.Classification
