import ModuleAudit.Proofs.Java.Declaration
import ModuleAudit.Proofs.Pattern.First

/-!
# Methods are recovered from their declarations

A class that is written from declarations is scanned back to exactly the methods they stand for
(`methodsOf_classText`). Only the names of the declarations stand before a parenthesis of the bare
copy, so these are the call sites (`findFrom_declaration`). At each of them the type in front of the
name (`declaredType?_eq`) and the brace behind the parameters (`prefixMatch?_bodyOpener`) are read as
they were written (`methodAt?_found`).
-/

namespace ModuleAudit.Java

open ModuleAudit.Text (isBlank isIdent isWord isAlphanumeric lineNumber)
open ModuleAudit.Pattern (headIs)

/-! ## Call sites -/

/-- Behind characters of one kind and then of another kind, none of the first kind follows one of
neither. -/
theorem not_mixed {p q : Char → Bool} {n g x y : List Char} {b c : Char} (each : ∀ d ∈ n, p d = true)
    (each' : ∀ d ∈ g, q d = true) (hb : p b = false) (hc : q c = false) :
    x ++ b :: c :: y ≠ n ++ g := by
  intro split
  rcases List.append_eq_append_iff.1 split with ⟨z, rfl, e⟩ | ⟨z, rfl, rfl⟩
  · cases z with
    | nil =>
      have : q c = true := each' c (by rw [← List.nil_append g, ← e]; simp)
      simp [hc] at this
    | cons d z =>
      obtain ⟨rfl, -⟩ := List.cons.inj e
      have : p b = true := each b (by simp)
      simp [hb] at this
  · have : q c = true := each' c (by simp)
    simp [hc] at this

/-- A text is cut at the first place of a character in one way only. -/
theorem first_place_inj {x x' y y' : List Char} {c : Char} (hx : c ∉ x) (hx' : c ∉ x')
    (h : x ++ c :: y = x' ++ c :: y') : x = x' ∧ y = y' := by
  have same {x x' y y' : List Char} (hx' : c ∉ x') (e : ∃ z, x' = x ++ z ∧ c :: y = z ++ c :: y') :
      x = x' ∧ y = y' := by
    obtain ⟨z, rfl, e⟩ := e
    cases z with
    | nil => exact ⟨(List.append_nil x).symm, (List.cons.inj e).2⟩
    | cons d z =>
      obtain ⟨rfl, -⟩ := List.cons.inj e
      exact absurd (by simp) hx'
  rcases List.append_eq_append_iff.1 h with e | e
  · exact same hx' e
  · exact (same hx e).imp Eq.symm Eq.symm

/-- Up to a name that stands after a blank, no call site starts in a text without parentheses. -/
theorem passes_callSite {before x name gap : List Char} (rest : List Char) (calls : '(' ∉ x)
    (last : ∀ c ∈ x.getLast?, isBlank c = true) (ident : IsIdentifier name)
    (blank : ∀ c ∈ gap, isBlank c = true) :
    callSite.Passes before x (name ++ gap ++ '(' :: rest) := by
  rintro x z rfl nonempty w y split fit
  obtain ⟨n, g, rfl, each, each'⟩ := fits_callSite fit
  obtain ⟨z, b, rfl⟩ : ∃ z' b, z = z' ++ [b] := ⟨_, _, (List.dropLast_concat_getLast nonempty).symm⟩
  have hb : isBlank b = true := last b (by simp)
  -- The only parenthesis that is reached is the one behind the name.
  have front : '(' ∉ (z ++ [b]) ++ (name ++ gap) := by
    simp only [List.mem_append, not_or] at calls ⊢
    refine ⟨calls.2, fun h => ?_, fun h => ?_⟩
    · exact absurd (ident.each _ h) (by decide)
    · exact absurd (blank _ h) (by decide)
  have reached : '(' ∉ n ++ g := by
    rw [List.mem_append, not_or]
    refine ⟨fun h => ?_, fun h => ?_⟩
    · exact absurd (each _ h) (by decide)
    · exact absurd (each' _ h) (by decide)
  have split : ((z ++ [b]) ++ (name ++ gap)) ++ '(' :: rest = (n ++ g) ++ '(' :: y := by
    simpa using split
  obtain ⟨same, -⟩ := first_place_inj front reached split
  obtain ⟨c, name, rfl, start, -⟩ := ident
  have hc : isBlank c = false := isBlank_of_isIdent (isIdent_of_startsName start)
  refine not_mixed each each' (isIdent_of_isBlank hb) hc (x := z) (y := name ++ gap) ?_
  simpa using same

theorem headIs_append {p q : Char → Bool} {g y : List Char} (each : ∀ c ∈ g, q c = true)
    (apart : ∀ c, q c = true → p c = false) (stop : headIs p y = false) :
    headIs p (g ++ y) = false := by
  cases g with
  | nil => exact stop
  | cons c g => simpa [headIs] using apart c (each c List.mem_cons_self)

theorem headIs_run {p : Char → Bool} {w : List Char} (nonempty : w ≠ []) (each : ∀ c ∈ w, p c = false)
    (y : List Char) : headIs p (w ++ y) = false := by
  obtain ⟨c, w, rfl⟩ := List.exists_cons_of_ne_nil nonempty
  exact each c List.mem_cons_self

/-- At a name where a word starts or ends, the call site of the name is found. -/
theorem takes_callSite_of_edge {s : Place} {name gap rest : List Char}
    (h : s.after = name ++ (gap ++ '(' :: rest))
    (edge : (headIs isWord s.before != headIs isWord s.after) = true) (ident : IsIdentifier name)
    (blank : ∀ c ∈ gap, isBlank c = true) : callSite.Takes s (name ++ gap ++ ['(']) [(1, name)] := by
  obtain ⟨c, name, rfl, starts, each⟩ := ident
  have stop : headIs isIdent (gap ++ '(' :: rest) = false :=
    headIs_append blank (fun _ => isIdent_of_isBlank) rfl
  have named {t : Place} (after : t.after = c :: name ++ (gap ++ '(' :: rest)) :
      (Pattern.seq (.char startsName) (.most isIdent)).Takes t (c :: name) [] :=
    (Pattern.takes_char after starts).seq fun t way =>
      Pattern.takes_most (way.after_eq after) each stop
  have parts := (Pattern.takes_between
      (fun before after => headIs isWord before != headIs isWord after) edge).seq
    fun t way => ((named (way.after_eq h)).capture (k := 1)).seq
    fun t₁ way₁ => (Pattern.takes_most (way₁.after_eq (way.after_eq h)) blank rfl).seq
    fun t₂ way₂ => (Pattern.takes_exactly (way₂.after_eq (way₁.after_eq (way.after_eq h)))).seq
    fun t₃ _ => Pattern.takes_nothing t₃
  change callSite.Takes s _ _ at parts
  simpa using parts

/-- At a name that stands after a blank, the call site of the name is found. -/
theorem takes_callSite {s : Place} {name gap rest : List Char}
    (h : s.after = name ++ (gap ++ '(' :: rest)) (last : ∀ c ∈ s.before.head?, isBlank c = true)
    (ident : IsIdentifier name) (head : name.head? ≠ some '$') (blank : ∀ c ∈ gap, isBlank c = true) :
    callSite.Takes s (name ++ gap ++ ['(']) [(1, name)] := by
  refine takes_callSite_of_edge h ?_ ident blank
  obtain ⟨c, name, rfl, starts, -⟩ := ident
  have word : isWord c = true := isWord_of_startsName starts (by simpa using head)
  have front : headIs isWord s.before = false := by
    cases hb : s.before with
    | nil => rfl
    | cons b before => exact isWord_of_isIdent (isIdent_of_isBlank (last b (by rw [hb]; rfl)))
  rw [front, h]
  simpa [headIs] using word

/-! ## Types -/

theorem isDotted_of_isBlank {c : Char} (h : isBlank c = true) : isDotted c = false := by
  have : c ≠ '.' := by
    rintro rfl
    exact absurd h (by decide)
  simp [isDotted, isIdent_of_isBlank h, this]

/-- The text ends with no character of an identifier. -/
def EndsApart (s : List Char) : Prop := ∀ c ∈ s.getLast?, isIdent c = false

theorem EndsApart.append {u v : List Char} (h : EndsApart u) (h' : EndsApart v) :
    EndsApart (u ++ v) := by
  intro c hc
  rw [List.getLast?_append] at hc
  cases last : v.getLast? with
  | none => exact h c (by simpa [last] using hc)
  | some d => exact h' c (by simpa [last] using hc)

theorem EndsApart.of_each {u : List Char} (h : ∀ c ∈ u, isIdent c = false) : EndsApart u :=
  fun c hc => h c (List.mem_of_getLast? hc)

theorem EndsApart.concat {c : Char} (h : isIdent c = false) (u : List Char) : EndsApart (u ++ [c]) := by
  intro d hd
  obtain rfl : c = d := by simpa using hd
  exact h

theorem EndsApart.of_repeats {fits : List Char → List Char → List Char → Prop}
    {before w after : List Char} (h : Pattern.Repeats fits before w after)
    (each : ∀ {x u y}, fits x u y → EndsApart u) : EndsApart w := by
  induction h with
  | nil => exact nofun
  | cons _ step _ ih => exact (each step).append ih

/-- What is taken for a type at the end of a text is a dotted name and what does not end with a
character of an identifier. -/
theorem fits_typeAtEnd {before w after : List Char} (h : typeAtEnd.Fits before w after) :
    ∃ r t, w ++ after = r ++ t ∧ (∀ c ∈ r, isDotted c = true) ∧ EndsApart t := by
  simp only [typeAtEnd, arrayMarks, Pattern.fits_sequence_cons, Pattern.fits_sequence_nil,
    Pattern.fits_many, Pattern.fits_optional, Pattern.fits_gap, Pattern.fits_exactly,
    Pattern.textEnd, Pattern.Fits] at h
  obtain ⟨_, _, rfl, ⟨r, _, rfl, run, o, _, rfl, arguments, marks, _, rfl, repeats, rfl⟩, g, _, rfl,
    blank, _, _, rfl, ⟨rfl, stop⟩, rfl⟩ := h
  refine ⟨r, o ++ (marks ++ (g ++ after)), by simp, run.each, ?_⟩
  have arguments : EndsApart o := by
    rcases arguments with ⟨x, _, rfl, -, y, _, rfl, rfl, z, _, rfl, -, _, _, rfl, rfl, rfl⟩ | rfl
    · simpa using EndsApart.concat (c := '>') (by decide) (x ++ ['<'] ++ z)
    · intro c hc
      cases hc
  have marks : EndsApart marks := by
    refine .of_repeats repeats fun fit => ?_
    simp only [Pattern.fits_sequence_cons, Pattern.fits_sequence_nil, Pattern.fits_gap,
      Pattern.fits_exactly] at fit
    obtain ⟨x, _, rfl, -, _, _, rfl, rfl, y, _, rfl, -, _, _, rfl, rfl, rfl⟩ := fit
    simpa using EndsApart.concat (c := ']') (by decide) (x ++ ['['] ++ y)
  have stop : EndsApart after := by
    simp only [Bool.or_eq_true, List.isEmpty_iff, beq_iff_eq] at stop
    rcases stop with stop | stop
    · exact fun c hc => by simp_all
    · exact .of_each (by simp_all; decide)
  exact arguments.append (marks.append ((EndsApart.of_each fun c hc =>
    isIdent_of_isBlank (blank c hc)).append stop))

/-- Up to a type that stands after a blank, nothing is taken for a type at the end of a text. -/
theorem passes_typeAtEnd {before x type : List Char} (last : ∀ c ∈ x.getLast?, isBlank c = true)
    (ident : IsIdentifier type) : typeAtEnd.Passes before x type := by
  rintro x z rfl nonempty w y split fit
  obtain ⟨r, t, whole, dotted, apart⟩ := fits_typeAtEnd fit
  rw [← split] at whole
  obtain ⟨e, end_⟩ : ∃ e, type.getLast? = some e := by
    obtain ⟨c, rest, rfl, -⟩ := ident
    exact ⟨_, List.getLast?_eq_some_getLast (List.cons_ne_nil c rest)⟩
  obtain rfl : t = [] := by
    by_contra h
    have same : t.getLast? = some e := by
      rw [← List.getLast?_append_of_ne_nil r h, ← whole, List.getLast?_append, end_, Option.some_or]
    exact absurd (ident.each e (List.mem_of_getLast? end_)) (by simp [apart e same])
  obtain ⟨z, b, rfl⟩ : ∃ z' b, z = z' ++ [b] := ⟨_, _, (List.dropLast_concat_getLast nonempty).symm⟩
  have blank : isBlank b = true := last b (by simp)
  refine absurd (dotted b ?_) (by simp [isDotted_of_isBlank blank])
  rw [← List.append_nil r, ← whole]
  simp

/-- At a type at the end of a text, the type is found. -/
theorem takes_typeAtEnd {s : Place} {type : List Char} (h : s.after = type)
    (ident : IsIdentifier type) : typeAtEnd.Takes s type [(1, type)] := by
  have whole : s.after = type ++ [] := by rw [h, List.append_nil]
  have run : IsRun isDotted type := by
    refine ⟨?_, fun d hd => by simp [isDotted, ident.each d hd]⟩
    obtain ⟨c, rest, rfl, -⟩ := ident
    exact List.cons_ne_nil c rest
  have bare {t : Place} (after : t.after = []) :
      (Pattern.optional (.sequence [
        .gap, .exactly '<', .most fun c => !(";\x7b\x7d()".toList.contains c), .exactly '>'])).Takes
        t [] [] := by
    refine Pattern.takes_optional_of_none ?_
    rintro w y none ⟨u, _, rfl, -, v, _, rfl, fit, -⟩
    rw [Pattern.fits_exactly.1 fit, after] at none
    simp at none
  have word := (Pattern.takes_many whole run rfl).seq fun t way =>
    (bare (way.after_eq whole)).seq fun t₁ way₁ =>
    (Pattern.takes_star_of_nil (a := .sequence [.gap, .exactly '[', .gap, .exactly ']'])
      (way₁.after_eq (way.after_eq whole))).seq fun t₂ _ =>
    Pattern.takes_nothing t₂
  have trailing {t : Place} (after : t.after = []) :
      (Pattern.sequence [.gap, .textEnd]).Takes t [] [] :=
    (Pattern.takes_most (w := []) (y := []) after (List.forall_mem_nil _) rfl).seq fun t₁ way =>
    (Pattern.takes_between _ (by rw [way.after_eq (y := []) after]; rfl)).seq fun t₂ _ =>
    Pattern.takes_nothing t₂
  have parts := (word.capture (k := 1)).seq fun t way =>
    trailing (way.after_eq (by simpa using whole))
  change typeAtEnd.Takes s _ _ at parts
  simpa using parts

/-- What is looked at in front of a name ends with its type, behind a blank if more is seen. -/
theorem take_typeReach {x y gap : List Char} {c : Char} (last : ∀ c ∈ x.getLast?, isBlank c = true)
    (solid : isBlank c = false) (blank : ∀ c ∈ gap, isBlank c = true)
    (reach : (y ++ [c]).length + gap.length ≤ typeReach) :
    ∃ front : List Char, (∀ c ∈ front.getLast?, isBlank c = true) ∧
      ((x ++ (y ++ [c]) ++ gap).reverse.take typeReach).dropWhile isBlank =
        c :: (front ++ y).reverse := by
  refine ⟨(x.reverse.take (typeReach - gap.length - (y ++ [c]).length)).reverse, fun d hd => ?_, ?_⟩
  · rw [List.getLast?_reverse, List.head?_take] at hd
    split at hd
    · cases hd
    · exact last d (by simpa using hd)
  · have text : (x ++ (y ++ [c]) ++ gap).reverse =
        gap.reverse ++ ((y ++ [c]).reverse ++ x.reverse) := by simp
    rw [text, List.take_append, List.take_of_length_le (by simp; omega), List.take_append,
      List.take_of_length_le (by simp at reach ⊢; omega),
      List.dropWhile_append_of_pos fun d hd => blank d (List.mem_reverse.1 hd)]
    simp [solid]

/-- The type in front of a name is read as it is written. -/
theorem declaredType?_eq {x type gap : List Char} (last : ∀ c ∈ x.getLast?, isBlank c = true)
    (ident : IsIdentifier type) (modifier : type ∉ modifiers) (not : type ∉ notReturnTypes)
    (blank : ∀ c ∈ gap, isBlank c = true) (reach : type.length + gap.length ≤ typeReach) :
    declaredType? (x ++ type ++ gap).reverse = some type := by
  obtain ⟨y, c, rfl⟩ : ∃ y c, type = y ++ [c] := by
    obtain ⟨c, rest, rfl, -⟩ := ident
    exact ⟨_, _, (List.dropLast_concat_getLast (List.cons_ne_nil c rest)).symm⟩
  have hc : isIdent c = true := ident.each c (by simp)
  obtain ⟨front, last, window⟩ := take_typeReach last (isBlank_of_isIdent hc) blank reach
  have ends : (isAlphanumeric c || "_$>]".toList.contains c) = true := by
    simp only [isIdent, isWord, Bool.or_eq_true, beq_iff_eq] at hc
    rcases hc with (alphanumeric | rfl) | rfl
    · rw [alphanumeric, Bool.true_or]
    · rfl
    · rfl
  obtain ⟨m, found, -, -, captures⟩ :=
    (takes_typeAtEnd (s := ⟨front.reverse ++ [], y ++ [c], 0 + front.length, []⟩) rfl ident).matchAt?
  have search : typeAtEnd.search? (c :: (front ++ y).reverse).reverse = some m := by
    have text : (c :: (front ++ y).reverse).reverse = front ++ (y ++ [c]) := by simp
    rw [text, Pattern.search?, Pattern.searchFrom?_skip (passes_typeAtEnd last ident)]
    exact Pattern.searchFrom?_hit found
  have capture : m.capture 1 = y ++ [c] := by
    rw [Match.capture, Place.capture, captures]
    simp
  rw [declaredType?, window]
  simp only [ends, if_true, search, capture]
  simp [modifier, not]

/-! ## The opening of a body -/

/-- The clause of a declaration, with the brace behind it, opens a body. -/
theorem Declaration.fits_clause (d : Declaration) (before y : List Char) :
    bodyOpener.Fits before (d.clause ++ ['\x7b']) y := by
  simp only [bodyOpener, Pattern.fits_sequence_cons, Pattern.fits_sequence_nil, Pattern.fits_gap,
    Pattern.fits_optional, Pattern.fits_word, Pattern.fits_blanks, Pattern.fits_fewest,
    Pattern.fits_exactly]
  have ending : ∃ u v, d.bodyGap.chars ++ ['\x7b'] = u ++ v ∧ (∀ c ∈ u, isBlank c = true) ∧
      ∃ u' v', v = u' ++ v' ∧ u' = ['\x7b'] ∧ v' = [] :=
    ⟨_, _, rfl, d.bodyGap.blank, _, [], rfl, rfl, rfl⟩
  have each := d.clause_isOfNames
  rw [clause] at each ⊢
  split at each
  · exact ⟨[], _, rfl, List.forall_mem_nil _, [], _, rfl, .inr rfl, ending⟩
  · rename_i w ws exceptions
    obtain ⟨c, rest, word, -⟩ := d.exceptions_identifier w (by simp [exceptions])
    have gap := d.exceptions_gap w (by simp [exceptions])
    have cut : d.throwsGap.chars ++ "throws".toList ++ w.text ++ (ws.flatMap fun w => ',' :: w.text) ++
        d.bodyGap.chars ++ ['\x7b'] =
      d.throwsGap.chars ++ (("throws".toList ++ (w.gap.chars ++ ([c] ++
        (rest ++ ws.flatMap fun w => ',' :: w.text)))) ++ (d.bodyGap.chars ++ ['\x7b'])) := by
      simp [Spaced.text, word]
    refine ⟨_, _, cut, d.throwsGap.blank, _, _, rfl, .inl ⟨_, _, rfl, rfl, _, _, rfl,
      ⟨gap, w.gap.blank⟩, _, _, rfl, ⟨c, ?_, rfl⟩, _, [], (List.append_nil _).symm, ?_, rfl⟩, ending⟩
    · exact each c (by simp [Spaced.text, word])
    · intro e he
      refine each e ?_
      simp only [List.mem_append] at he
      simp only [Spaced.text, word, List.mem_append, List.mem_cons]
      tauto

/-- A body is opened by the first brace behind the parameters. -/
theorem prefixMatch?_bodyOpener {w y : List Char} (fit : bodyOpener.Fits [] (w ++ ['\x7b']) y) :
    ∃ m, bodyOpener.prefixMatch? (w ++ '\x7b' :: y) = some m ∧ m.length = w.length + 1 ∧
      m.stop.after = y := by
  have whole : (Place.start (w ++ '\x7b' :: y)).after = (w ++ ['\x7b']) ++ y := by simp [Place.start]
  obtain ⟨t, mem, -⟩ := Pattern.exists_mem_ends whole fit
  obtain ⟨m, found⟩ : ∃ m, bodyOpener.prefixMatch? (w ++ '\x7b' :: y) = some m := by
    rw [Pattern.prefixMatch?, Pattern.matchAt?_eq_head?]
    obtain ⟨t, ts, cut⟩ := List.exists_cons_of_ne_nil (List.ne_nil_of_mem mem)
    exact ⟨⟨_, t⟩, by rw [cut]; rfl⟩
  obtain ⟨start, stop⟩ := Pattern.matchAt?_eq_some found
  obtain ⟨_, way, fit'⟩ := Pattern.fits_of_mem_ends stop
  obtain ⟨u, rfl, each⟩ := fits_bodyOpener fit'
  obtain ⟨u', same, each'⟩ := fits_bodyOpener fit
  obtain rfl := List.append_cancel_right same
  have brace {u : List Char} (each : ∀ c ∈ u, isOfNames c = true) : '\x7b' ∉ u :=
    fun h => absurd (each _ h) (by decide)
  have split : u ++ '\x7b' :: m.stop.after = w ++ '\x7b' :: y := by
    simpa [Place.start] using way.after.symm
  obtain ⟨rfl, after⟩ := first_place_inj (brace each) (brace each') split
  exact ⟨m, found, by rw [Match.length, way.offset, start]; simp [Place.start], after⟩

/-! ## One declaration -/

namespace Declaration

/-- The match is the call site of the declaration, which stands behind `written` in the bare copy;
`after` follows its parenthesis. -/
structure IsSite (d : Declaration) (written after : List Char) (m : Match) : Prop where
  before : m.start.before = (written ++ d.front).reverse
  start : m.start.offset = (written ++ d.front).length
  stop : m.stop.offset = (written ++ d.front ++ d.site).length
  after : m.stop.after = after
  name : m.capture 1 = d.name.word

variable (d : Declaration)

theorem front_blank (x : List Char) : ∀ c ∈ (x ++ d.front).getLast?, isBlank c = true := by
  intro c hc
  rw [front, ← List.append_assoc, List.getLast?_append_of_ne_nil _ d.name_gap] at hc
  exact d.name.gap.blank c (List.mem_of_getLast? hc)

/-- At the name of a declaration its call site is read. -/
theorem exists_site (seen after : List Char) :
    ∃ m, d.IsSite seen after m ∧ m.length = d.site.length ∧
      callSite.matchAt? ⟨(seen ++ d.front).reverse, d.site ++ after, (seen ++ d.front).length, []⟩ =
        some m := by
  let start : Place := ⟨(seen ++ d.front).reverse, d.site ++ after, (seen ++ d.front).length, []⟩
  have last : ∀ c ∈ start.before.head?, isBlank c = true := by
    rw [List.head?_reverse]
    exact d.front_blank seen
  have ahead : start.after = d.name.word ++ (d.paramsGap.chars ++ '(' :: after) := by
    simp [start, site]
  obtain ⟨m, found, atStart, way, captures⟩ :=
    (takes_callSite ahead last d.name_identifier d.name_head d.paramsGap.blank).matchAt?
  have length : (d.name.word ++ d.paramsGap.chars ++ ['(']).length = d.site.length := rfl
  refine ⟨m, ⟨?_, ?_, ?_, way.after_eq rfl, ?_⟩, ?_, found⟩
  · rw [atStart]
  · rw [atStart]
  · rw [way.offset, length]
    exact List.length_append.symm
  · rw [Match.capture, Place.capture, captures]
    rfl
  · rw [Match.length, atStart, way.offset, length, Nat.add_sub_cancel_left]

/-- The next call site is that of the declaration. -/
theorem findFrom_site (written : List Char) {x : List Char} (after : List Char) (calls : '(' ∉ x) :
    ∃ m, d.IsSite (written ++ x) after m ∧
      callSite.findFrom written.reverse written.length 0 (x ++ (d.front ++ (d.site ++ after))) =
        m :: callSite.findFrom (written ++ x ++ d.front ++ d.site).reverse
          (written ++ x ++ d.front ++ d.site).length 0 after := by
  have calls : '(' ∉ x ++ d.front := by
    rw [List.mem_append, not_or]
    exact ⟨calls, fun h => absurd (d.front_isOfNames _ h) (by decide)⟩
  have passes : callSite.Passes written.reverse (x ++ d.front) (d.site ++ after) := by
    simpa [site] using passes_callSite after calls (d.front_blank x) d.name_identifier
      d.paramsGap.blank
  obtain ⟨m, isSite, length, found⟩ := d.exists_site (written ++ x) after
  refine ⟨m, isSite, ?_⟩
  rw [List.append_assoc written, List.reverse_append, List.length_append] at found
  rw [← List.append_assoc, Pattern.findFrom_skip passes,
    Pattern.findFrom_hit (by simp [site]) found length]
  simp [Nat.add_assoc]

section Site

variable {d} {seen after : List Char} {m : Match}

/-- In front of the name stands the return type. -/
theorem IsSite.declaredType? (h : d.IsSite seen after m) :
    declaredType? m.start.before = some d.returnType.word := by
  have split : seen ++ d.front =
      (seen ++ d.modifiers.flatMap Spaced.text ++ d.returnType.gap.chars) ++ d.returnType.word ++
        d.name.gap.chars := by simp [front, Spaced.text]
  rw [h.before, split]
  refine declaredType?_eq (fun c hc => ?_) d.returnType_identifier d.returnType_modifiers
    d.returnType_not d.name.gap.blank d.reach
  rw [List.getLast?_append_of_ne_nil _ d.returnType_gap] at hc
  exact d.returnType.gap.blank c (List.mem_of_getLast? hc)

/-- Behind the name stand the parameters, and then the clause with the opening brace. -/
theorem IsSite.params (h : d.IsSite seen (d.inner ++ after) m) :
    closing? '(' ')' 1 m.stop.after = some d.params.length ∧
      m.stop.after.drop (d.params.length + 1) = d.clause ++ '\x7b' :: after := by
  have stop : m.stop.after = d.params ++ ')' :: (d.clause ++ '\x7b' :: after) := by
    rw [h.after]
    simp [inner]
  constructor
  · refine (closing?_one_eq_some_iff (by decide)).2 ⟨_, _, stop, rfl, balanced_of_notMem ?_ ?_⟩
    all_goals exact fun h => absurd (d.params_each _ h) (by decide)
  · rw [stop]
    simp

end Site

/-- The method that is read at the call site of a declaration is the one that it stands for. -/
theorem methodAt?_site {text code bare written copied seen rest rest' rest'' : List Char} {m : Match}
    (hm : d.IsSite seen (d.inner ++ (bareOf d.body ++ '\x7d' :: rest'')) m)
    (htext : text = written ++ d.text ++ rest)
    (hcode : code = copied ++ d.withBody (codeOf d.body) ++ rest')
    (hcopied : copied.length = written.length) (hseen : seen.length = written.length) :
    methodAt? text code bare m = some (d.method written) := by
  have type := hm.declaredType?
  obtain ⟨close, tail⟩ := hm.params
  obtain ⟨opener, opens, length, behind⟩ :=
    prefixMatch?_bodyOpener (d.fits_clause [] (bareOf d.body ++ '\x7d' :: rest''))
  have stop : closing? '\x7b' '\x7d' 1 opener.stop.after = some (bareOf d.body).length :=
    (closing?_one_eq_some_iff (by decide)).2 ⟨_, _, behind, rfl, d.body_balanced⟩
  simp only [methodAt?, hm.name, Option.bind_eq_bind, Option.pure_def, type, Option.bind_some, close,
    tail, opens, length, stop]
  rw [if_neg (by simpa using d.name_not)]
  simp only [method, Option.some.injEq, Method.mk.injEq, true_and]
  have paramsStart : m.stop.offset = (copied ++ d.front ++ d.site).length := by
    rw [hm.stop]
    simp [hcopied, hseen]
  have bodyStart : m.stop.offset + d.params.length + 1 + (d.clause.length + 1) =
      (copied ++ d.head).length := by
    rw [paramsStart]
    simp [head, inner]
    omega
  have bodyLength : (bareOf d.body).length = (codeOf d.body).length := by
    rw [length_bareOf, length_codeOf]
  rw [bodyStart, bodyLength]
  refine ⟨?params, ?body, ?line, by simp [hcopied], by simp [hcopied, length_codeOf, Nat.add_assoc]⟩
  case params =>
    have cut : code = (copied ++ d.front ++ d.site) ++ d.params ++
        (')' :: d.clause ++ ['\x7b'] ++ (codeOf d.body ++ ['\x7d']) ++ rest') := by
      rw [hcode]
      simp [withBody, head, inner]
    rw [paramsStart, cut, slice_append]
  case body =>
    have cut : code = (copied ++ d.head) ++ codeOf d.body ++ ('\x7d' :: rest') := by
      rw [hcode]
      simp [withBody]
    rw [cut, slice_append]
  case line =>
    have cut : text = (written ++ d.front) ++ (d.site ++ d.inner ++ (d.body ++ ['\x7d']) ++ rest) := by
      rw [htext]
      simp [Declaration.text, withBody, head]
    rw [lineNumber, cut, hm.start, List.take_left']
    simp [hseen]

/-- Behind the parenthesis of a declaration no other one is opened in it. -/
theorem notMem_inner_body : '(' ∉ d.inner ++ (bareOf d.body ++ ['\x7d']) := by
  simp only [inner, List.append_assoc, List.cons_append, List.mem_append, List.mem_cons,
    List.not_mem_nil, or_false, false_or, not_or]
  refine ⟨fun h => ?_, by decide, fun h => ?_, by decide, d.body_calls, by decide⟩
  · exact absurd (d.params_each _ h) (by decide)
  · exact absurd (d.clause_isOfNames _ h) (by decide)

end Declaration

/-! ## All declarations -/

theorem findFrom_callSite_eq_nil {before after : List Char} {offset : Nat} (calls : '(' ∉ after) :
    callSite.findFrom before offset 0 after = [] := by
  refine Pattern.findFrom_eq_nil fun x w y split fit => ?_
  obtain ⟨n, g, rfl, -⟩ := fits_callSite fit
  exact calls (by simp [split])

/-- The first call site behind `seen` and a stretch `x` without parentheses belongs to the declaration
that follows. Behind it stands again a stretch without parentheses. -/
theorem Declaration.filterMap_findFrom (d : Declaration)
    {text code bare written copied seen x rest rest' rest'' : List Char}
    (htext : text = written ++ d.text ++ rest)
    (hcode : code = copied ++ d.withBody (codeOf d.body) ++ rest')
    (hcopied : copied.length = written.length) (hseen : (seen ++ x).length = written.length)
    (calls : '(' ∉ x) :
    ∃ seen' x', (seen' ++ x').length = (written ++ d.text).length ∧ '(' ∉ x' ∧
      (callSite.findFrom seen.reverse seen.length 0
        (x ++ (d.withBody (bareOf d.body) ++ rest''))).filterMap (methodAt? text code bare) =
        d.method written :: (callSite.findFrom seen'.reverse seen'.length 0 (x' ++ rest'')).filterMap
          (methodAt? text code bare) := by
  obtain ⟨m, site, found⟩ := d.findFrom_site seen (d.inner ++ (bareOf d.body ++ '\x7d' :: rest'')) calls
  have cut : x ++ (d.withBody (bareOf d.body) ++ rest'') =
      x ++ (d.front ++ (d.site ++ (d.inner ++ (bareOf d.body ++ '\x7d' :: rest'')))) := by
    simp [Declaration.withBody, Declaration.head]
  have read : methodAt? text code bare m = some (d.method written) :=
    d.methodAt?_site site htext hcode hcopied hseen
  refine ⟨seen ++ x ++ d.front ++ d.site, d.inner ++ (bareOf d.body ++ ['\x7d']), ?_,
    d.notMem_inner_body, ?_⟩
  · have length := d.copied.length_bare
    simp [Declaration.withBody, Declaration.head] at length hseen ⊢
    omega
  · rw [cut, found, List.filterMap_cons_some read]
    simp

/-- The call sites behind `seen` and a stretch `x` without parentheses belong to the declarations
that follow. -/
theorem filterMap_findFrom {text code bare : List Char} (ds : List Declaration)
    {written copied seen x rest : List Char}
    (htext : text = written ++ ds.flatMap Declaration.text ++ rest)
    (hcode : code = copied ++ (ds.flatMap fun d => d.withBody (codeOf d.body)) ++ rest)
    (hcopied : copied.length = written.length) (hseen : (seen ++ x).length = written.length)
    (calls : '(' ∉ x) (last : '(' ∉ rest) :
    (callSite.findFrom seen.reverse seen.length 0
      (x ++ ((ds.flatMap fun d => d.withBody (bareOf d.body)) ++ rest))).filterMap
        (methodAt? text code bare) = declared written ds := by
  induction ds generalizing written copied seen x with
  | nil =>
    rw [findFrom_callSite_eq_nil]
    · rfl
    · simp [calls, last]
  | cons d ds ih =>
    simp only [List.flatMap_cons] at htext hcode
    rw [← List.append_assoc] at htext hcode
    have hcopied' : (copied ++ d.withBody (codeOf d.body)).length = (written ++ d.text).length := by
      rw [List.length_append, List.length_append, hcopied, d.copied.length_code]
    obtain ⟨seen', x', hseen', calls', found⟩ :=
      d.filterMap_findFrom (htext.trans (List.append_assoc ..)) (hcode.trans (List.append_assoc ..))
        hcopied hseen calls
    rw [List.flatMap_cons, List.append_assoc, found, declared, ih htext hcode hcopied' hseen' calls']

theorem isInert_classOpening : ∀ c ∈ classOpening, IsInert c := by
  have each : classOpening.all (fun c => isOfNames c || c == '\x7b') = true := by decide
  intro c hc
  have := List.all_eq_true.1 each c hc
  rw [Bool.or_eq_true, beq_iff_eq] at this
  rcases this with names | rfl
  · exact isInert_of_isOfNames names
  · decide

/-- Scanning a class that is written from declarations gives exactly the methods that they stand
for, in order: each with its name, its return type, its parameters, its body without comments and
the line of its name. -/
theorem methodsOf_classText (ds : List Declaration) (last : Blanks) :
    methodsOf (classText ds last) = declared classOpening ds := by
  have closing : ∀ c ∈ last.chars ++ ['\x7d'], IsInert c ∧ c ≠ '(' := by
    intro c hc
    rcases List.mem_append.1 hc with hc | hc
    · have names := isOfNames_of_isBlank (last.blank c hc)
      exact ⟨isInert_of_isOfNames names, by rintro rfl; exact absurd names (by decide)⟩
    · rw [List.mem_singleton.1 hc]
      decide
  have copied := ((copied_of_isInert isInert_classOpening).append (copied_flatMap ds)).append
    (copied_of_isInert fun c hc => (closing c hc).1)
  rw [methodsOf, methodsIn, Pattern.findAll, classText, copied.codeOf_eq, copied.bareOf_eq]
  rw [List.append_assoc classOpening (ds.flatMap fun d => d.withBody (bareOf d.body))]
  have start : ([] ++ classOpening).length = classOpening.length := rfl
  exact filterMap_findFrom ds rfl rfl rfl start (by decide) fun h => (closing _ h).2 rfl

/-- A class with braces and parentheses in a literal and in a comment. -/
theorem methodsOf_classText_literal :
    let before := "class C \x7b public String f(List<A> b) throws E \x7b"
    let body := " if \x7b g = \")\x7b(\"; \x7d // \x7d\n"
    methodsOf (before ++ body ++ "\x7d \x7d").toList = [{
      name := ['f'], returnType := "String".toList, params := "List<A> b".toList
      body := " if \x7b g = \")\x7b(\"; \x7d     \n".toList
      line := 1, bodyStart := 47, bodyEnd := 71 }] := by
  intro before body
  let d : Declaration := { Declaration.ofName ['f'] (by decide) (by decide) (by decide) with
    modifiers := [⟨.one, "public".toList⟩]
    params := "List<A> b".toList
    throwsGap := .one
    exceptions := [⟨.one, ['E']⟩]
    body := body.toList
    modifiers_mem := by decide
    params_each := List.all_eq_true.1 (by decide)
    exceptions_identifier := by decide
    exceptions_gap := by decide
    body_calls := by decide +kernel
    body_balanced := by decide +kernel
    body_closed := by decide +kernel }
  have written : (before ++ body ++ "\x7d \x7d").toList = classText [d] .one := by
    decide +kernel
  rw [written, methodsOf_classText]
  decide +kernel

end ModuleAudit.Java
