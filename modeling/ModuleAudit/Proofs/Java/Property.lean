import ModuleAudit.Java.Annotation
import ModuleAudit.Proofs.Java.Bracket
import ModuleAudit.Proofs.Java.Constants

/-!
# Annotated properties are recovered

A `Property` is a field as it is written behind its annotation, whose label is a literal. In the bare copy the
label is blanked out, so nothing in it is taken for a parenthesis or for another annotation, and the arguments
are cut out of the other copy at the offsets that the bare copy gives.

* `annotations_eq`: in a class that is written from properties the uses of the annotation are theirs;
* `annotatedFields_eq`: the fields that carry it have the names and the types that were written, each with the
  line of its annotation.
-/

namespace ModuleAudit.Java

open ModuleAudit.Text (isBlank isIdent lineNumber)
open ModuleAudit.Pattern (headIs)

/-! ## Properties -/

/-- The words that may stand before the type of a field. -/
def fieldModifiers : List String :=
  ["public", "protected", "private", "static", "final", "transient", "volatile"]

/-- A word before the type of a field, and the blanks behind it. -/
structure FieldModifier where
  word : String
  after : Space
  mem : word ∈ fieldModifiers

/-- The word and the blanks. -/
def FieldModifier.text (m : FieldModifier) : List Char := m.word.toList ++ m.after.chars

/-- A property as it is written in a class. -/
structure Property where
  label : Literal
  /-- The blanks behind the annotation. -/
  afterLabel : Blanks
  modifiers : List FieldModifier
  type : List Char
  afterType : Space
  name : List Char
  afterName : Blanks
  /-- The blanks behind the semicolon. -/
  last : Blanks
  type_run : IsRun isIdent type
  type_not : type ∉ fieldModifiers.map String.toList
  name_run : IsRun isIdent name

namespace Property

/-- The sign of the annotation and its name. -/
def sign : List Char := '@' :: keyword "Property"

theorem sign_ne_nil : sign ≠ [] := List.cons_ne_nil _ _

variable (p : Property)

/-- The arguments of the annotation. -/
def arguments : List Char := keyword "label = " ++ p.label.text

/-- The arguments with the label blanked out. -/
def bareArguments : List Char := keyword "label = " ++ p.label.bare

/-- The declaration of the field, from behind the annotation up to the semicolon. -/
def declaration : List Char :=
  p.afterLabel.chars ++ (p.modifiers.flatMap FieldModifier.text ++ (p.type ++ (p.afterType.chars ++
    (p.name ++ (p.afterName.chars ++ [';'])))))

/-- What stands behind the sign, with arguments of the annotation. -/
def behindSign (arguments : List Char) : List Char :=
  '(' :: (arguments ++ ')' :: (p.declaration ++ p.last.chars))

/-- The property as it is written. -/
def text : List Char := sign ++ p.behindSign p.arguments

/-- The property as the bare copy shows it. -/
def bare : List Char := sign ++ p.behindSign p.bareArguments

/-- The use of the annotation that starts at an offset. -/
def use (offset : Nat) : Annotation where
  arguments := p.arguments
  start := offset
  stop := offset + (sign.length + (p.arguments.length + 2))

/-- The field that is declared behind the text `written`. -/
def field (written : List Char) : AnnotatedField where
  name := String.ofList p.name
  type := String.ofList p.type
  arguments := String.ofList p.arguments
  line := written.count '\n' + 1

end Property

/-- The uses of the annotation in properties one after another, the first of which starts at an offset. -/
def usesFrom (offset : Nat) : List Property → List Annotation
  | [] => []
  | p :: ps => p.use offset :: usesFrom (offset + p.text.length) ps

/-- The fields that properties one after another declare behind the text `written`. -/
def fieldsBehind (written : List Char) : List Property → List AnnotatedField
  | [] => []
  | p :: ps => p.field written :: fieldsBehind (written ++ p.text) ps

/-! ## Characters of a property -/

/-- A character that stands outside the label, behind the sign. -/
def isOfProperty (c : Char) : Bool := isIdent c || isBlank c || "()=;".toList.contains c

theorem isInert_of_isOfProperty {c : Char} (h : isOfProperty c = true) : IsInert c := by
  refine ⟨?_, ?_⟩
  · rintro rfl
    exact absurd h (by decide)
  · rintro (rfl | rfl) <;> exact absurd h (by decide)

theorem isPlain_of_mem {c : Char} (h : c ∈ ['@', '.', '(', ')']) : IsPlain c := by
  simp only [List.mem_cons, List.not_mem_nil, or_false] at h
  rcases h with rfl | rfl | rfl | rfl <;> unfold IsPlain IsQuote <;> decide

/-! ## Reading a declaration -/

section Reading

variable {y : List Char}

/-- A word of a list is read if no other word of the list stands there. -/
theorem reads_oneOf_words {ws : List String} {w : String} (mem : w ∈ ws)
    (only : ∀ v ∈ ws, v.toList <+: w.toList ++ y → v = w) :
    (Pattern.oneOf (ws.map .word)).Reads w.toList y [] := by
  induction ws with
  | nil => cases mem
  | cons v ws ih =>
    cases ws with
    | nil =>
      obtain rfl := List.mem_singleton.1 mem
      exact Pattern.reads_text _ _
    | cons v' ws =>
      intro s after
      by_cases same : v = w
      · obtain rfl := same
        exact (Pattern.reads_text v.toList y s after).either_left
      · have rest := ih ((List.mem_cons.1 mem).resolve_left (Ne.symm same)) fun u hu =>
          only u (List.mem_cons_of_mem _ hu)
        refine (rest s after).either_right (Pattern.ends_eq_nil ?_)
        rintro u z split rfl
        exact same (only v List.mem_cons_self ⟨z, by rw [← split, after]⟩)

/-- Where blanks stand before a character, no other character stands behind blanks. -/
theorem ends_gap_exactly {c d : Char} {ps : List Pattern} {s : Place} {g z : List Char}
    (after : s.after = g ++ d :: z) (blank : ∀ e ∈ g, isBlank e = true) (solid : isBlank d = false)
    (other : d ≠ c) (visible : isBlank c = false) :
    (Pattern.sequence (.gap :: .exactly c :: ps)).ends s = [] := by
  refine Pattern.ends_eq_nil fun w y split fit => ?_
  simp only [Pattern.fits_sequence_cons, Pattern.fits_gap, Pattern.fits_exactly] at fit
  obtain ⟨g', _, rfl, blank', _, v, rfl, rfl, -⟩ := fit
  have dropped := congrArg (List.dropWhile isBlank) (after.symm.trans split)
  rw [List.append_assoc, List.dropWhile_append_of_pos blank, List.dropWhile_append_of_pos blank'] at dropped
  simp only [List.cons_append, List.nil_append, List.dropWhile_cons, solid, visible, Bool.false_eq_true,
    if_false] at dropped
  exact other (List.cons.inj dropped).1

/-- A word is cut off in front of a blank in one way only. -/
theorem word_inj {u u' g g' y y' : List Char} (each : ∀ c ∈ u, isIdent c = true)
    (each' : ∀ c ∈ u', isIdent c = true) (gap : IsRun isBlank g) (gap' : IsRun isBlank g')
    (h : u ++ (g ++ y) = u' ++ (g' ++ y')) : u = u' := by
  have cut {u g y : List Char} (each : ∀ c ∈ u, isIdent c = true) (gap : IsRun isBlank g) :
      (u ++ (g ++ y)).takeWhile isIdent = u := by
    obtain ⟨b, g, rfl⟩ := List.exists_cons_of_ne_nil gap.nonempty
    have blank : isIdent b = false := isIdent_of_isBlank (gap.each b List.mem_cons_self)
    rw [List.takeWhile_append_of_pos each, List.cons_append, List.takeWhile_cons_of_neg (by simp [blank]),
      List.append_nil]
  rw [← cut each gap, h, cut each' gap']

theorem isIdent_of_mem_fieldModifiers {w : String} (h : w ∈ fieldModifiers) :
    ∀ c ∈ w.toList, isIdent c = true := by
  have each : fieldModifiers.all (·.toList.all isIdent) = true := by decide
  exact List.all_eq_true.1 (List.all_eq_true.1 each w h)

/-- None of the words begins another one. -/
theorem eq_of_prefix_modifier {v w : String} {g : List Char} (hv : v ∈ fieldModifiers)
    (hw : w ∈ fieldModifiers) (gap : IsRun isBlank g) (h : v.toList <+: w.toList ++ (g ++ y)) : v = w := by
  have apart : ∀ w ∈ fieldModifiers, ∀ v ∈ fieldModifiers, v.toList <+: w.toList → v = w := by decide
  obtain ⟨t, split⟩ := h
  rcases List.append_eq_append_iff.1 split with ⟨a, front, -⟩ | ⟨a, longer, rest⟩
  · exact apart w hw v hv ⟨a, front.symm⟩
  · cases a with
    | nil =>
      rw [List.append_nil] at longer
      exact String.toList_inj.1 longer
    | cons c a =>
      obtain ⟨b, g, rfl⟩ := List.exists_cons_of_ne_nil gap.nonempty
      obtain rfl : b = c := (List.cons.inj rest).1
      have ident : isIdent b = true := isIdent_of_mem_fieldModifiers hv b (by simp [longer])
      rw [isIdent_of_isBlank (gap.each b List.mem_cons_self)] at ident
      cases ident

theorem reads_fieldModifier (m : FieldModifier) (stop : headIs isBlank y = false) :
    fieldModifier.Reads m.text y [] := by
  have word : (Pattern.oneOf (fieldModifiers.map .word)).Reads m.word.toList (m.after.chars ++ y) [] :=
    reads_oneOf_words m.mem fun v hv => eq_of_prefix_modifier hv m.mem m.after.run
  exact word.seq (Pattern.reads_many m.after.run stop)

theorem headIs_word {w : List Char} (run : IsRun isIdent w) (y : List Char) :
    headIs isIdent (w ++ y) = true := by
  obtain ⟨c, w, rfl⟩ := List.exists_cons_of_ne_nil run.nonempty
  exact run.each c List.mem_cons_self

theorem headIs_isBlank_of_isIdent {s : List Char} (h : headIs isIdent s = true) :
    headIs isBlank s = false := by
  cases s with
  | nil => rfl
  | cons c s => exact isBlank_of_isIdent (c := c) h

/-- A word is no annotation. -/
theorem ends_furtherAnnotation {s : Place} (h : headIs isIdent s.after = true) :
    furtherAnnotation.ends s = [] := by
  refine Pattern.ends_eq_nil fun w z split fit => ?_
  obtain ⟨_, _, rfl, sign, -⟩ := fit
  obtain rfl := Pattern.fits_exactly.1 sign
  rw [split] at h
  have ident : isIdent '@' = true := h
  exact absurd ident (by decide)

theorem FieldModifier.run (m : FieldModifier) : IsRun isIdent m.word.toList := by
  refine ⟨?_, isIdent_of_mem_fieldModifiers m.mem⟩
  have nonempty : ∀ w ∈ fieldModifiers, w.toList ≠ [] := by decide
  exact nonempty m.word m.mem

theorem headIs_fieldModifiers (ms : List FieldModifier) (h : headIs isIdent y = true) :
    headIs isIdent (ms.flatMap FieldModifier.text ++ y) = true := by
  cases ms with
  | nil => exact h
  | cons m ms =>
    rw [List.flatMap_cons, FieldModifier.text, List.append_assoc, List.append_assoc]
    exact headIs_word m.run _

/-- The words before the type are read up to the type. -/
theorem reads_fieldModifiers (ms : List FieldModifier) (type : headIs isIdent y = true)
    (none : ∀ s : Place, s.after = y → fieldModifier.ends s = []) :
    (Pattern.star fieldModifier).Reads (ms.flatMap FieldModifier.text) y [] := by
  induction ms with
  | nil => exact Pattern.Reads.star_nil none
  | cons m ms ih =>
    have nonempty : m.text ≠ [] := fun empty => m.run.nonempty (List.append_eq_nil_iff.1 empty).1
    have solid := headIs_isBlank_of_isIdent (headIs_fieldModifiers ms type)
    exact Pattern.Reads.star_cons nonempty (reads_fieldModifier m solid) ih

/-- A type is no word before the type. -/
theorem ends_fieldModifier_type {s : Place} {type : List Char} {space : Space}
    (run : IsRun isIdent type) (not : type ∉ fieldModifiers.map String.toList)
    (after : s.after = type ++ (space.chars ++ y)) : fieldModifier.ends s = [] := by
  refine Pattern.ends_eq_nil fun w z split fit => ?_
  obtain ⟨u, v, rfl, word, blanks⟩ := fit
  change (Pattern.oneOf (fieldModifiers.map .word)).Fits _ _ _ at word
  obtain ⟨_, mem, fit⟩ := Pattern.fits_oneOf.1 word
  obtain ⟨m, hm, rfl⟩ := List.mem_map.1 mem
  obtain rfl := Pattern.fits_word.1 fit
  rw [after, List.append_assoc] at split
  have same := word_inj run.each (isIdent_of_mem_fieldModifiers hm) space.run (Pattern.fits_blanks.1 blanks)
    split
  exact not (same ▸ List.mem_map_of_mem hm)

/-- A type of one word is read up to the blanks behind it. -/
theorem reads_type {type name z : List Char} (space : Space) (run : IsRun isIdent type)
    (named : IsRun isIdent name) (behind : y = space.chars ++ (name ++ z)) :
    (Pattern.sequence [
      .many isDotted,
      .optional (.sequence [
        .gap, .exactly '<', .most (fun c => c != ';' && c != '='), .exactly '>']),
      arrayMarks]).Reads type y [] := by
  have dotted : IsRun isDotted type := ⟨run.nonempty, fun c hc => by simp [isDotted, run.each c hc]⟩
  obtain ⟨d, rest, rfl⟩ := List.exists_cons_of_ne_nil named.nonempty
  have ident : isIdent d = true := named.each d List.mem_cons_self
  have other {c : Char} (no : isIdent c = false) : d ≠ c := by
    rintro rfl
    rw [ident] at no
    cases no
  -- The first character behind the blanks opens neither type arguments nor brackets.
  have none {c : Char} {ps : List Pattern} {s : Place} (no : isIdent c = false) (visible : isBlank c = false)
      (after : s.after = y) : (Pattern.sequence (.gap :: .exactly c :: ps)).ends s = [] :=
    ends_gap_exactly (after.trans behind) space.blank (isBlank_of_isIdent ident) (other no) visible
  have stop : headIs isDotted y = false := by
    rw [behind]
    exact headIs_run space.nonempty (fun c hc => isDotted_of_isBlank (space.blank c hc)) _
  have noArguments : (Pattern.optional (.sequence [
      .gap, .exactly '<', .most (fun c => c != ';' && c != '='), .exactly '>'])).Reads [] y [] :=
    fun s after => (Pattern.takes_nothing s).either_right (none (by decide) rfl after)
  have noBrackets : arrayMarks.Reads [] y [] :=
    Pattern.Reads.star_nil fun s after => none (by decide) rfl after
  have nothing := noArguments.cons (v := []) (noBrackets.cons (v := []) (Pattern.reads_sequence_nil y))
  have parts := (Pattern.reads_many dotted stop).cons (v := []) nothing
  simpa using parts

namespace Property

variable (p : Property)

/-- The declaration is read up to the semicolon, and its type and its name are kept. -/
theorem reads_declaration (y : List Char) :
    fieldDeclaration.Reads p.declaration y [(2, p.name), (1, p.type)] := by
  have ending : (Pattern.sequence [.gap, .char fun c => c == ';' || c == '=']).Reads
      (p.afterName.chars ++ [';']) y [] :=
    (Pattern.reads_most p.afterName.blank rfl).cons <|
    (Pattern.reads_char rfl y).cons (v := []) <|
    Pattern.reads_sequence_nil y
  have stop : headIs isIdent (p.afterName.chars ++ [';'] ++ y) = false := by
    rw [List.append_assoc]
    exact headIs_append p.afterName.blank (fun _ => isIdent_of_isBlank) rfl
  -- From the semicolon back, each part is read in front of the parts behind it.
  have named := ((Pattern.reads_many p.name_run stop).capture (k := 2)).cons ending
  have spaced := (Pattern.reads_many p.afterType.run (by
    rw [List.append_assoc]
    exact headIs_isBlank_of_isIdent (headIs_word p.name_run _))).cons named
  have typed := ((reads_type p.afterType p.type_run p.name_run (by
    simp only [List.append_assoc]
    rfl)).capture (k := 1)).cons spaced
  have modified := (reads_fieldModifiers p.modifiers (by
    rw [List.append_assoc]
    exact headIs_word p.type_run _) fun s after =>
      ends_fieldModifier_type p.type_run p.type_not (by
        rw [after]
        simp only [List.append_assoc]
        rfl)).cons typed
  have first (z : List Char) :
      headIs isIdent (p.modifiers.flatMap FieldModifier.text ++ (p.type ++ z)) = true :=
    headIs_fieldModifiers p.modifiers (headIs_word p.type_run z)
  have plain := (Pattern.Reads.star_nil fun s after =>
    ends_furtherAnnotation (by
      rw [after, List.append_assoc, List.append_assoc]
      exact first _)).cons (v := _) modified
  have parts := (Pattern.reads_most p.afterLabel.blank (by
    rw [List.nil_append, List.append_assoc, List.append_assoc]
    exact headIs_isBlank_of_isIdent (first _))).cons plain
  simpa [declaration, fieldDeclaration, Pattern.blanks, Pattern.gap] using parts

theorem declaration_each : ∀ c ∈ p.declaration, isOfProperty c = true := by
  have blank {c : Char} (h : isBlank c = true) : isOfProperty c = true := by simp [isOfProperty, h]
  have ident {c : Char} (h : isIdent c = true) : isOfProperty c = true := by simp [isOfProperty, h]
  have words : ∀ c ∈ p.modifiers.flatMap FieldModifier.text, isOfProperty c = true := by
    intro c mem
    obtain ⟨m, -, mem⟩ := List.mem_flatMap.1 mem
    rcases List.mem_append.1 mem with word | space
    · exact ident (m.run.each c word)
    · exact blank (m.after.blank c space)
  simp only [declaration, List.forall_mem_append, List.forall_mem_singleton]
  exact ⟨fun c h => blank (p.afterLabel.blank c h), words, fun c h => ident (p.type_run.each c h),
    fun c h => blank (p.afterType.blank c h), fun c h => ident (p.name_run.each c h),
    fun c h => blank (p.afterName.blank c h), by decide⟩

theorem ending_each : ∀ c ∈ ')' :: (p.declaration ++ p.last.chars), isOfProperty c = true := by
  refine List.forall_mem_cons.2 ⟨by decide, List.forall_mem_append.2 ⟨p.declaration_each, fun c h => ?_⟩⟩
  simp [isOfProperty, p.last.blank c h]

theorem copied : Copied p.text p.text p.bare := by
  have inert : (sign ++ '(' :: keyword "label = ").all (fun c => decide (IsInert c)) = true := by decide
  have front := copied_of_isInert fun c hc => of_decide_eq_true (List.all_eq_true.1 inert c hc)
  have parts := front.append
    (p.label.copied (List.cons_ne_nil _ _) fun c h => isInert_of_isOfProperty (p.ending_each c h))
  simpa only [text, bare, behindSign, arguments, bareArguments, List.append_assoc,
    List.cons_append] using parts

theorem not_mem_bareArguments {c : Char} (plain : IsPlain c) (word : c ∉ keyword "label = ") :
    c ∉ p.bareArguments := by
  have quote : c ≠ '"' := fun same => plain.2.2 (.inl same)
  simp only [bareArguments, Literal.bare, List.mem_append, List.mem_cons, List.not_mem_nil, word,
    quote, not_mem_blank plain, or_self, not_false_eq_true]

theorem not_mem_behindSign {c : Char} (plain : IsPlain c) (other : isOfProperty c = false) :
    c ∉ p.behindSign p.bareArguments := by
  have not {w : List Char} (each : ∀ d ∈ w, isOfProperty d = true) : c ∉ w := fun mem =>
    absurd (each c mem) (by simp [other])
  have arguments := p.not_mem_bareArguments plain (not (List.all_eq_true.1 (by decide)))
  have opening : c ∉ ['('] := not (List.forall_mem_singleton.2 (by decide))
  simpa [behindSign, arguments] using And.intro opening (not p.ending_each)

/-! ## Uses of the annotation -/

theorem takes_sign {s : Place} {z : List Char} (after : s.after = sign ++ '(' :: z) :
    (annotationName "Property").Takes s sign [] := by
  have stop : (Pattern.notBefore isDotted).Reads [] ('(' :: z) [] := fun s after =>
    Pattern.takes_between _ (by rw [after]; rfl)
  have parts :=
    (Pattern.reads_exactly '@' _).cons <|
    (Pattern.reads_text (keyword "Property") _).cons <|
    stop.cons (v := []) <|
    Pattern.reads_sequence_nil ('(' :: z)
  rw [List.append_nil, List.append_nil] at parts
  exact parts s after

theorem length_bareArguments : p.bareArguments.length = p.arguments.length := by
  simp [bareArguments, arguments, Literal.bare, Literal.text, blank]

/-- The arguments of a use are cut out of the copy that has its literals. -/
theorem annotationAt?_sign {s : Source} {m : Match} {w z z' : List Char}
    (start : m.start.offset = w.length) (stop : m.stop.offset = w.length + sign.length)
    (after : m.stop.after = p.behindSign p.bareArguments ++ z)
    (code : s.code = w ++ (p.text ++ z')) : s.annotationAt? m = some (p.use w.length) := by
  replace after : m.stop.after =
      ['('] ++ (p.bareArguments ++ ')' :: (p.declaration ++ p.last.chars ++ z)) := by
    simp only [after, behindSign, List.append_assoc, List.cons_append, List.nil_append]
  have opens (y : List Char) : openParenthesis.Reads ['('] y [] :=
    (Pattern.reads_most (w := []) (List.forall_mem_nil _) rfl).seq (Pattern.reads_exactly '(' y)
  obtain ⟨paren, found, first, way, -⟩ := (opens _ (.start m.stop.after) after).matchAt?
  have length : paren.length = 1 := by
    rw [Match.length, first, way.offset]
    rfl
  have rest : paren.stop.after = p.bareArguments ++ ')' :: (p.declaration ++ p.last.chars ++ z) :=
    way.after_eq after
  have closes : closing? '(' ')' 1 paren.stop.after = some p.arguments.length := by
    refine (closing?_one_eq_some_iff (by decide)).2 ⟨_, _, rest, p.length_bareArguments, ?_⟩
    exact balanced_of_notMem (p.not_mem_bareArguments (isPlain_of_mem (by decide)) (by decide))
      (p.not_mem_bareArguments (isPlain_of_mem (by decide)) (by decide))
  have cut : slice s.code (w.length + sign.length + 1) (w.length + sign.length + 1 + p.arguments.length) =
      p.arguments := by
    have split : s.code = (w ++ sign ++ ['(']) ++ p.arguments ++
        (')' :: (p.declaration ++ p.last.chars ++ z')) := by
      simp only [code, text, behindSign, List.append_assoc, List.cons_append, List.nil_append]
    have front : (w ++ sign ++ ['(']).length = w.length + sign.length + 1 := by
      simp only [List.length_append, List.length_singleton]
    rw [split, ← front]
    exact slice_append _ _ _
  rw [Source.annotationAt?, show openParenthesis.prefixMatch? m.stop.after = some paren from found]
  simp only [closes, Option.map_some, stop, length, start, cut, use]
  congr 2
  omega

end Property

end Reading

/-! ## Properties one after another -/

theorem head_of_fits_annotationName {name : String} {before w after : List Char}
    (h : (annotationName name).Fits before w after) : w.head? = some '@' := by
  obtain ⟨_, _, rfl, sign, -⟩ := h
  rw [Pattern.fits_exactly.1 sign]
  rfl

theorem findFrom_annotationName_eq_nil {name : String} {before after : List Char} {offset : Nat}
    (none : '@' ∉ after) : (annotationName name).findFrom before offset 0 after = [] := by
  refine Pattern.findFrom_eq_nil fun x w y split fit => none ?_
  obtain ⟨w, rfl⟩ := List.head?_eq_some_iff.1 (head_of_fits_annotationName fit)
  rw [split]
  simp

variable {s : Source} {written hidden rest : List Char}

/-- The annotation is found at each property, and the search goes on behind it. -/
theorem Property.exists_found (p : Property) (before z : List Char) (offset : Nat) :
    ∃ m : Match, m.start.offset = offset ∧ m.stop.offset = offset + sign.length ∧
      m.stop.after = p.behindSign p.bareArguments ++ z ∧
      (annotationName "Property").findFrom before offset 0 (p.bare ++ z) =
        m :: (annotationName "Property").findFrom (p.bare.reverse ++ before) (offset + p.bare.length) 0 z := by
  have split : p.bare ++ z = sign ++ (p.behindSign p.bareArguments ++ z) := List.append_assoc ..
  obtain ⟨m, found, first, way, -⟩ :=
    (takes_sign (s := ⟨before, sign ++ (p.behindSign p.bareArguments ++ z), offset, []⟩) rfl).matchAt?
  have start : m.start.offset = offset := by rw [first]
  have stop : m.stop.offset = offset + sign.length := way.offset
  refine ⟨m, start, stop, way.after_eq rfl, ?_⟩
  have none : '@' ∉ p.behindSign p.bareArguments :=
    p.not_mem_behindSign (isPlain_of_mem (by decide)) (by decide)
  have length : m.length = sign.length := by rw [Match.length, start, stop, Nat.add_sub_cancel_left]
  rw [split, Pattern.findFrom_hit sign_ne_nil found length,
    Pattern.findFrom_skip (Pattern.passes_of_head head_of_fits_annotationName none)]
  simp only [bare, List.reverse_append, List.append_assoc, List.length_append, Nat.add_assoc]

theorem filterMap_findFrom_sign (ps : List Property)
    (code : s.code = written ++ (ps.flatMap Property.text ++ rest)) (length : hidden.length = written.length)
    (none : '@' ∉ rest) :
    ((annotationName "Property").findFrom hidden.reverse hidden.length 0
      (ps.flatMap Property.bare ++ rest)).filterMap s.annotationAt? = usesFrom written.length ps := by
  induction ps generalizing written hidden with
  | nil =>
    rw [List.flatMap_nil, List.nil_append, findFrom_annotationName_eq_nil none]
    rfl
  | cons p ps ih =>
    rw [List.flatMap_cons, List.append_assoc] at code ⊢
    obtain ⟨m, start, stop, after, found⟩ :=
      p.exists_found hidden.reverse (ps.flatMap Property.bare ++ rest) hidden.length
    rw [length] at start stop
    have code' : s.code = (written ++ p.text) ++ (ps.flatMap Property.text ++ rest) := by
      rw [code, List.append_assoc]
    have length' : (hidden ++ p.bare).length = (written ++ p.text).length := by
      rw [List.length_append, List.length_append, length, p.copied.length_bare]
    have next := ih code' length'
    rw [List.reverse_append, List.length_append, List.length_append] at next
    rw [found, List.filterMap_cons, p.annotationAt?_sign start stop after code, usesFrom, next]

/-- Behind a use the declaration is read. -/
theorem Property.exists_declaration (p : Property) {z : List Char}
    (bare : s.bare = hidden ++ (p.bare ++ z)) (length : hidden.length = written.length) :
    ∃ m, fieldDeclaration.prefixMatch? (s.bare.drop (p.use written.length).stop) = some m ∧
      m.capture 1 = p.type ∧ m.capture 2 = p.name := by
  have split : s.bare = (hidden ++ sign ++ '(' :: p.bareArguments ++ [')']) ++
      (p.declaration ++ (p.last.chars ++ z)) := by
    simp only [bare, Property.bare, behindSign, List.append_assoc, List.cons_append, List.nil_append]
  have stop : (p.use written.length).stop = (hidden ++ sign ++ '(' :: p.bareArguments ++ [')']).length := by
    simp only [use, List.length_append, List.length_cons, List.length_nil, length, p.length_bareArguments]
    omega
  have behind : s.bare.drop (p.use written.length).stop = p.declaration ++ (p.last.chars ++ z) := by
    rw [split, stop, List.drop_left]
  obtain ⟨m, found, -, -, captures⟩ := (p.reads_declaration (p.last.chars ++ z)
    (.start (p.declaration ++ (p.last.chars ++ z))) rfl).matchAt?
  refine ⟨m, behind ▸ found, ?_, ?_⟩
  · rw [Match.capture, Place.capture, captures]
    rfl
  · rw [Match.capture, Place.capture, captures]
    rfl

theorem filterMap_usesFrom (ps : List Property)
    (text : s.text = written ++ (ps.flatMap Property.text ++ rest))
    (bare : s.bare = hidden ++ (ps.flatMap Property.bare ++ rest)) (length : hidden.length = written.length) :
    (usesFrom written.length ps).filterMap (fun use =>
      (fieldDeclaration.prefixMatch? (s.bare.drop use.stop)).map fun m => ({
        name := String.ofList (m.capture 2)
        type := String.ofList (m.capture 1)
        arguments := String.ofList use.arguments
        line := s.lineOf use.start } : AnnotatedField)) = fieldsBehind written ps := by
  induction ps generalizing written hidden with
  | nil => rfl
  | cons p ps ih =>
    rw [List.flatMap_cons, List.append_assoc] at text bare
    obtain ⟨m, found, type, name⟩ := p.exists_declaration bare length
    have line : s.lineOf (p.use written.length).start = written.count '\n' + 1 := by
      rw [Source.lineOf, lineNumber, text, Property.use, List.take_left]
    have length' : (hidden ++ p.bare).length = (written ++ p.text).length := by
      rw [List.length_append, List.length_append, length, p.copied.length_bare]
    have text' : s.text = (written ++ p.text) ++ (ps.flatMap Property.text ++ rest) := by
      rw [text, List.append_assoc]
    have bare' : s.bare = (hidden ++ p.bare) ++ (ps.flatMap Property.bare ++ rest) := by
      rw [bare, List.append_assoc]
    have next := ih text' bare' length'
    rw [List.length_append] at next
    rw [usesFrom, List.filterMap_cons, found, next]
    simp only [Option.map_some, type, name, line]
    rfl

/-! ## Classes of properties -/

/-- A character that opens no comment and no literal, and is neither a dot nor the sign of an annotation. -/
def isOutside (c : Char) : Bool := decide (IsInert c) && c != '@' && c != '.'

theorem isInert_of_isOutside {c : Char} (h : isOutside c = true) : IsInert c := by
  simp only [isOutside, Bool.and_eq_true, decide_eq_true_eq] at h
  exact h.1.1

/-- A class that declares properties one after another. -/
structure PropertyClass where
  opening : List Char
  properties : List Property
  closing : List Char
  opening_each : ∀ c ∈ opening, isOutside c = true
  closing_each : ∀ c ∈ closing, isOutside c = true

namespace PropertyClass

variable (c : PropertyClass)

/-- The class as it is written. -/
def text : List Char := c.opening ++ (c.properties.flatMap Property.text ++ c.closing)

/-- The class as the bare copy shows it. -/
def bare : List Char := c.opening ++ (c.properties.flatMap Property.bare ++ c.closing)

theorem copied : Copied c.text c.text c.bare := by
  have properties : Copied (c.properties.flatMap Property.text) (c.properties.flatMap Property.text)
      (c.properties.flatMap Property.bare) := by
    induction c.properties with
    | nil => exact copied_of_isInert (List.forall_mem_nil _)
    | cons p ps ih => exact p.copied.append ih
  exact (copied_of_isInert fun d h => isInert_of_isOutside (c.opening_each d h)).append
    (properties.append (copied_of_isInert fun d h => isInert_of_isOutside (c.closing_each d h)))

theorem dot_not_mem_bare : '.' ∉ c.bare := by
  have outside (w : List Char) (each : ∀ d ∈ w, isOutside d = true) : '.' ∉ w := fun mem =>
    absurd (each '.' mem) (by decide)
  have inside : '.' ∉ c.properties.flatMap Property.bare := by
    intro mem
    obtain ⟨p, -, mem⟩ := List.mem_flatMap.1 mem
    rcases List.mem_append.1 mem with sign | behind
    · exact absurd sign (by decide)
    · exact p.not_mem_behindSign (isPlain_of_mem (by decide)) (by decide) behind
  simp only [bare, List.mem_append, not_or]
  exact ⟨outside _ c.opening_each, inside, outside _ c.closing_each⟩

variable {c}

theorem code_eq (h : s.text = c.text) : s.code = c.text := by
  rw [Source.code_eq, h, c.copied.codeOf_eq]

theorem bare_eq (h : s.text = c.text) : s.bare = c.bare := by
  rw [Source.bare_eq, h, c.copied.bareOf_eq]

/-- The uses of the annotation are those of the properties, in order. -/
theorem annotations_eq (h : s.text = c.text) :
    s.annotations "Property" = usesFrom c.opening.length c.properties := by
  have none : '@' ∉ c.opening := fun mem => absurd (c.opening_each '@' mem) (by decide)
  have none' : '@' ∉ c.closing := fun mem => absurd (c.closing_each '@' mem) (by decide)
  rw [Source.annotations, Pattern.findAll, bare_eq h, bare,
    Pattern.findFrom_skip (Pattern.passes_of_head head_of_fits_annotationName none)]
  simp only [List.append_nil, Nat.zero_add]
  exact filterMap_findFrom_sign c.properties (code_eq h) rfl none'

/-- The fields that carry the annotation are those of the properties, in order. -/
theorem annotatedFields_eq (h : s.text = c.text) :
    s.annotatedFields "Property" = fieldsBehind c.opening c.properties := by
  rw [Source.annotatedFields, annotations_eq h]
  exact filterMap_usesFrom c.properties h (bare_eq h) rfl

end PropertyClass

end ModuleAudit.Java
