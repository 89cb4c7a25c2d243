import Mathlib.Data.List.TakeWhile
import ModuleAudit.Proofs.Java.Constants
import ModuleAudit.Proofs.Java.Found

/-!
# Returned strings are resolved

A `Return` is a body that does nothing but return a literal or a name. Whatever stands in the
literal, the body is found to return it, and a name is looked up among the string constants of the
file (`returnedString_eq`). So a method that has such a body resolves to the literal, or to the value of
the constant with the name (`returnedString_of_firstIn`), but none resolves under a name that starts
with a dollar sign (`returnedString_dollar`).
-/

namespace ModuleAudit.Java

open ModuleAudit.Text (isBlank isIdent isWord)
open ModuleAudit.Pattern (headIs)

/-! ## Bodies that return -/

/-- What a method returns. -/
inductive Returned
  | literal (l : Literal)
  | name (k : List Char) (run : IsRun isIdent k)

namespace Returned

/-- The value as it is written. -/
def text : Returned → List Char
  | literal l => l.text
  | name k _ => k

/-- The value as the bare copy shows it. -/
def bare : Returned → List Char
  | literal l => l.bare
  | name k _ => k

theorem copied (v : Returned) {s : List Char} (nonempty : s ≠ []) (inert : ∀ c ∈ s, IsInert c) :
    Copied (v.text ++ s) (v.text ++ s) (v.bare ++ s) := by
  cases v with
  | literal l => exact l.copied nonempty inert
  | name k run =>
    refine copied_of_isInert (List.forall_mem_append.2 ⟨fun c hc => ?_, inert⟩)
    exact isInert_of_isOfOpening (isOfOpening_of_isIdent (run.each c hc))

end Returned

/-- A body that does nothing but return. -/
structure Return where
  lead : Blanks
  gap : Space
  value : Returned
  afterValue : Blanks
  last : Blanks

namespace Return

variable (r : Return)

/-- The word and the value, up to the end of the statement. -/
def statement (value : List Char) : List Char :=
  keyword "return" ++ (r.gap.chars ++ (value ++ (r.afterValue.chars ++ [';'])))

/-- The body with a value. -/
def withValue (value : List Char) : List Char := r.lead.chars ++ (r.statement value ++ r.last.chars)

/-- The body as it is written. -/
def text : List Char := r.withValue r.value.text

/-- The body as the bare copy shows it. -/
def bare : List Char := r.withValue r.value.bare

theorem copied : Copied r.text r.text r.bare := by
  have gap (b : Blanks) : ∀ c ∈ b.chars, IsInert c := fun c hc =>
    isInert_of_isOfOpening (b.isOfOpening c hc)
  have word : ∀ c ∈ keyword "return", IsInert c := fun c hc =>
    isInert_of_isOfOpening (isOfOpening_of_keyword (by decide) c hc)
  have front := copied_of_isInert (s := r.lead.chars ++ (keyword "return" ++ r.gap.chars)) <| by
    simp only [List.forall_mem_append]
    exact ⟨gap _, word, gap _⟩
  have value := r.value.copied (s := r.afterValue.chars ++ ([';'] ++ r.last.chars)) (by simp) <| by
    simp only [List.forall_mem_append, List.forall_mem_singleton]
    exact ⟨gap _, by decide, gap _⟩
  simpa [text, bare, withValue, statement] using front.append value

/-- The bare copy holds no parenthesis and no brace. -/
theorem not_mem_bare {c : Char} (hc : c ∈ ['(', '\x7b', '\x7d']) : c ∉ r.bare := by
  have plain : IsPlain c ∧ isOfOpening c = false ∧ c ≠ ';' := by
    simp only [List.mem_cons, List.not_mem_nil, or_false] at hc
    rcases hc with rfl | rfl | rfl <;> unfold IsPlain IsQuote <;> decide
  obtain ⟨plain, other, semicolon⟩ := plain
  have not {s : List Char} (each : ∀ d ∈ s, isOfOpening d = true) : c ∉ s := fun h =>
    absurd (each c h) (by simp [other])
  have gap (b : Blanks) : c ∉ b.chars := not b.isOfOpening
  have word : c ∉ keyword "return" := not (isOfOpening_of_keyword (by decide))
  have value : c ∉ r.value.bare := by
    cases r.value with
    | literal l =>
      have quote : c ≠ '"' := fun same => plain.2.2 (.inl same)
      simp [Returned.bare, Literal.bare, quote, not_mem_blank plain]
    | name k run => exact not fun d hd => isOfOpening_of_isIdent (run.each d hd)
  simp only [bare, withValue, statement, List.mem_append, List.mem_singleton, not_or]
  exact ⟨gap _, ⟨word, gap _, value, gap _, semicolon⟩, gap _⟩

theorem isClosed : IsClosed r.text := by
  have brace : bareOf ['\x7d'] = ['\x7d'] := by decide +kernel
  rw [IsClosed, r.copied.bare, brace, List.getLast?_concat]

end Return

/-- The declaration with a body that does nothing but return. -/
def Declaration.returning (d : Declaration) (r : Return) : Declaration :=
  { d with
    body := r.text
    body_calls := r.copied.bareOf_eq ▸ r.not_mem_bare (by decide)
    body_balanced := r.copied.bareOf_eq ▸
      balanced_of_notMem (r.not_mem_bare (by decide)) (r.not_mem_bare (by decide))
    body_closed := r.isClosed }

/-! ## Reading the value -/

/-- What is returned stands behind the word, which starts it. -/
theorem head_of_fits_return {ps : List Pattern} {before w after : List Char}
    (h : (Pattern.sequence (.edge :: .word "return" :: ps)).Fits before w after) :
    w.head? = some 'r' := by
  simp only [Pattern.fits_sequence_cons, Pattern.fits_edge, Pattern.fits_word] at h
  obtain ⟨_, _, rfl, ⟨rfl, -⟩, _, _, rfl, rfl, -⟩ := h
  rfl

namespace Return

variable (r : Return)

/-- What returns the value of the body is found in it. -/
theorem search?_withValue {ps : List Pattern} {value : List Char} {kept : List (Nat × List Char)}
    (h : (Pattern.sequence (.word "return" :: ps)).Reads (r.statement value) r.last.chars kept) :
    ∃ m, (Pattern.sequence (.edge :: .word "return" :: ps)).search? (r.withValue value) = some m ∧
      m.stop.captures = kept := by
  have lead : 'r' ∉ r.lead.chars := r.lead.not_mem (by decide)
  have apart : headIs isWord r.lead.chars.reverse = false := by
    cases last : r.lead.chars.reverse with
    | nil => rfl
    | cons c rest =>
      have mem : c ∈ r.lead.chars := List.mem_reverse.1 (last ▸ List.mem_cons_self)
      exact isWord_of_isIdent (isIdent_of_isBlank (r.lead.blank c mem))
  exact Pattern.search?_of_passes (Pattern.passes_of_head head_of_fits_return lead)
    (h.after_edge rfl apart rfl)

theorem reads_literal (l : Literal) (y : List Char) :
    (Pattern.sequence [
      .word "return", .blanks, .exactly '"', .capture 1 Source.literalContent, .exactly '"',
      .gap, .exactly ';']).Reads (r.statement l.text) y [(1, l.content)] := by
  have parts :=
    (Pattern.reads_text (keyword "return") _).cons <|
    (Pattern.reads_many r.gap.run rfl).cons <|
    (Pattern.reads_exactly '"' _).cons <|
    ((reads_literalContent l.closed l.line _).capture (k := 1)).cons <|
    (Pattern.reads_exactly '"' _).cons <|
    (Pattern.reads_most r.afterValue.blank rfl).cons <|
    (Pattern.reads_exactly ';' _).cons <|
    Pattern.reads_sequence_nil y
  simpa [statement, keyword, Literal.text, Pattern.word, Pattern.blanks, Pattern.gap] using parts

theorem reads_name {k : List Char} (run : IsRun isIdent k) (y : List Char) :
    (Pattern.sequence [.word "return", .blanks, .capture 1 (.many isDotted), .gap, .exactly ';']).Reads
      (r.statement k) y [(1, k)] := by
  have dotted : IsRun isDotted k := ⟨run.nonempty, fun c hc => by simp [isDotted, run.each c hc]⟩
  have named : ∀ c ∈ k, isBlank c = false := fun c hc => isBlank_of_isIdent (run.each c hc)
  have parts :=
    (Pattern.reads_text (keyword "return") _).cons <|
    (Pattern.reads_many r.gap.run (by
      rw [List.append_assoc]
      exact headIs_run run.nonempty named _)).cons <|
    ((Pattern.reads_many dotted (by
      rw [List.append_assoc]
      exact headIs_append r.afterValue.blank (fun _ => isDotted_of_isBlank) rfl)).capture (k := 1)).cons <|
    (Pattern.reads_most r.afterValue.blank rfl).cons <|
    (Pattern.reads_exactly ';' _).cons <|
    Pattern.reads_sequence_nil y
  simpa [statement, keyword, Pattern.word, Pattern.blanks, Pattern.gap] using parts

/-- No literal is returned where no literal is. -/
theorem search?_literal_eq_none {k : List Char} (run : IsRun isIdent k) :
    Source.returnedLiteral.search? (r.withValue k) = none := by
  refine Pattern.search?_eq_none_iff.2 fun x w y split fit => ?_
  have quote : '"' ∈ r.withValue k := by
    simp only [Source.returnedLiteral, Pattern.fits_sequence_cons, Pattern.fits_edge, Pattern.fits_word,
      Pattern.fits_blanks, Pattern.fits_exactly] at fit
    obtain ⟨_, _, rfl, ⟨rfl, -⟩, _, _, rfl, rfl, g, _, rfl, -, _, _, rfl, rfl, -⟩ := fit
    rw [split]
    simp
  have gap (b : Blanks) : '"' ∉ b.chars := b.not_mem (by decide)
  have word : '"' ∉ keyword "return" := by decide
  have name : '"' ∉ k := run.not_mem (by decide)
  simp [withValue, statement, gap, word, name] at quote

end Return

/-- The string that a value stands for in a file: a literal stands for itself, and a name for a
constant. -/
def Returned.resolve (s : Source) : Returned → Option String
  | literal l => some (String.ofList l.content)
  | name k _ => s.stringConstants.lookup (String.ofList k)

theorem lastName_eq {k : List Char} (run : IsRun isIdent k) : Source.lastName k = k := by
  have each : ∀ c ∈ k.reverse, (c != '.') = true := by
    intro c hc
    rw [bne_iff_ne]
    rintro rfl
    exact absurd (run.each '.' (List.mem_reverse.1 hc)) (by decide)
  rw [Source.lastName, List.takeWhile_eq_self_iff.2 each, List.reverse_reverse]

/-- A method with a body that does nothing but return a value resolves to what the value stands for.
-/
theorem returnedString_eq {s : Source} {name : List Char} {r : Return}
    (body : (s.methods.find? fun m => m.name == name).map Method.body = some r.text) :
    s.returnedString (String.ofList name) = r.value.resolve s := by
  obtain ⟨m, found, body⟩ := Option.map_eq_some_iff.1 body
  have named : Source.isMethod (String.ofList name) none = fun m => m.name == name := by
    funext m
    simp [Source.isMethod]
  have method : s.method? (String.ofList name) = some m := by rw [Source.method?, named, found]
  rw [Source.returnedString, method, Option.bind_eq_bind, Option.bind_some, body, Return.text]
  cases r.value with
  | literal l =>
    obtain ⟨m, found, captures⟩ := r.search?_withValue (r.reads_literal l _)
    have search : Source.returnedLiteral.search? (r.withValue (Returned.literal l).text) = some m := found
    simp only [search, Match.capture, Place.capture, captures]
    rfl
  | name k run =>
    obtain ⟨m, found, captures⟩ := r.search?_withValue (r.reads_name run _)
    have search : Source.returnedName.search? (r.withValue (Returned.name k run).text) = some m := found
    have literal : Source.returnedLiteral.search? (r.withValue (Returned.name k run).text) = none :=
      r.search?_literal_eq_none run
    have capture : m.capture 1 = k := by
      rw [Match.capture, Place.capture, captures]
      rfl
    simp only [literal, search, Option.bind_eq_bind, Option.bind_some, capture, lastName_eq run]
    rfl

/-! ## Methods in a text -/

/-- A value stands for a literal in a text: it is the literal, or the name of the last constant of its
name, which has the literal as its value. -/
inductive StandsFor (text : List Char) : Returned → Literal → Prop
  | literal {l : Literal} : StandsFor text (.literal l) l
  | constant {c : Constant} {run : IsRun isIdent c.name} {pre post : List Char}
    (last : c.LastIn pre post text) : StandsFor text (.name c.name run) c.value

/-- A method resolves to the literal that the value of its body stands for. -/
theorem returnedString_of_firstIn {s : Source} {d : Declaration} {r : Return} {l : Literal}
    {pre post : List Char} (first : (d.returning r).FirstIn pre post s.text)
    (value : StandsFor s.text r.value l) :
    s.returnedString (String.ofList d.name.word) = some (String.ofList l.content) := by
  have body : (s.methods.find? fun m => m.name == d.name.word).map Method.body = some r.text := by
    have found : s.methods.find? (fun m => m.name == d.name.word) = some ((d.returning r).method pre) :=
      s.methods_eq ▸ first.find?
    rw [found, Option.map_some]
    exact congrArg some r.copied.codeOf_eq
  rw [returnedString_eq body]
  generalize r.value = v at value ⊢
  cases value with
  | literal => rfl
  | constant last => exact last.lookup

/-- A name that starts with a dollar sign resolves to nothing, but where it stands right behind a word.
-/
theorem returnedString_dollar {s : Source} {name : String} (dollar : name.toList.head? = some '$')
    (apart : ¬ StandsBehindWord name.toList s.bare) : s.returnedString name = none := by
  rw [Source.returnedString, Source.method?_dollar dollar apart]
  rfl

end ModuleAudit.Java
