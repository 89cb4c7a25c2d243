import ModuleAudit.Proofs.Java.Splice

/-!
# Classes that declare methods

A `Declaration` is a method as it is written in a class, with the blanks between its words. What it
may hold is part of it: the words are what they stand for, no parenthesis is opened in the body, and
the body leaves nothing open. `classText` writes declarations one after another into a class, and
`declared` lists the methods that they stand for.

* `Declaration.copied`: in the copies of a declaration only the body looks different.
-/

namespace ModuleAudit.Java

open ModuleAudit.Text (isBlank isIdent isWord isAlphanumeric)

/-! ## Words -/

/-- A stretch of blanks. -/
structure Blanks where
  chars : List Char
  blank : ∀ c ∈ chars, isBlank c = true

/-- No blanks. -/
def Blanks.none : Blanks := ⟨[], List.forall_mem_nil _⟩

/-- A single space. -/
def Blanks.one : Blanks := ⟨[' '], List.forall_mem_singleton.2 rfl⟩

theorem Blanks.one_ne_nil : Blanks.one.chars ≠ [] := List.cons_ne_nil _ _

/-- A word after blanks. -/
structure Spaced where
  gap : Blanks
  word : List Char

/-- The blanks and the word. -/
def Spaced.text (w : Spaced) : List Char := w.gap.chars ++ w.word

/-- A word of letters, digits, underscores and dollar signs that starts with no digit. -/
def IsIdentifier (w : List Char) : Prop :=
  ∃ c rest, w = c :: rest ∧ startsName c = true ∧ ∀ d ∈ rest, isIdent d = true

instance : (w : List Char) → Decidable (IsIdentifier w)
  | [] => .isFalse nofun
  | c :: rest => decidable_of_iff (startsName c = true ∧ rest.all isIdent = true) <| by
    rw [List.all_eq_true]
    constructor
    · intro h
      exact ⟨c, rest, rfl, h⟩
    · rintro ⟨_, _, same, h⟩
      obtain ⟨rfl, rfl⟩ := List.cons.inj same
      exact h

/-- A character that the parameters of a method may hold. -/
def isOfParams (c : Char) : Bool := isAlphanumeric c || isBlank c || ",.<>[]".toList.contains c

/-! ## Declarations -/

/-- A method as it is written in a class. -/
structure Declaration where
  modifiers : List Spaced
  returnType : Spaced
  name : Spaced
  /-- The blanks before the opening parenthesis. -/
  paramsGap : Blanks
  params : List Char
  /-- The blanks before the word that announces exceptions, if there are any. -/
  throwsGap : Blanks
  exceptions : List Spaced
  /-- The blanks before the opening brace. -/
  bodyGap : Blanks
  body : List Char
  modifiers_mem : ∀ w ∈ modifiers, w.word ∈ Java.modifiers
  returnType_identifier : IsIdentifier returnType.word
  returnType_gap : returnType.gap.chars ≠ []
  returnType_modifiers : returnType.word ∉ Java.modifiers
  returnType_not : returnType.word ∉ notReturnTypes
  name_identifier : IsIdentifier name.word
  name_head : name.word.head? ≠ some '$'
  name_gap : name.gap.chars ≠ []
  name_not : name.word ∉ notMethodNames
  /-- The return type starts near the name: one of less than 300 characters may be followed by a
  hundred blanks. -/
  reach : returnType.word.length + name.gap.chars.length ≤ typeReach
  params_each : ∀ c ∈ params, isOfParams c = true
  exceptions_identifier : ∀ w ∈ exceptions, IsIdentifier w.word
  exceptions_gap : ∀ w ∈ exceptions.head?, w.gap.chars ≠ []
  body_calls : '(' ∉ bareOf body
  body_balanced : Balanced '\x7b' '\x7d' (bareOf body)
  body_closed : IsClosed body

namespace Declaration

/-- What is written in front of the name. -/
def front (d : Declaration) : List Char :=
  d.modifiers.flatMap Spaced.text ++ d.returnType.text ++ d.name.gap.chars

/-- The name and its parenthesis. -/
def site (d : Declaration) : List Char := d.name.word ++ d.paramsGap.chars ++ ['(']

/-- What the method throws, and the blanks before its brace. -/
def clause (d : Declaration) : List Char :=
  (match d.exceptions with
    | [] => []
    | w :: ws =>
      d.throwsGap.chars ++ "throws".toList ++ w.text ++ ws.flatMap fun w => ',' :: w.text) ++
  d.bodyGap.chars

/-- What is written from the parameters up to the opening brace. -/
def inner (d : Declaration) : List Char := d.params ++ ')' :: d.clause ++ ['\x7b']

/-- What is written before the body. -/
def head (d : Declaration) : List Char := d.front ++ d.site ++ d.inner

/-- The declaration with another body. -/
def withBody (d : Declaration) (body : List Char) : List Char := d.head ++ (body ++ ['\x7d'])

/-- The declaration as it is written. -/
def text (d : Declaration) : List Char := d.withBody d.body

/-- A method that gives a text and has nothing but a name and an empty body. -/
def ofName (name : List Char) (identifier : IsIdentifier name) (head : name.head? ≠ some '$')
    (other : name ∉ notMethodNames) : Declaration where
  modifiers := []
  returnType := ⟨.one, "String".toList⟩
  name := ⟨.one, name⟩
  paramsGap := .none
  params := []
  throwsGap := .none
  exceptions := []
  bodyGap := .one
  body := []
  modifiers_mem := List.forall_mem_nil _
  returnType_identifier := by decide
  returnType_gap := Blanks.one_ne_nil
  returnType_modifiers := by decide
  returnType_not := by decide
  name_identifier := identifier
  name_head := head
  name_gap := Blanks.one_ne_nil
  name_not := other
  reach := show "String".toList.length + Blanks.one.chars.length ≤ typeReach by decide
  params_each := List.forall_mem_nil _
  exceptions_identifier := List.forall_mem_nil _
  exceptions_gap := nofun
  body_calls := by decide +kernel
  body_balanced := by decide +kernel
  body_closed := by decide +kernel

/-- The method that is declared after the text `written`. -/
def method (d : Declaration) (written : List Char) : Method where
  name := d.name.word
  returnType := d.returnType.word
  params := d.params
  body := codeOf d.body
  line := (written ++ d.front).count '\n' + 1
  bodyStart := (written ++ d.head).length
  bodyEnd := (written ++ d.head ++ d.body).length

end Declaration

/-- The opening of the class. -/
def classOpening : List Char := "class C \x7b".toList

/-- A class with declarations one after another, and blanks before its closing brace. -/
def classText (ds : List Declaration) (last : Blanks) : List Char :=
  classOpening ++ ds.flatMap Declaration.text ++ (last.chars ++ ['\x7d'])

/-- The methods that are declared one after another, behind the text `written`. -/
def declared (written : List Char) : List Declaration → List Method
  | [] => []
  | d :: ds => d.method written :: declared (written ++ d.text) ds

/-! ## Characters of a declaration -/

/-- No blank is a character of an identifier. -/
theorem isIdent_of_isBlank {c : Char} (h : isBlank c = true) : isIdent c = false := by
  have each : ∀ n ∈ [0x9, 0xa, 0xb, 0xc, 0xd, 0x1c, 0x1d, 0x1e, 0x1f, 0x20, 0x85, 0xa0, 0x1680,
      0x2000, 0x2001, 0x2002, 0x2003, 0x2004, 0x2005, 0x2006, 0x2007, 0x2008, 0x2009, 0x200a,
      0x2028, 0x2029, 0x202f, 0x205f, 0x3000], isIdent (Char.ofNat n) = false := by decide +kernel
  rw [← Char.ofNat_toNat c]
  refine each _ ?_
  simp only [isBlank, Bool.or_eq_true, Bool.and_eq_true, decide_eq_true_eq, beq_iff_eq] at h
  simp only [List.mem_cons, List.not_mem_nil, or_false]
  omega

theorem isWord_of_isIdent {c : Char} (h : isIdent c = false) : isWord c = false := by
  simp only [isIdent, Bool.or_eq_false_iff] at h
  exact h.1

theorem isBlank_of_isIdent {c : Char} (h : isIdent c = true) : isBlank c = false := by
  rw [← Bool.not_eq_true]
  intro blank
  rw [isIdent_of_isBlank blank] at h
  cases h

theorem IsIdentifier.each {w : List Char} (h : IsIdentifier w) : ∀ c ∈ w, isIdent c = true := by
  obtain ⟨c, rest, rfl, start, each⟩ := h
  exact List.forall_mem_cons.2 ⟨isIdent_of_startsName start, each⟩

theorem isOfNames_of_isIdent {c : Char} (h : isIdent c = true) : isOfNames c = true := by
  simp [isOfNames, isDotted, h]

/-- Characters of names are copied as they are, and no bracket is among them. -/
theorem isInert_of_isOfNames {c : Char} (h : isOfNames c = true) : IsInert c := by
  refine ⟨?_, ?_⟩
  · rintro rfl
    exact absurd h (by decide)
  · rintro (rfl | rfl) <;> exact absurd h (by decide)

theorem isInert_of_isOfParams {c : Char} (h : isOfParams c = true) : IsInert c := by
  refine ⟨?_, ?_⟩
  · rintro rfl
    exact absurd h (by decide)
  · rintro (rfl | rfl) <;> exact absurd h (by decide)

theorem Spaced.isOfNames {w : Spaced} (h : ∀ c ∈ w.word, isIdent c = true) :
    ∀ c ∈ w.text, isOfNames c = true := by
  intro c hc
  rcases List.mem_append.1 hc with hc | hc
  · exact isOfNames_of_isBlank (w.gap.blank c hc)
  · exact isOfNames_of_isIdent (h c hc)

theorem isIdent_of_mem_modifiers {w : List Char} (h : w ∈ modifiers) : ∀ c ∈ w, isIdent c = true := by
  have each : modifiers.all (fun w => w.all isIdent) = true := by decide
  exact List.all_eq_true.1 (List.all_eq_true.1 each w h)

namespace Declaration

variable (d : Declaration)

theorem front_isOfNames : ∀ c ∈ d.front, isOfNames c = true := by
  intro c hc
  simp only [front, List.mem_append, List.mem_flatMap] at hc
  rcases hc with (⟨w, hw, hc⟩ | hc) | hc
  · exact Spaced.isOfNames (isIdent_of_mem_modifiers (d.modifiers_mem w hw)) c hc
  · exact Spaced.isOfNames d.returnType_identifier.each c hc
  · exact isOfNames_of_isBlank (d.name.gap.blank c hc)

theorem clause_isOfNames : ∀ c ∈ d.clause, isOfNames c = true := by
  intro c hc
  rw [clause] at hc
  rcases List.mem_append.1 hc with hc | hc
  · split at hc
    · exact nomatch hc
    · rename_i w ws exceptions
      have each : ∀ v ∈ w :: ws, ∀ c ∈ v.text, isOfNames c = true := fun v hv =>
        Spaced.isOfNames (d.exceptions_identifier v (exceptions ▸ hv)).each
      have keyword : "throws".toList.all isOfNames = true := by decide
      simp only [List.mem_append, List.mem_flatMap] at hc
      rcases hc with ((hc | hc) | hc) | ⟨v, hv, hc⟩
      · exact isOfNames_of_isBlank (d.throwsGap.blank c hc)
      · exact List.all_eq_true.1 keyword c hc
      · exact each w List.mem_cons_self c hc
      rcases List.mem_cons.1 hc with rfl | hc
      · decide
      · exact each v (List.mem_cons_of_mem _ hv) c hc
  · exact isOfNames_of_isBlank (d.bodyGap.blank c hc)

theorem head_isInert : ∀ c ∈ d.head, IsInert c := by
  intro c hc
  simp only [Declaration.head, site, inner, List.mem_append, List.mem_cons, List.not_mem_nil,
    or_false] at hc
  rcases hc with (hc | (hc | hc) | rfl) | (hc | rfl | hc) | rfl
  · exact isInert_of_isOfNames (d.front_isOfNames c hc)
  · exact isInert_of_isOfNames (isOfNames_of_isIdent (d.name_identifier.each c hc))
  · exact isInert_of_isOfNames (isOfNames_of_isBlank (d.paramsGap.blank c hc))
  · decide
  · exact isInert_of_isOfParams (d.params_each c hc)
  · decide
  · exact isInert_of_isOfNames (d.clause_isOfNames c hc)
  · decide

/-- The body of a declaration is copied by itself, and the rest of it stays. -/
theorem copied : Copied d.text (d.withBody (codeOf d.body)) (d.withBody (bareOf d.body)) :=
  (copied_of_isInert d.head_isInert).append d.body_closed.copied

end Declaration

theorem copied_flatMap (ds : List Declaration) :
    Copied (ds.flatMap Declaration.text) (ds.flatMap fun d => d.withBody (codeOf d.body))
      (ds.flatMap fun d => d.withBody (bareOf d.body)) := by
  induction ds with
  | nil => exact copied_of_isInert nofun
  | cons d ds ih => exact d.copied.append ih

end ModuleAudit.Java
