import ModuleAudit.Proofs.Checks.Evidence
import ModuleAudit.Proofs.Java.Returned

/-!
# The checks of the identifier and of the display name

The two checks look at the strings that methods of the connector class return. A method resolves to
the very string that is written in the file, as a literal or as the value of a constant, so the display
name passes exactly if what is written is plain (`returned_strings_exact`).

The identifier has three kinds of problems, and the check reports the first one that it asks for.
This is the worst one, but where a small letter hides a character that has no place in an identifier
(`typeIdentifier_worst_iff`).
-/

namespace ModuleAudit.Naming

open ModuleAudit.Java
open ModuleAudit.Text (isIdent isWord)

variable {f : FileSet} {settings : Settings} {s : Surroundings} {v : String}

/-! ## The display name -/

theorem severity_displayName (resolved : f.primary.returnedString "getName" = some v) :
    displayName.severity f settings s =
      .ok (if v.toList.all fun c => c.isAlphanum || c == ' ' then some .pass else none) := by
  change displayName.severity f settings s = .ok (if isPlain v.toList then some .pass else none)
  simp only [Check.severity, displayName, Check.ofFiles, resolved]
  split <;> rfl

/-- The first method of a name that is declared in a file, if it returns a literal or the name of a
constant, resolves to what is written between the quotes. If it gives the display name, this passes if
there is nothing but letters, digits and spaces, and else is a violation. Only a name that starts with
a dollar sign is not found in any file, but where it stands right behind a word. -/
theorem returned_strings_exact {source : Source} {d : Declaration} {r : Return} {l : Literal}
    {pre post : List Char} (first : (d.returning r).FirstIn pre post source.text)
    (value : StandsFor source.text r.value l) :
    source.returnedString (String.ofList d.name.word) = some (String.ofList l.content) ∧
      (d.name.word = "getName".toList → ∀ (f : FileSet) (settings : Settings) (s : Surroundings),
        f.primary = source →
        displayName.severity f settings s =
          .ok (if l.content.all fun c => c.isAlphanum || c == ' ' then some .pass else none)) ∧
      ∀ (other : Source) (name : String), name.toList.head? = some '$' →
        ¬ StandsBehindWord name.toList other.bare → other.returnedString name = none := by
  have resolved := returnedString_of_firstIn first value
  refine ⟨resolved, fun getName f settings s primary => ?_, fun other name => returnedString_dollar⟩
  rw [getName, String.ofList_toList, ← primary] at resolved
  rw [severity_displayName resolved, String.toList_ofList]

/-- A quote behind a backslash, brackets and the beginnings of comments in a constant and in a
literal. -/
theorem returned_strings_exact_brackets :
    let file (text : String) : Source := .ofText ⟨0, ["C.java"]⟩ text.toList
    let constant := file
      "class C \x7b static final String K = \"\\\"\x7b( //\"; String getName() \x7b return K; \x7d \x7d"
    let literal := file "class C \x7b String f() \x7b return \"\\\"\x7b( //\"; \x7d \x7d"
    let dollar := file "class C \x7b String $f() \x7b return \"\"; \x7d \x7d"
    constant.returnedString "getName" = some "\\\"\x7b( //" ∧
      (∀ (f : FileSet) (settings : Settings) (s : Surroundings), f.primary = constant →
        displayName.severity f settings s = .ok none) ∧
      literal.returnedString "f" = some "\\\"\x7b( //" ∧ dollar.returnedString "$f" = none := by
  intro file constant literal dollar
  let d : Declaration := .ofName "getName".toList (by decide) (by decide) (by decide)
  let d' : Declaration := .ofName ['f'] (by decide) (by decide) (by decide)
  let l : Literal := {
    content := "\\\"\x7b( //".toList
    closed := .escape (.plain (by decide) (by decide) (by decide) (.plain (by decide) (by decide)
      (by decide) (.plain (by decide) (by decide) (by decide) (.plain (by decide) (by decide)
        (by decide) (.plain (by decide) (by decide) (by decide) .nil)))))
    line := by decide }
  let run : IsRun isIdent ['K'] := ⟨by decide, List.forall_mem_singleton.2 rfl⟩
  let c : Constant := ⟨⟨.one, .one, .one, ['K'], .one, .one, run⟩, l, .none⟩
  let r : Return := ⟨.one, .one, .name ['K'] run, .none, .one⟩
  let r' : Return := ⟨.one, .one, .literal l, .none, .one⟩
  have opening := copied_of_isInert isInert_classOpening
  have blank : Copied [' '] [' '] [' '] := copied_of_isInert (List.forall_mem_singleton.2 (by decide))
  have unquoted {s x w y : List Char} (none : '"' ∉ s) : s ≠ x ++ (w ++ '"' :: y) := by
    rintro rfl
    exact none (by simp)
  have last : c.LastIn (classOpening ++ [' ']) " String getName() \x7b return K; \x7d \x7d".toList
      constant.text := {
    split := by decide +kernel
    whole := (opening.append blank).isWhole
    apart := by decide +kernel
    closed := fun x h y quote => absurd quote (unquoted (by decide +kernel))
    last := fun x h y quote => absurd quote (unquoted (by decide +kernel)) }
  have before {name text : List Char} {n : Nat}
      (each : (declarationsOf text).all (fun p => p.1 != name || decide (n ≤ p.2)) = true) :
      ∀ k, (name, k) ∈ declarationsOf text → n ≤ k := fun k mem => by
    simpa using List.all_eq_true.1 each _ mem
  have first : (d.returning r).FirstIn (classOpening ++ [' '] ++ c.text) " \x7d".toList constant.text := {
    split := by decide +kernel
    whole := ((opening.append blank).append c.copied).isWhole
    first := before (by decide +kernel) }
  have first' : (d'.returning r').FirstIn classOpening " \x7d".toList literal.text := {
    split := by decide +kernel
    whole := opening.isWhole
    first := before (by decide +kernel) }
  have stands : StandsFor constant.text r.value l := .constant last
  have stands' : StandsFor literal.text r'.value l := .literal
  obtain ⟨resolved, counts, unfound⟩ := returned_strings_exact first stands
  obtain ⟨resolved', -⟩ := returned_strings_exact first' stands'
  refine ⟨resolved, counts rfl, resolved', unfound dollar "$f" (by decide) ?_⟩
  -- The dollar sign of the bare copy stands behind a blank.
  have apart : dollar.bare.all
      (fun b => decide (isWord b = true → ¬ [b, '$'] <:+: dollar.bare)) = true := by decide +kernel
  rintro ⟨x, b, blanks, y, split, word, -⟩
  refine of_decide_eq_true (List.all_eq_true.1 apart b (by simp [split])) word
    ⟨x, 'f' :: (blanks ++ '(' :: y), ?_⟩
  simp [split]

/-- A class whose method is found under its name without the dollar sign only. -/
theorem dollar_name_unresolved :
    let source := Source.ofText ⟨0, ["C.java"]⟩
      "class C \x7b String $name() \x7b return \"s\"; \x7d \x7d".toList
    source.returnedString "$name" = none ∧ source.returnedString "name" = some "s" := by
  decide +kernel

/-! ## The identifier -/

/-- A character that has no place in an identifier. -/
def isForeign (c : Char) : Bool := !(c.isAlphanum || c == '_')

/-- How a value counts by the worst of its problems. -/
def worst (v : List Char) : Option Severity :=
  if v.any isForeign then none else if v.any Char.isLower then some .warn else some .pass

/-- There are both small letters and characters that have no place in an identifier, none of them a
space. -/
def LowerHides (v : List Char) : Prop :=
  v.any isForeign = true ∧ v.any Char.isLower = true ∧ ' ' ∉ v

instance (v : List Char) : Decidable (LowerHides v) := inferInstanceAs (Decidable (_ ∧ _ ∧ _))

/-- Where there are no small letters, what is no capital, digit or underscore has no place in an
identifier. -/
theorem any_isForeign {v : List Char} (none : v.any Char.isLower = false) :
    (v.any fun c => !(c.isUpper || c.isDigit || c == '_')) = v.any isForeign := by
  rw [List.any_eq_false] at none
  rw [Bool.eq_iff_iff, List.any_eq_true, List.any_eq_true]
  refine exists_congr fun c => and_congr_right fun mem => ?_
  have notLower : c.isLower = false := by simpa using none c mem
  have letters : c.isAlphanum = (c.isUpper || c.isLower || c.isDigit) := rfl
  rw [isForeign, letters, notLower, Bool.or_false]

/-- The check asks for spaces first, then for small letters, and then for other characters that have
no place in an identifier. -/
theorem severity_typeIdentifier (resolved : f.primary.returnedString "getType" = some v) :
    typeIdentifier.severity f settings s =
      .ok (if ' ' ∈ v.toList then none
        else if v.toList.any Char.isLower then some .warn
        else if v.toList.any isForeign then none
        else some .pass) := by
  have verdict : typeIdentifier.severity f settings s =
      .ok (if v.toList.contains ' ' then none
        else if v.toList.any Char.isLower then some .warn
        else if v.toList.any fun c => !(c.isUpper || c.isDigit || c == '_') then none
        else some .pass) := by
    simp only [Check.severity, typeIdentifier, Check.ofFiles, resolved]
    split
    · rfl
    split
    · rfl
    split <;> rfl
  rw [verdict]
  refine congrArg Except.ok ?_
  simp only [List.contains_iff_mem]
  split
  · rfl
  split
  · rfl
  · rename_i none
    rw [any_isForeign (Bool.eq_false_iff.2 none)]

theorem any_isForeign_of_space {v : List Char} (h : ' ' ∈ v) : v.any isForeign = true :=
  List.any_eq_true.2 ⟨' ', h, by decide⟩

/-- An identifier counts by the worst of its problems, unless small letters hide characters that
have no place in it. Then it counts as if the small letters were its only problem. -/
theorem typeIdentifier_worst_iff (resolved : f.primary.returnedString "getType" = some v) :
    (typeIdentifier.severity f settings s = .ok (worst v.toList) ↔ ¬ LowerHides v.toList) ∧
      (LowerHides v.toList → typeIdentifier.severity f settings s = .ok (some .warn)) := by
  rw [severity_typeIdentifier resolved, Except.ok.injEq, Except.ok.injEq]
  by_cases hides : LowerHides v.toList
  · obtain ⟨foreign, lower, space⟩ := hides
    have worst : worst v.toList = none := if_pos foreign
    rw [if_neg space, if_pos lower, worst]
    exact ⟨iff_of_false nofun (not_not_intro ⟨foreign, lower, space⟩), fun _ => rfl⟩
  · refine ⟨iff_of_true ?_ hides, fun h => absurd h hides⟩
    by_cases space : ' ' ∈ v.toList
    · rw [if_pos space, worst, if_pos (any_isForeign_of_space space)]
    rw [if_neg space, worst]
    by_cases lower : v.toList.any Char.isLower = true
    · have foreign : ¬ v.toList.any isForeign = true := fun foreign => hides ⟨foreign, lower, space⟩
      rw [if_pos lower, if_neg foreign, if_pos lower]
    · rw [if_neg lower, if_neg lower]

/-- A space and a small letter: the space is reported. -/
theorem typeIdentifier_worst_iff_space :
    let f : FileSet := {
      module := ⟨⟨0, []⟩, "a"⟩
      primary := .ofText ⟨0, ["AConnector.java"]⟩
        "class AConnector \x7b String getType() \x7b return \"a TM\"; \x7d \x7d".toList }
    f.primary.returnedString "getType" = some "a TM" ∧
      ∀ settings s, typeIdentifier.severity f settings s = .ok none := by
  intro f
  have resolved : f.primary.returnedString "getType" = some "a TM" := by decide +kernel
  refine ⟨resolved, fun settings s => ?_⟩
  have shown : ¬ LowerHides "a TM".toList := by decide
  exact (typeIdentifier_worst_iff resolved).1.2 shown

/-- A dash among small letters: the small letters are reported. -/
theorem lower_hides_dash :
    let f : FileSet := {
      module := ⟨⟨0, []⟩, "acme"⟩
      primary := .ofText ⟨0, ["AcmeConnector.java"]⟩
        "class AcmeConnector \x7b String getType() \x7b return \"acme-tm\"; \x7d \x7d".toList }
    f.primary.returnedString "getType" = some "acme-tm" ∧ worst "acme-tm".toList = none ∧
      ∀ settings s, typeIdentifier.severity f settings s = .ok (some .warn) := by
  intro f
  have resolved : f.primary.returnedString "getType" = some "acme-tm" := by decide +kernel
  refine ⟨resolved, by decide, fun settings s => ?_⟩
  rw [severity_typeIdentifier resolved]
  exact congrArg Except.ok (by decide)

end ModuleAudit.Naming
