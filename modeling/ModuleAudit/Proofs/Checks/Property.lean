import ModuleAudit.Checks.Naming
import ModuleAudit.Proofs.Java.Mention
import ModuleAudit.Proofs.Java.Property

/-!
# The checks of properties

One check asks for the names of the properties, the other one for their labels, which it reads once more in the
arguments of each annotation (`labelsIn_arguments`). In a class that is written from properties both see what
was written (`properties_read_back`).

* `propertyFieldNames_lists`: the names with an underscore are listed;
* `propertyAnnotations_lists`: the labels with special characters are listed.
-/

namespace ModuleAudit.Naming

open ModuleAudit.Check (listed)
open ModuleAudit.Java
open ModuleAudit.Text (isWord)

variable {f : FileSet} {settings : Settings} {c : PropertyClass}

/-! ## Labels -/

/-- The label in the arguments of a property is read as it is written. -/
theorem labelsIn_arguments (p : Property) : labelsIn p.arguments = [p.label.content] := by
  have parts :=
    (Pattern.reads_text (keyword "label") _).cons <|
    (Pattern.reads_most (p := Text.isBlank) (w := [' ']) (List.forall_mem_singleton.2 rfl) rfl).cons <|
    (Pattern.reads_exactly '=' _).cons <|
    (Pattern.reads_most (p := Text.isBlank) (w := [' ']) (List.forall_mem_singleton.2 rfl) rfl).cons <|
    (Pattern.reads_exactly '"' _).cons <|
    ((reads_literalContent p.label.closed p.label.line _).capture (k := 1)).cons <|
    (Pattern.reads_exactly '"' _).cons <|
    Pattern.reads_sequence_nil []
  have words : p.arguments = keyword "label" ++ ([' '] ++ (['='] ++ ([' '] ++ (['"'] ++
      (p.label.content ++ (['"'] ++ [])))))) := rfl
  rw [← words] at parts
  have takes : label.Takes ⟨[], p.arguments ++ [], 0, []⟩ p.arguments [(1, p.label.content)] :=
    Pattern.Reads.after_edge parts rfl rfl rfl
  obtain ⟨m, found, start, way, captures⟩ := takes.matchAt?
  have length : m.length = p.arguments.length := by
    rw [Match.length, start, way.offset, Nat.add_sub_cancel_left]
  -- Behind the label nothing is left to search.
  have rest (before : List Char) (offset : Nat) : label.findFrom before offset 0 [] = [] := by
    refine Pattern.findFrom_eq_nil fun x w y split fit => ?_
    simp only [label, Pattern.fits_sequence_cons, Pattern.fits_word] at fit
    obtain ⟨_, _, rfl, -, _, _, rfl, rfl, -⟩ := fit
    exact absurd split (by simp)
  have all := Pattern.findFrom_hit (by simp [words, keyword]) found length
  rw [rest, List.append_nil] at all
  rw [labelsIn, Pattern.findAll, all, List.map_singleton, Match.capture, Place.capture, captures]
  rfl

/-- The labels in the uses of the annotation are those of the properties. -/
theorem flatMap_labelsIn (ps : List Property) (offset : Nat) :
    ((usesFrom offset ps).flatMap fun use => labelsIn use.arguments) =
      ps.map fun p => p.label.content := by
  induction ps generalizing offset with
  | nil => rfl
  | cons p ps ih =>
    rw [usesFrom, List.flatMap_cons, ih, Property.use, labelsIn_arguments, List.map_cons]
    rfl

theorem map_name_fieldsBehind (ps : List Property) (written : List Char) :
    (fieldsBehind written ps).map (·.name) = ps.map fun p => String.ofList p.name := by
  induction ps generalizing written with
  | nil => rfl
  | cons p ps ih =>
    rw [fieldsBehind, List.map_cons, ih]
    rfl

/-! ## Verdicts -/

/-- The verdict is a violation exactly if some text is bad, and then it lists the bad ones in order. -/
structure Lists (v : Verdict) (told : String) (all : List (List Char)) (bad : List Char → Bool)
    (shown : List Char → String) : Prop where
  violation_iff : v.severity = none ↔ ∃ w ∈ all, bad w = true
  lists : (∃ w ∈ all, bad w = true) → v = .violation (told ++ listed ((all.filter bad).map shown))

/-- What lists the bad texts if there are any, and else is no violation. -/
theorem Lists.of_filter {told : String} {all : List (List Char)} {bad : List Char → Bool}
    {shown : List Char → String} {v : Verdict} (fine : Verdict) (other : fine.severity ≠ none)
    (verdict : v = if ((all.filter bad).map shown).isEmpty then fine
      else .violation (told ++ listed ((all.filter bad).map shown))) : Lists v told all bad shown := by
  have empty : ((all.filter bad).map shown).isEmpty = true ↔ ¬ ∃ w ∈ all, bad w = true := by
    simp [List.isEmpty_iff, List.filter_eq_nil_iff]
  by_cases any : ∃ w ∈ all, bad w = true
  · rw [if_neg (fun h => empty.1 h any)] at verdict
    exact ⟨iff_of_true (verdict ▸ rfl) any, fun _ => verdict⟩
  · rw [if_pos (empty.2 any)] at verdict
    exact ⟨iff_of_false (verdict ▸ other) any, fun h => absurd h any⟩

/-- The names with an underscore are listed. -/
theorem propertyFieldNames_lists (h : f.primary.text = c.text) :
    ∃ v, propertyFieldNames f settings = pure v ∧
      Lists v "@Property fields use underscores instead of camelCase: "
        (c.properties.map Property.name) (·.contains '_') String.ofList := by
  refine ⟨_, rfl, ?_⟩
  have snake : ((f.primary.annotatedFields "Property").map (·.name)).filter (·.toList.contains '_') =
      ((c.properties.map Property.name).filter (·.contains '_')).map String.ofList := by
    rw [PropertyClass.annotatedFields_eq h, map_name_fieldsBehind]
    simp [List.filter_map, Function.comp_def]
  let fields := f.primary.annotatedFields "Property"
  refine Lists.of_filter (if fields.isEmpty then .ok "no @Property fields"
    else .ok s!"{fields.length} @Property field(s) use camelCase") ?_ ?_
  · split <;> exact nofun
  · dsimp only
    rw [snake]
    generalize ((c.properties.map Property.name).filter (·.contains '_')).map String.ofList = names
    cases names.isEmpty <;> rfl

/-- Without a dot no dotted name is mentioned. -/
theorem mentions_of_dot {source : Source} (none : '.' ∉ source.bare) {name : String}
    (dotted : '.' ∈ name.toList) : source.mentions [name] = false := by
  rw [← Bool.not_eq_true, Source.mentions, List.any_eq_true]
  rintro ⟨ident, mem, found⟩
  obtain rfl := List.mem_singleton.1 mem
  obtain ⟨x, y, split, -⟩ := wholeWord_found_iff.1 found
  rw [split] at none
  exact none (by simp [dotted])

/-- The labels with special characters are listed. -/
theorem propertyAnnotations_lists (h : f.primary.text = c.text) :
    ∃ v, propertyAnnotations f settings = pure v ∧
      Lists v "labels with special characters: " (c.properties.map fun p => p.label.content)
        (fun l => l.any fun d => !(d.isAlphanum || d == ' ')) (fun l => "\"" ++ String.ofList l ++ "\"") := by
  refine ⟨_, rfl, ?_⟩
  have uses := PropertyClass.annotations_eq h
  have plain : f.primary.mentions ["PropertyType.INTEGER"] = false :=
    mentions_of_dot (PropertyClass.bare_eq h ▸ c.dot_not_mem_bare) (by decide)
  have bad (l : List Char) : (!isPlain l) = l.any fun d => !(d.isAlphanum || d == ' ') := by
    rw [isPlain, List.not_all_eq_any_not]
  let n := (f.primary.annotations "Property").length
  refine Lists.of_filter (if (f.primary.annotations "Property").isEmpty then
      .warn "no @Property annotations; connectors normally expose configuration"
    else .ok s!"{n} @Property annotation(s) are compliant") ?_ ?_
  · split <;> exact nofun
  · have invalid : (((f.primary.annotations "Property").flatMap fun use => labelsIn use.arguments).filter
        fun l => !isPlain l) =
          (c.properties.map fun p => p.label.content).filter
            fun l => l.any fun d => !(d.isAlphanum || d == ' ') := by
      rw [uses, flatMap_labelsIn]
      exact List.filter_congr fun l _ => bad l
    dsimp only
    simp only [invalid, plain, Bool.false_eq_true, if_false, List.append_nil]
    cases empty : (f.primary.annotations "Property").isEmpty with
    | true =>
      have none : c.properties = [] := by
        cases all : c.properties with
        | nil => rfl
        | cons p ps =>
          rw [uses, all] at empty
          cases empty
      rw [none]
      rfl
    | false =>
      generalize (c.properties.map fun p => p.label.content).filter _ = wrong
      cases wrong with
      | nil => rfl
      | cons l ls => rfl

/-- The properties of a class are read as they are written, whatever their labels hold: the fields have their
names, their types and the lines of their annotations, and the checks list exactly the names with an underscore
and the labels with special characters. -/
theorem properties_read_back (c : PropertyClass) (f : FileSet) (settings : Settings)
    (h : f.primary.text = c.text) :
    f.primary.annotatedFields "Property" = fieldsBehind c.opening c.properties ∧
      (∃ v, propertyFieldNames f settings = pure v ∧
        Lists v "@Property fields use underscores instead of camelCase: "
          (c.properties.map Property.name) (·.contains '_') String.ofList) ∧
      ∃ v, propertyAnnotations f settings = pure v ∧
        Lists v "labels with special characters: " (c.properties.map fun p => p.label.content)
          (fun l => l.any fun d => !(d.isAlphanum || d == ' ')) fun l => "\"" ++ String.ofList l ++ "\"" :=
  ⟨PropertyClass.annotatedFields_eq h, propertyFieldNames_lists h, propertyAnnotations_lists h⟩

/-- A label with a parenthesis, the beginning of a comment and what looks like another annotation, and one
without special characters. -/
theorem properties_read_back_label :
    let text := "class C \x7b\n@Property(label = \") /* @Property(label = \\\"\")\n" ++
      "private static String api_key;\n\n@Property(label = \"Plain 1\")\nint n;\x7d"
    let f : FileSet := { module := ⟨⟨0, []⟩, "c"⟩, primary := .ofText ⟨0, ["C.java"]⟩ text.toList }
    f.primary.annotatedFields "Property" = [
        ⟨"api_key", "String", "label = \") /* @Property(label = \\\"\"", 2⟩,
        ⟨"n", "int", "label = \"Plain 1\"", 5⟩] ∧
      propertyFieldNames f {} =
        pure (.violation "@Property fields use underscores instead of camelCase: api_key") ∧
      propertyAnnotations f {} =
        pure (.violation "labels with special characters: \") /* @Property(label = \\\"\"") := by
  intro text f
  let line : Blanks := ⟨['\n'], List.forall_mem_singleton.2 rfl⟩
  let p : Property := {
    label := ⟨") /* @Property(label = \\\"".toList, by decide, by decide⟩
    afterLabel := line
    modifiers := [⟨"private", .one, by decide⟩, ⟨"static", .one, by decide⟩]
    type := "String".toList
    afterType := .one
    name := "api_key".toList
    afterName := .none
    last := ⟨['\n', '\n'], List.all_eq_true.1 (by decide)⟩
    type_run := by decide
    type_not := by decide
    name_run := by decide }
  let q : Property := {
    label := ⟨"Plain 1".toList, by decide, by decide⟩
    afterLabel := line
    modifiers := []
    type := "int".toList
    afterType := .one
    name := ['n']
    afterName := .none
    last := .none
    type_run := by decide
    type_not := by decide
    name_run := by decide }
  let c : PropertyClass := {
    opening := "class C \x7b\n".toList
    properties := [p, q]
    closing := ['\x7d']
    opening_each := List.all_eq_true.1 (by decide)
    closing_each := List.forall_mem_singleton.2 rfl }
  have written : f.primary.text = c.text := by decide +kernel
  obtain ⟨fields, ⟨v, run, names⟩, w, run', labels⟩ := properties_read_back c f {} written
  have snake := names.lists ⟨p.name, by decide, by decide⟩
  have special := labels.lists ⟨p.label.content, by decide, by decide⟩
  refine ⟨fields.trans (by decide +kernel), ?_, ?_⟩
  · rw [run, snake]
    rfl
  · rw [run', special]
    rfl

end ModuleAudit.Naming
