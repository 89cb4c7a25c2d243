import ModuleAudit.Connector.Pom
import ModuleAudit.Proofs.Markup.Document

/-!
# What poms say

`Pom.Content` is what a pom says: its modules, its plugins, and the dependencies of its project, direct or
only managed. `Content.element` puts it into the elements of a pom, section by section.

* `ofElement_trimmed`: blanks around the texts of a pom do not matter;
* `modules_element`, `plugins_element`, `dependencies_element`: of the elements of a pom the modules, the
  plugins and the direct dependencies are told in their order;
* `content_reads_back`: so they are of each document that spells the elements.
-/

namespace ModuleAudit.Pom

open ModuleAudit.Markup
open ModuleAudit.Markup.Element (leaf node)
open List (forall_mem_singleton)

/-! ## What is read of elements -/

/-- The module that an element names. -/
def moduleOf? (e : Element) : Option String :=
  if e.tag == "module".toList then nonEmpty (textOf (some e)) else none

/-- The plugin that an element names. -/
def pluginOf? (e : Element) : Option String :=
  if e.tag == "plugin".toList then (e.child? "artifactId").map fun a => textOf (some a) else none

variable {e : Element} {name : String}

theorem modules_eq (e : Element) : (ofElement e).modules = e.all.filterMap moduleOf? := rfl

theorem plugins_eq (e : Element) : (ofElement e).plugins = e.all.filterMap pluginOf? := rfl

/-! ## Blanks around texts -/

theorem textOf_trimmed (e : Option Element) : textOf (e.map .trimmed) = textOf e := by
  cases e with
  | none => rfl
  | some e => simp [textOf, Text.trim_trim]

theorem child?_trimmed (e : Element) (name : String) :
    e.trimmed.child? name = (e.child? name).map .trimmed := by
  obtain ⟨tag, text, children⟩ := e
  rw [Element.trimmed_mk, Element.child?_map Element.tag_trimmed]
  rfl

theorem childrenNamed_trimmed (e : Element) (name : String) :
    e.trimmed.childrenNamed name = (e.childrenNamed name).map .trimmed := by
  obtain ⟨tag, text, children⟩ := e
  rw [Element.trimmed_mk, Element.childrenNamed_map Element.tag_trimmed]
  rfl

theorem moduleOf?_trimmed (e : Element) : moduleOf? e.trimmed = moduleOf? e := by
  have same := textOf_trimmed (some e)
  rw [moduleOf?, moduleOf?, Element.tag_trimmed, ← same]
  rfl

theorem pluginOf?_trimmed (e : Element) : pluginOf? e.trimmed = pluginOf? e := by
  rw [pluginOf?, pluginOf?, Element.tag_trimmed, child?_trimmed, Option.map_map]
  have same : (fun a => textOf (some a)) ∘ Element.trimmed = fun a => textOf (some a) :=
    funext fun a => textOf_trimmed (some a)
  rw [same]

theorem dependencyOf_trimmed (e : Element) : dependencyOf e.trimmed = dependencyOf e := by
  simp only [dependencyOf, childText, child?_trimmed, textOf_trimmed]

/-- Blanks around the texts of a pom do not matter. -/
theorem ofElement_trimmed (e : Element) : ofElement e.trimmed = ofElement e := by
  have modules : (ofElement e.trimmed).modules = (ofElement e).modules := by
    rw [modules_eq, modules_eq, Element.all_trimmed, List.filterMap_map]
    exact List.filterMap_congr fun e _ => moduleOf?_trimmed e
  have plugins : (ofElement e.trimmed).plugins = (ofElement e).plugins := by
    rw [plugins_eq, plugins_eq, Element.all_trimmed, List.filterMap_map]
    exact List.filterMap_congr fun e _ => pluginOf?_trimmed e
  have dependencies : (ofElement e.trimmed).dependencies = (ofElement e).dependencies := by
    simp only [ofElement, childrenNamed_trimmed, List.flatMap_map, ← List.map_flatMap, List.map_map]
    exact List.map_congr_left fun e _ => dependencyOf_trimmed e
  have same := congr (congr (congrArg Pom.mk modules) plugins) dependencies
  exact same

/-! ## What a pom says -/

/-- What a pom says. -/
structure Content where
  modules : List String := []
  plugins : List String := []
  dependencies : List Dependency := []
  /-- Dependencies that are only managed. -/
  managed : List Dependency := []

/-- A section of a pom. -/
inductive Section
  | modules
  | dependencies
  | management
  | build
  deriving DecidableEq

/-- The element of a plugin. -/
def pluginElement (artifact : String) : Element := node "plugin" [leaf "artifactId" artifact]

/-- The element of a dependency. -/
def dependencyElement (d : Dependency) : Element :=
  node "dependency"
    ([leaf "groupId" d.group, leaf "artifactId" d.artifact] ++ (d.version.map (leaf "version")).toList)

/-- The element of a section. -/
def Section.element (c : Content) : Section → Element
  | modules => node "modules" (c.modules.map (leaf "module"))
  | dependencies => node "dependencies" (c.dependencies.map dependencyElement)
  | management => node "dependencyManagement" [node "dependencies" (c.managed.map dependencyElement)]
  | build => node "build" [node "plugins" (c.plugins.map pluginElement)]

/-- There is something to say in a section. -/
def Section.IsNeeded (c : Content) : Section → Prop
  | modules => c.modules ≠ []
  | dependencies => c.dependencies ≠ []
  | management => c.managed ≠ []
  | build => c.plugins ≠ []

/-- The element of a pom with some sections. -/
def Content.element (c : Content) (sections : List Section) : Element :=
  node "project" (sections.map (Section.element c))

/-- No section is written twice, and none is left out that is needed. -/
structure Content.Covered (c : Content) (sections : List Section) : Prop where
  once : sections.Nodup
  needed : ∀ s : Section, s.IsNeeded c → s ∈ sections

/-- A text with some characters, and no blank at either end. -/
structure IsText (s : String) : Prop where
  nonempty : s ≠ ""
  start : ∀ c ∈ s.toList.head?, Text.isBlank c = false
  finish : ∀ c ∈ s.toList.getLast?, Text.isBlank c = false

/-- All texts of a dependency are such texts. -/
structure IsDependency (d : Dependency) : Prop where
  group : IsText d.group
  artifact : IsText d.artifact
  version : ∀ v ∈ d.version, IsText v

/-! ### Reading it back -/

variable {c : Content} {sections : List Section} {s : String}

theorem textOf_leaf {tag : String} (start : ∀ c ∈ s.toList.head?, Text.isBlank c = false)
    (finish : ∀ c ∈ s.toList.getLast?, Text.isBlank c = false) : textOf (some (leaf tag s)) = s := by
  rw [textOf, Option.map_some, leaf, Element.text_mk, Option.getD_some, Text.trim_eq_self start finish,
    String.ofList_toList]

theorem IsText.textOf (h : IsText s) (tag : String) : Pom.textOf (some (leaf tag s)) = s :=
  textOf_leaf h.start h.finish

theorem IsText.nonEmpty (h : IsText s) : Pom.nonEmpty s = some s := by
  simp [Pom.nonEmpty, h.nonempty]

theorem dependencyOf_element {d : Dependency} (h : IsDependency d) :
    dependencyOf (dependencyElement d) = d := by
  obtain ⟨group, artifact, version⟩ := d
  have isGroup := h.group.textOf "groupId"
  have isArtifact := h.artifact.textOf "artifactId"
  cases version with
  | none =>
    have first : (dependencyElement ⟨group, artifact, none⟩).child? "groupId" =
      some (leaf "groupId" group) := rfl
    have second : (dependencyElement ⟨group, artifact, none⟩).child? "artifactId" =
        some (leaf "artifactId" artifact) := rfl
    have third : (dependencyElement ⟨group, artifact, none⟩).child? "version" = none := rfl
    rw [dependencyOf, childText, childText, childText, first, second, third, isGroup, isArtifact]
    rfl
  | some v =>
    have isVersion := h.version v rfl
    have first : (dependencyElement ⟨group, artifact, some v⟩).child? "groupId" =
      some (leaf "groupId" group) := rfl
    have second : (dependencyElement ⟨group, artifact, some v⟩).child? "artifactId" =
        some (leaf "artifactId" artifact) := rfl
    have third : (dependencyElement ⟨group, artifact, some v⟩).child? "version" =
      some (leaf "version" v) := rfl
    rw [dependencyOf, childText, childText, childText, first, second, third, isGroup, isArtifact,
      isVersion.textOf, isVersion.nonEmpty]

theorem flatMap_of_nodup {α : Type} {f : Section → List α} {order : List Section}
    (once : order.Nodup) {s : Section}
    (others : ∀ t, t ≠ s → f t = []) : order.flatMap f = if s ∈ order then f s else [] := by
  induction order with
  | nil => rfl
  | cons t order ih =>
    rw [List.nodup_cons] at once
    rw [List.flatMap_cons, ih once.2]
    by_cases same : t = s
    · subst same
      rw [if_neg once.1, List.append_nil, if_pos List.mem_cons_self]
    · rw [others t same, List.nil_append]
      simp only [List.mem_cons, Ne.symm same, false_or]

/-- What only one section tells is told of the pom as it is of the section. -/
theorem flatMap_sections {α : Type} {f : Section → List α} (covered : c.Covered sections) (s : Section)
    (others : ∀ t, t ≠ s → f t = []) (nothing : ¬ s.IsNeeded c → f s = []) : sections.flatMap f = f s := by
  rw [flatMap_of_nodup covered.once others]
  split
  · rfl
  next absent => exact (nothing (mt (covered.needed s) absent)).symm

theorem all_node (tag : String) (children : List Element) :
    (node tag children).all = node tag children :: children.flatMap Element.all := Element.all_mk

theorem all_leaf (tag text : String) : (leaf tag text).all = [leaf tag text] := Element.all_mk

theorem filterMap_node {f : Element → Option String} {tag : String} {children : List Element}
    (h : f (node tag children) = none) :
    (node tag children).all.filterMap f = children.flatMap fun e => e.all.filterMap f := by
  rw [all_node, List.filterMap_cons_none h, List.filterMap_flatMap]

theorem moduleOf?_of_tag (h : e.tag ≠ "module".toList) : moduleOf? e = none :=
  if_neg fun same => h (eq_of_beq same)

theorem pluginOf?_of_tag (h : e.tag ≠ "plugin".toList) : pluginOf? e = none :=
  if_neg fun same => h (eq_of_beq same)

/-- The tags of dependencies. -/
def dependencyTags : List (List Char) :=
  ["dependencies".toList, "dependency".toList, "groupId".toList, "artifactId".toList, "version".toList]

/-- The tags of a section. -/
def Section.tags : Section → List (List Char)
  | modules => ["modules".toList, "module".toList]
  | dependencies => dependencyTags
  | management => "dependencyManagement".toList :: dependencyTags
  | build => ["build".toList, "plugins".toList, "plugin".toList, "artifactId".toList]

theorem tag_mem_dependencies {ds : List Dependency}
    (h : e ∈ (node "dependencies" (ds.map dependencyElement)).all) :
    e.tag ∈ dependencyTags := by
  rw [all_node, List.mem_cons, List.flatMap_map, List.mem_flatMap] at h
  rcases h with rfl | ⟨⟨group, artifact, version⟩, -, h⟩
  · exact List.mem_cons_self
  have tags : ∀ t ∈ (dependencyElement ⟨group, artifact, version⟩).all.map Element.tag,
      t ∈ dependencyTags := by
    cases version with
    | none =>
      change ∀ t ∈ ["dependency".toList, "groupId".toList, "artifactId".toList], t ∈ dependencyTags
      decide
    | some v =>
      change ∀ t ∈ ["dependency".toList, "groupId".toList, "artifactId".toList, "version".toList],
        t ∈ dependencyTags
      decide
  exact tags _ (List.mem_map_of_mem h)

theorem tag_mem_tags {s : Section} (h : e ∈ (s.element c).all) : e.tag ∈ s.tags := by
  cases s with
  | modules =>
    rw [Section.element, all_node, List.mem_cons, List.flatMap_map, List.mem_flatMap] at h
    rcases h with rfl | ⟨m, -, h⟩
    · exact List.mem_cons_self
    · rw [all_leaf, List.mem_singleton] at h
      rw [h]
      exact List.mem_cons_of_mem _ List.mem_cons_self
  | dependencies => exact tag_mem_dependencies h
  | management =>
    rw [Section.element, all_node, List.mem_cons, List.flatMap_singleton] at h
    rcases h with rfl | h
    · exact List.mem_cons_self
    · exact List.mem_cons_of_mem _ (tag_mem_dependencies h)
  | build =>
    have ofPlugin {a : String} (h : e ∈ (pluginElement a).all) : e.tag ∈ Section.build.tags := by
      have tags : ∀ t ∈ (pluginElement a).all.map Element.tag, t ∈ Section.build.tags := by
        change ∀ t ∈ ["plugin".toList, "artifactId".toList], t ∈ Section.build.tags
        decide
      exact tags _ (List.mem_map_of_mem h)
    rw [Section.element, all_node, List.mem_cons, List.flatMap_singleton, all_node, List.mem_cons,
      List.flatMap_map, List.mem_flatMap] at h
    rcases h with rfl | rfl | ⟨a, -, h⟩
    · exact List.mem_cons_self
    · exact List.mem_cons_of_mem _ List.mem_cons_self
    · exact ofPlugin h

/-- What is told of one section only is what is told of the pom. -/
theorem filterMap_element {f : Element → Option String} {name : List Char}
    (covered : c.Covered sections) (s : Section)
    (only : ∀ e : Element, e.tag ≠ name → f e = none) (absent : name ≠ "project".toList)
    (others : ∀ t, t ≠ s → name ∉ t.tags) (nothing : ¬ s.IsNeeded c → (s.element c).all.filterMap f = []) :
    (c.element sections).all.filterMap f = (s.element c).all.filterMap f := by
  rw [Content.element, filterMap_node (only _ absent.symm), List.flatMap_map]
  refine flatMap_sections covered s (fun t ht => ?_) nothing
  refine List.filterMap_eq_nil_iff.2 fun e h => only e fun same => others t ht (same ▸ tag_mem_tags h)

/-- The modules of a pom are listed in their order. An empty entry is not. -/
theorem modules_element (covered : c.Covered sections) :
    (ofElement (c.element sections)).modules = c.modules.filterMap fun m =>
      nonEmpty (textOf (some (leaf "module" m))) := by
  have listed : (Section.modules.element c).all.filterMap moduleOf? =
      c.modules.filterMap fun m => nonEmpty (textOf (some (leaf "module" m))) := by
    rw [Section.element, filterMap_node
      (moduleOf?_of_tag (show "modules".toList ≠ "module".toList by decide)), List.flatMap_map]
    rw [List.filterMap_eq_flatMap_toList]
    refine List.flatMap_congr fun m _ => ?_
    have named : moduleOf? (leaf "module" m) = nonEmpty (textOf (some (leaf "module" m))) := if_pos rfl
    rw [all_leaf, List.filterMap_cons, named]
    cases nonEmpty (textOf (some (leaf "module" m))) <;> rfl
  have others : ∀ t, t ≠ Section.modules → "module".toList ∉ t.tags := by
    rintro (_ | _ | _ | _) other
    · exact absurd rfl other
    all_goals decide
  rw [modules_eq, filterMap_element covered .modules (fun e => moduleOf?_of_tag) (by decide) others, listed]
  intro nothing
  rw [listed, not_not.1 nothing]
  rfl

theorem plugins_element (covered : c.Covered sections) :
    (ofElement (c.element sections)).plugins = c.plugins.map fun a =>
      textOf (some (leaf "artifactId" a)) := by
  have ofNode {tag : String} {children : List Element} (h : tag.toList ≠ "plugin".toList) :
      pluginOf? (node tag children) = none := pluginOf?_of_tag h
  have listed : (Section.build.element c).all.filterMap pluginOf? =
      c.plugins.map fun a => textOf (some (leaf "artifactId" a)) := by
    rw [Section.element, filterMap_node (ofNode (by decide)), List.flatMap_singleton,
      filterMap_node (ofNode (by decide)), List.flatMap_map, ← List.flatMap_pure_eq_map]
    exact List.flatMap_congr fun a _ => rfl
  have others : ∀ t, t ≠ Section.build → "plugin".toList ∉ t.tags := by
    rintro (_ | _ | _ | _) other
    case build => exact absurd rfl other
    all_goals decide
  rw [plugins_eq, filterMap_element covered .build (fun e => pluginOf?_of_tag) (by decide) others, listed]
  intro nothing
  rw [listed, not_not.1 nothing]
  rfl

theorem dependencies_element (covered : c.Covered sections) :
    (ofElement (c.element sections)).dependencies = c.dependencies.map fun d =>
      dependencyOf (dependencyElement d) := by
  have tags :
      (fun s : Section => (s.element c).tag == "dependencies".toList) = fun s => s == .dependencies :=
    funext fun s => by cases s <;> rfl
  have children : (c.element sections).childrenNamed "dependencies" =
      (sections.filter (· == .dependencies)).map (Section.element c) := by
    rw [Content.element, node, Element.childrenNamed, Element.children_mk, List.filter_map]
    exact congrArg (fun p => (sections.filter p).map (Section.element c)) tags
  have listed :
      (Section.dependencies.element c).childrenNamed "dependency" =
        c.dependencies.map dependencyElement := by
    rw [Section.element, node, Element.childrenNamed, Element.children_mk, List.filter_map]
    exact congrArg _ (List.filter_eq_self.2 fun d _ => rfl)
  change (((c.element sections).childrenNamed "dependencies").flatMap
    (·.childrenNamed "dependency")).map dependencyOf = _
  rw [children, List.filter_beq, List.flatMap_map]
  by_cases mem : Section.dependencies ∈ sections
  · rw [covered.once.count, if_pos mem, List.replicate_one, List.flatMap_singleton, listed, List.map_map]
    rfl
  · have nothing : c.dependencies = [] := not_not.1 (mt (covered.needed .dependencies) mem)
    rw [List.count_eq_zero.2 mem, nothing]
    rfl

/-! ## Documents -/

/-- A pom is read as the elements that its document spells. -/
theorem parse_document {n : Naming} {document : List Char} (proper : n.IsProper)
    (h : IsDocument n document e) :
    parse document = .ok (ofElement e) := by
  obtain ⟨e', parsed, same⟩ := h.parse proper
  rw [parse, parsed, Except.map, ← ofElement_trimmed e', same, ofElement_trimmed]

/-- However a pom is written, its modules, its plugins and its direct dependencies are read back in their
order, and none of the dependencies that are only managed. The texts may be written with references, with
white space around them and with comments before and after them, and so may the elements; all elements may
be in one namespace, unless it or its prefix is reserved. -/
theorem content_reads_back {c : Content} {sections : List Section} {n : Naming} {document : List Char}
    (covered : c.Covered sections) (modules : ∀ m ∈ c.modules, IsText m)
    (plugins : ∀ a ∈ c.plugins, IsText a)
    (dependencies : ∀ d ∈ c.dependencies, IsDependency d) (proper : n.IsProper)
    (written : IsDocument n document (c.element sections)) :
    parse document = .ok ⟨c.modules, c.plugins, c.dependencies⟩ := by
  have sameModules :
      (c.modules.filterMap fun m => nonEmpty (textOf (some (leaf "module" m)))) = c.modules := by
    rw [List.filterMap_congr (g := some) fun m hm => by rw [(modules m hm).textOf, (modules m hm).nonEmpty],
      List.filterMap_some]
  have samePlugins : (c.plugins.map fun a => textOf (some (leaf "artifactId" a))) = c.plugins := by
    rw [List.map_congr_left fun a ha => (plugins a ha).textOf "artifactId", List.map_id']
  have sameDependencies :
      (c.dependencies.map fun d => dependencyOf (dependencyElement d)) = c.dependencies := by
    rw [List.map_congr_left fun d hd => dependencyOf_element (dependencies d hd), List.map_id']
  have read : ofElement (c.element sections) = ⟨c.modules, c.plugins, c.dependencies⟩ := by
    have same := congr (congr (congrArg Pom.mk ((modules_element covered).trans sameModules))
      ((plugins_element covered).trans samePlugins)) ((dependencies_element covered).trans sameDependencies)
    exact same
  rw [parse_document proper written, read]

/-- A pom with a prefix, whose only module is written with a reference and before a comment. -/
theorem content_reads_back_prefixed :
    let c : Content := { modules := ["a<b"] }
    let n : Naming := .prefixed "p".toList "u".toList
    let document :=
      ("<p:project xmlns:p='u'><p:modules>\n<p:module> a&lt;b<!-- d --></p:module></p:modules>" ++
      "</p:project>").toList
    IsDocument n document (c.element [.modules]) ∧ parse document = .ok ⟨["a<b"], [], []⟩ := by
  intro c n document
  have spelled : Spells IsPlain "a&lt;b".toList "a<b".toList :=
    .plain (by decide) (@Spells.reference _ "lt".toList _ _ _ (by decide) (.plain (by decide) .nil))
  have comment : IsGap IsWhite "<!-- d -->".toList :=
    @IsGap.comment _ " d ".toList _ ⟨List.all_eq_true.1 rfl, by decide⟩ .nil
  let module : Child := ⟨"\n".toList, "module".toList, " a&lt;b<!-- d -->".toList, "a<b".toList, []⟩
  let modules : Child :=
    ⟨[], "modules".toList, "\n<p:module> a&lt;b<!-- d --></p:module>".toList, [], [module.element]⟩
  have entry : Holds n.qualifier? module.inside module.text module.children :=
    .text (.blank (by decide) .nil) spelled comment
  have listed : Holds n.qualifier? modules.inside modules.text modules.children :=
    @Holds.children _ [module] _ (forall_mem_singleton.2 (.mk rfl (List.all_eq_true.1 rfl)))
      (forall_mem_singleton.2 (.blank (by decide) .nil)) (forall_mem_singleton.2 entry) .nil
  have holds := @Holds.children n.qualifier? [modules] _ (forall_mem_singleton.2 (.mk rfl (List.all_eq_true.1 rfl)))
    (forall_mem_singleton.2 .nil) (forall_mem_singleton.2 listed) .nil
  have declares : n.Declares " xmlns:p='u'".toList :=
    @Naming.Declares.byAttribute n ⟨some "xmlns".toList, "p".toList⟩ _ " ".toList "u".toList '\x27' rfl
      (by decide) (List.all_eq_true.1 rfl) rfl (.plain (by decide) .nil)
  have written : IsDocument n document (c.element [.modules]) :=
    @IsDocument.mk n [] _ _ _ _ "project".toList _ (.mk rfl (List.all_eq_true.1 rfl)) (.gap .nil) declares holds .nil
  have covered : c.Covered [.modules] :=
    ⟨by decide, by rintro (_ | _ | _ | _) needed <;> simp_all [Section.IsNeeded, c]⟩
  have isText : IsText "a<b" :=
    ⟨by decide, fun c hc => Option.some.inj hc ▸ rfl, fun c hc => Option.some.inj hc ▸ rfl⟩
  have proper : n.IsProper := ⟨⟨by decide, by decide⟩, .mk rfl (List.all_eq_true.1 rfl), by decide, by decide, by decide⟩
  exact ⟨written, content_reads_back covered (by simpa [c] using isText) (by simp [c])
    (by simp [c]) proper written⟩

theorem parse_reserved : (parse
    "<project xmlns=\"http://www.w3.org/XML/1998/namespace\"><modules></modules></project>".toList).toOption =
      none := by decide +kernel

/-- In a reserved namespace a pom cannot be read. -/
theorem reserved_unread :
    let n : Naming := .default xmlNamespace.toList
    let document :=
      "<project xmlns=\"http://www.w3.org/XML/1998/namespace\"><modules></modules></project>".toList
    Naming.IsSpaceName xmlNamespace.toList ∧ IsDocument n document (({} : Content).element [.modules]) ∧
      (parse document).toOption = none := by
  intro n document
  have holds : Holds n.qualifier? "<modules></modules>".toList [] [leaf "modules" ""] :=
    @Holds.children _ [⟨[], "modules".toList, [], [], []⟩] _ (forall_mem_singleton.2 (.mk rfl (List.all_eq_true.1 rfl)))
      (forall_mem_singleton.2 .nil) (forall_mem_singleton.2 (.text .nil .nil .nil)) .nil
  have each : xmlNamespace.toList.all fun c => decide (IsInValue '"' c) := by decide +kernel
  have value : Spells (IsInValue '"') xmlNamespace.toList xmlNamespace.toList :=
    spells_plain fun c hc => of_decide_eq_true (List.all_eq_true.1 each c hc)
  have declares : n.Declares " xmlns=\"http://www.w3.org/XML/1998/namespace\"".toList :=
    @Naming.Declares.byAttribute n
      ⟨none, "xmlns".toList⟩ _ " ".toList _ '"' rfl (by decide) (List.all_eq_true.1 rfl) rfl value
  have written : IsDocument n document (({} : Content).element [.modules]) :=
    @IsDocument.mk n [] _ _ _ _ "project".toList _ (.mk rfl (List.all_eq_true.1 rfl)) (.gap .nil) declares holds .nil
  exact ⟨⟨by decide, by decide⟩, written, parse_reserved⟩

end ModuleAudit.Pom
