import ModuleAudit.Checks.Packaging
import ModuleAudit.Proofs.Answer
import ModuleAudit.Proofs.Connector.Pom

/-!
# Management sections of poms

A pom's management sections say how dependencies and plugins are to be set up where they are used; they
use nothing themselves. `Element.unmanaged` empties these sections, and `Element.managed` lists the elements
inside them.

* `dependencies_unmanaged`: no managed dependency is taken for a direct one;
* `mem_plugins_iff`: a plugin is taken for configured if it is outside of the management sections or inside;
* `management_unnoticed`: so what the sections hold does not matter to the checks of versions, and matters
  to that of the shade plugin exactly where only management speaks of this plugin.
-/

namespace ModuleAudit

open ModuleAudit.Markup (Element)

namespace Markup.Element

/-- The tags of management sections. -/
def managing : List (List Char) := ["dependencyManagement".toList, "pluginManagement".toList]

mutual

/-- The element with its management sections emptied. -/
def unmanaged (e : Element) : Element :=
  match e with
  | mk tag text children =>
    if managing.contains tag then mk tag [] [] else mk tag text (unmanagedOf children)

/-- Some elements with their management sections emptied. -/
def unmanagedOf : List Element → List Element
  | [] => []
  | e :: es => unmanaged e :: unmanagedOf es

end

mutual

/-- The elements inside the management sections of an element, in the order of the document. -/
def managed (e : Element) : List Element :=
  match e with
  | mk tag _ children => if managing.contains tag then allOf children else managedOf children

/-- The elements inside the management sections of some elements. -/
def managedOf : List Element → List Element
  | [] => []
  | e :: es => managed e ++ managedOf es

end

variable {e : Element} {tag text : List Char} {children : List Element}

theorem unmanagedOf_eq (es : List Element) : unmanagedOf es = es.map unmanaged := by
  induction es with
  | nil => rfl
  | cons e es ih => rw [unmanagedOf, ih, List.map_cons]

theorem managedOf_eq (es : List Element) : managedOf es = es.flatMap managed := by
  induction es with
  | nil => rfl
  | cons e es ih => rw [managedOf, ih, List.flatMap_cons]

theorem unmanaged_section (h : tag ∈ managing) : (mk tag text children).unmanaged = mk tag [] [] := by
  rw [unmanaged, if_pos (List.contains_iff_mem.2 h)]

theorem unmanaged_other (h : tag ∉ managing) :
    (mk tag text children).unmanaged = mk tag text (children.map unmanaged) := by
  rw [unmanaged, if_neg (mt List.contains_iff_mem.1 h), unmanagedOf_eq]

theorem managed_section (h : tag ∈ managing) : (mk tag text children).managed = children.flatMap all := by
  rw [managed, if_pos (List.contains_iff_mem.2 h), allOf_eq]

theorem managed_other (h : tag ∉ managing) : (mk tag text children).managed = children.flatMap managed := by
  rw [managed, if_neg (mt List.contains_iff_mem.1 h), managedOf_eq]

@[simp] theorem tag_unmanaged (e : Element) : e.unmanaged.tag = e.tag := by
  obtain ⟨tag, text, children⟩ := e
  rw [unmanaged]
  split <;> rfl

theorem text_unmanaged (h : e.tag ∉ managing) : e.unmanaged.text = e.text := by
  obtain ⟨tag, text, children⟩ := e
  rw [tag_mk] at h
  rw [unmanaged_other h]
  rfl

theorem child?_unmanaged (h : e.tag ∉ managing) (name : String) :
    e.unmanaged.child? name = (e.child? name).map unmanaged := by
  obtain ⟨tag, text, children⟩ := e
  rw [tag_mk] at h
  rw [unmanaged_other h, child?_map tag_unmanaged]

theorem childrenNamed_unmanaged (h : e.tag ∉ managing) (name : String) :
    e.unmanaged.childrenNamed name = (e.childrenNamed name).map unmanaged := by
  obtain ⟨tag, text, children⟩ := e
  rw [tag_mk] at h
  rw [unmanaged_other h, childrenNamed_map tag_unmanaged]

end Markup.Element

open Markup.Element (leaf managing node unmanaged)

/-! ## What is read of a pom -/

namespace Pom

variable {e e' : Element} {name : String}

theorem textOf_child_unmanaged (h : e.tag ∉ managing) (other : name.toList ∉ managing) :
    textOf (e.unmanaged.child? name) = textOf (e.child? name) := by
  rw [Element.child?_unmanaged h]
  cases found : e.child? name with
  | none => rfl
  | some c =>
    rw [Option.map_some, textOf, textOf, Option.map_some, Option.map_some]
    rw [Element.text_unmanaged (Element.tag_of_child? found ▸ other)]

theorem dependencyOf_unmanaged (h : e.tag ∉ managing) : dependencyOf e.unmanaged = dependencyOf e := by
  simp only [dependencyOf, childText]
  rw [textOf_child_unmanaged h (by decide), textOf_child_unmanaged h (by decide),
    textOf_child_unmanaged h (by decide)]

/-- Direct dependencies are told by what is outside of management sections. -/
theorem dependencies_unmanaged (h : e.tag ∉ managing) :
    (ofElement e.unmanaged).dependencies = (ofElement e).dependencies := by
  have listed {name : String} (other : name.toList ∉ managing) {e c : Element}
      (mem : c ∈ e.childrenNamed name) : c.tag ∉ managing :=
    Element.tag_of_mem_childrenNamed mem ▸ other
  rw [ofElement, ofElement]
  dsimp only
  rw [Element.childrenNamed_unmanaged h, List.flatMap_map, List.map_flatMap, List.map_flatMap]
  refine List.flatMap_congr fun group inRoot => ?_
  rw [Element.childrenNamed_unmanaged (listed (by decide) inRoot), List.map_map]
  exact List.map_congr_left fun d inGroup => dependencyOf_unmanaged (listed (by decide) inGroup)

/-- The plugins that the management sections of a pom name. -/
def managedPlugins (e : Element) : List String := e.managed.filterMap pluginOf?

theorem pluginOf?_unmanaged (e : Element) : pluginOf? e.unmanaged = pluginOf? e := by
  rw [pluginOf?, pluginOf?, Element.tag_unmanaged]
  split
  next isPlugin =>
    have plain : e.tag ∉ managing := beq_iff_eq.1 isPlugin ▸ by decide
    rw [Element.child?_unmanaged plain]
    cases found : e.child? "artifactId" with
    | none => rfl
    | some c =>
      have other : c.tag ∉ managing := Element.tag_of_child? found ▸ by decide
      simp only [Option.map_some, textOf, Element.text_unmanaged other]
  next => rfl

theorem mem_plugins_mk {tag text : List Char} {children : List Element} :
    name ∈ (ofElement (.mk tag text children)).plugins ↔
      pluginOf? (.mk tag text children) = some name ∨ ∃ c ∈ children, name ∈ (ofElement c).plugins := by
  simp only [plugins_eq, Element.all_mk, List.mem_filterMap, List.mem_cons, List.mem_flatMap]
  grind

theorem mem_managedPlugins_mk {tag text : List Char} {children : List Element} (h : tag ∉ managing) :
    name ∈ managedPlugins (.mk tag text children) ↔ ∃ c ∈ children, name ∈ managedPlugins c := by
  simp only [managedPlugins, Element.managed_other h, List.mem_filterMap, List.mem_flatMap]
  grind

/-- A plugin is taken for configured wherever it stands. -/
theorem mem_plugins_iff (e : Element) :
    name ∈ (ofElement e).plugins ↔ name ∈ (ofElement e.unmanaged).plugins ∨ name ∈ managedPlugins e := by
  induction e using Element.ofChildren with
  | step tag text children ih =>
    have same := pluginOf?_unmanaged (.mk tag text children)
    by_cases h : tag ∈ managing
    · have noPlugin : pluginOf? (.mk tag text children) = none := by
        refine if_neg fun isPlugin => ?_
        rw [Element.tag_mk, beq_iff_eq] at isPlugin
        exact absurd (isPlugin ▸ h) (by decide)
      rw [Element.unmanaged_section h] at same ⊢
      rw [mem_plugins_mk, mem_plugins_mk, same, noPlugin, managedPlugins, Element.managed_section h]
      simp only [plugins_eq, List.mem_filterMap, List.mem_flatMap]
      grind
    · rw [Element.unmanaged_other h] at same ⊢
      rw [mem_plugins_mk, mem_plugins_mk, same, mem_managedPlugins_mk h]
      grind

end Pom

/-! ## The checks of poms -/

/-- The files with another pom of the module. -/
def FileSet.withManifest (f : FileSet) (m : TextFile) : FileSet := { f with manifest := some m }

namespace Packaging

variable {f : FileSet} {m m' : TextFile} {e e' : Element} {settings : Settings} {s : Surroundings}
  {j : Journal}

theorem start_ofManifest (reads : Element.parse m.text = .ok e) (check : Pom → Verdict) :
    (ofManifest check (f.withManifest m) settings).start s j = (.ok (check (.ofElement e)), j) := by
  have parsed : Pom.parse m.text = .ok (.ofElement e) := by rw [Pom.parse, reads]; rfl
  simp only [ofManifest, FileSet.withManifest, readPom, parsed, Inspect.start_bind, Inspect.start_pure]

/-- The plugin that packs a module with its dependencies. -/
def packer : String := "maven-shade-plugin"

theorem start_shadePlugin_alike (reads : Element.parse m.text = .ok e)
    (reads' : Element.parse m'.text = .ok e') :
    (shadePlugin (f.withManifest m) settings).start s j =
      (shadePlugin (f.withManifest m') settings).start s j ↔
      (packer ∈ (Pom.ofElement e).plugins ↔ packer ∈ (Pom.ofElement e').plugins) := by
  rw [shadePlugin, start_ofManifest reads, start_ofManifest reads', ← List.contains_iff_mem,
    ← List.contains_iff_mem, packer]
  cases (Pom.ofElement e).plugins.contains "maven-shade-plugin" <;>
    cases (Pom.ofElement e').plugins.contains "maven-shade-plugin" <;> simp [Verdict.ok, Verdict.violation]

end Packaging

open Packaging (managedVersions internalVersions shadePlugin packer)

/-- Let two poms differ only in what their management sections hold. Then no dependency of theirs is one
that is only managed, and the checks of versions come to the same verdict on both. The check of the shade
plugin does exactly if the plugin is configured outside of the sections, or if both or neither of the
poms manage it: a plugin that is only managed is taken for configured. -/
theorem management_unnoticed {f : FileSet} {m m' : TextFile} {e e' : Element}
    (reads : Element.parse m.text = .ok e) (reads' : Element.parse m'.text = .ok e')
    (root : e.tag ∉ managing) (same : e.unmanaged = e'.unmanaged) (settings : Settings)
    (s : Surroundings) (j : Journal) :
    (Pom.ofElement e).dependencies = (Pom.ofElement e.unmanaged).dependencies ∧
      (managedVersions (f.withManifest m) settings).start s j =
        (managedVersions (f.withManifest m') settings).start s j ∧
      (internalVersions (f.withManifest m) settings).start s j =
        (internalVersions (f.withManifest m') settings).start s j ∧
      ((shadePlugin (f.withManifest m) settings).start s j =
          (shadePlugin (f.withManifest m') settings).start s j ↔
        packer ∈ (Pom.ofElement e.unmanaged).plugins ∨
          (packer ∈ Pom.managedPlugins e ↔ packer ∈ Pom.managedPlugins e')) := by
  have root' : e'.tag ∉ managing := by rwa [← Element.tag_unmanaged e', ← same, Element.tag_unmanaged]
  have direct : (Pom.ofElement e).dependencies = (Pom.ofElement e').dependencies := by
    rw [← Pom.dependencies_unmanaged root, same, Pom.dependencies_unmanaged root']
  refine ⟨(Pom.dependencies_unmanaged root).symm, ?_, ?_, ?_⟩
  · simp only [managedVersions, Packaging.start_ofManifest reads, Packaging.start_ofManifest reads', direct]
  · simp only [internalVersions, Packaging.start_ofManifest reads, Packaging.start_ofManifest reads',
      direct]
  · rw [Packaging.start_shadePlugin_alike reads reads', Pom.mem_plugins_iff e, Pom.mem_plugins_iff e', same]
    by_cases outside : packer ∈ (Pom.ofElement e'.unmanaged).plugins
    · simp only [outside, true_or]
    · simp only [outside, false_or]

/-- Two poms that configure the shade plugin. One of them manages a version. -/
theorem management_unnoticed_configured :
    let plugins := node "plugins" [node "plugin" [leaf "artifactId" "maven-shade-plugin"]]
    let pom (managed : List Element) : Element :=
      node "project" [node "dependencyManagement" managed, plugins]
    let m : TextFile :=
      ⟨⟨0, ["pom.xml"]⟩, ("<project><dependencyManagement><version>1</version></dependencyManagement>" ++
      "<plugins><plugin><artifactId>maven-shade-plugin</artifactId></plugin></plugins></project>").toList⟩
    let m' : TextFile := ⟨⟨0, ["pom.xml"]⟩, ("<project><dependencyManagement/>" ++
      "<plugins><plugin><artifactId>maven-shade-plugin</artifactId></plugin></plugins></project>").toList⟩
    Element.parse m.text = .ok (pom [leaf "version" "1"]) ∧ Element.parse m'.text = .ok (pom []) ∧
      (pom [leaf "version" "1"]).unmanaged = (pom []).unmanaged ∧
      ∀ (f : FileSet) (settings : Settings) (s : Surroundings) (j : Journal),
        (managedVersions (f.withManifest m) settings).start s j =
            (managedVersions (f.withManifest m') settings).start s j ∧
          (shadePlugin (f.withManifest m) settings).start s j =
            (shadePlugin (f.withManifest m') settings).start s j := by
  intro plugins pom m m'
  have reads : Element.parse m.text = .ok (pom [leaf "version" "1"]) := toOption_eq_some.1 (by decide +kernel)
  have reads' : Element.parse m'.text = .ok (pom []) := toOption_eq_some.1 (by decide +kernel)
  have same : (pom [leaf "version" "1"]).unmanaged = (pom []).unmanaged := rfl
  refine ⟨reads, reads', same, fun f settings s j => ?_⟩
  obtain ⟨-, versions, -, plugin⟩ :=
    management_unnoticed (f := f) reads reads' (by decide) same settings s j
  have configured : packer ∈ (Pom.ofElement (pom [leaf "version" "1"]).unmanaged).plugins := by decide
  exact ⟨versions, plugin.2 (.inl configured)⟩

/-- A pom that only manages the shade plugin passes for one that configures it. Without what its section
holds it does not. -/
theorem managed_passes_for_configured :
    let plugin := node "plugin" [leaf "artifactId" "maven-shade-plugin"]
    let pom (managed : List Element) : Element := node "project" [node "pluginManagement" managed]
    let m : TextFile := ⟨⟨0, ["pom.xml"]⟩, ("<project><pluginManagement><plugin>" ++
      "<artifactId>maven-shade-plugin</artifactId></plugin></pluginManagement></project>").toList⟩
    let m' : TextFile := ⟨⟨0, ["pom.xml"]⟩, "<project><pluginManagement/></project>".toList⟩
    Element.parse m.text = .ok (pom [plugin]) ∧ Element.parse m'.text = .ok (pom []) ∧
      (pom [plugin]).unmanaged = (pom []).unmanaged ∧
      ∀ (f : FileSet) (settings : Settings) (s : Surroundings) (j : Journal),
        (shadePlugin (f.withManifest m) settings).start s j = (.ok (.ok "found maven-shade-plugin"), j) ∧
          (shadePlugin (f.withManifest m') settings).start s j =
            (.ok (.violation
              "maven-shade-plugin is not configured; the uber-jar will be missing dependencies"), j) := by
  intro plugin pom m m'
  have reads : Element.parse m.text = .ok (pom [plugin]) := toOption_eq_some.1 (by decide +kernel)
  have reads' : Element.parse m'.text = .ok (pom []) := toOption_eq_some.1 (by decide +kernel)
  refine ⟨reads, reads', rfl, fun f settings s j => ⟨?_, ?_⟩⟩
  · rw [shadePlugin, Packaging.start_ofManifest reads]
    rfl
  · rw [shadePlugin, Packaging.start_ofManifest reads']
    rfl

end ModuleAudit
