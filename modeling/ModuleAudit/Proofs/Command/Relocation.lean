import ModuleAudit.Proofs.Catalog.Unconditional
import ModuleAudit.Proofs.Command.LineEnds
import ModuleAudit.Proofs.Connector.Relocation
import ModuleAudit.Proofs.Inspection.Looks

/-!
# Runs in another place

Two runs look at one connector in two checkouts with the same content (`Surroundings.Relocated`). All
that a run with the bundled catalog does with the root is to reach files, to run other programs there,
and to name the two places that the verdicts on the icon and on the parent pom name. So both runs are
refused, or their reports agree (`Report.Agrees`): `reportOn_relocated`.

That takes room for the paths (`Module.HasRoom`): where the path of the module is too long for the
system, a run ends with a fault that is not about the connector (`reportOn_long`). It also takes a
display name that leads to icons (`Naming.PlainIcons`): one with dots and slashes leads out of them, and
so the name of the checkout may decide on the icon (`climbing_icon`).
-/

namespace ModuleAudit

open ModuleAudit.Catalog.Bundled (FromBundled)
open ModuleAudit.Audit (Bundled concludedOf toRuleCheck_answer findings_alike)

/-! ## The answer after a step -/

namespace Inspect

variable {α β : Type} {x : Inspect α} {next : α → Inspect β} {s : Surroundings} {j : Journal}

theorem start_bind_of_error {e : Fault} (h : (x.start s j).1 = .error e) :
    ((x >>= next).start s j).1 = .error e := by
  rw [start_bind]
  generalize x.start s j = answer at h
  obtain ⟨_, _⟩ := answer
  obtain rfl := h
  rfl

theorem start_bind_of_ok {a : α} (next : α → Inspect β) (h : (x.start s j).1 = .ok a) :
    ∃ j', ((x >>= next).start s j).1 = ((next a).start s j').1 := by
  rw [start_bind]
  generalize x.start s j = answer at h
  obtain ⟨_, j'⟩ := answer
  obtain rfl := h
  exact ⟨j', rfl⟩

end Inspect

theorem any_toOption {ε α : Type} {x : Except ε α} {p : α → Bool} :
    x.toOption.any p = true ↔ ∃ a, x = .ok a ∧ p a = true := by
  cases x <;> simp [Except.toOption]

theorem FileTree.files_under (way : List String) (bytes : List UInt8) :
    (under way (.file bytes)).files = [(way, bytes)] := by
  induction way with
  | nil => rw [under, List.foldr_nil, files]
  | cons name way ih =>
    rw [under] at ih ⊢
    rw [List.foldr_cons, files_directory, List.flatMap_singleton, ih]
    rfl


/-! ## Reports that agree -/

/-- Two findings agree, also in words unless the words name a place. -/
structure Finding.Agrees (f g : Finding) : Prop where
  ruleId : f.ruleId = g.ruleId
  title : f.title = g.title
  severity : f.severity = g.severity
  message : f.ruleId ≠ "CHK-108" → f.ruleId ≠ "CHK-401" → f.message = g.message
  remediation : f.remediation = g.remediation
  group : f.group = g.group

theorem Finding.Agrees.refl (f : Finding) : f.Agrees f := ⟨rfl, rfl, rfl, fun _ _ => rfl, rfl, rfl⟩

/-- Two reports agree on the kind of the connector, on what was found, on what it amounts to, and on how
the path of the connector class is shown. -/
structure Report.Agrees (r r' : Report) : Prop where
  classification : r.classification = r'.classification
  findings : List.Forall₂ Finding.Agrees r.findings r'.findings
  errorCount : r.errorCount = r'.errorCount
  warningCount : r.warningCount = r'.warningCount
  outcome : r.outcome = r'.outcome
  exitCode : r.exitCode = r'.exitCode
  primaryPath : r.primaryPath.map r.displayPath = r'.primaryPath.map r'.displayPath

/-- Two runs are refused, or come to reports that agree. -/
inductive SameReport : Except Fault Report → Except Fault Report → Prop
  | refused (cause cause' : InvocationCause) :
      SameReport (.error (.invocation cause)) (.error (.invocation cause'))
  | agree {r r' : Report} (agree : r.Agrees r') : SameReport (.ok r) (.ok r')

theorem SameReport.agree_of_mem {r r' : Report} (h : SameReport (.ok r) (.ok r')) {finding : Finding}
    (mem : finding ∈ r.findings) : ∃ finding' ∈ r'.findings, finding.Agrees finding' := by
  cases h with
  | agree agree =>
    have found := agree.findings
    generalize r.findings = fs, r'.findings = gs at found mem
    induction found with
    | nil => exact nomatch mem
    | cons first _ ih =>
      rcases List.mem_cons.1 mem with rfl | mem
      · exact ⟨_, List.mem_cons_self, first⟩
      · obtain ⟨finding', mem', here⟩ := ih mem
        exact ⟨finding', List.mem_cons_of_mem _ mem', here⟩

theorem Report.countOf_congr {fs gs : List Finding} (h : List.Forall₂ Finding.Agrees fs gs)
    (severity : Severity) : countOf severity fs = countOf severity gs := by
  induction h with
  | nil => rfl
  | cons first _ ih =>
    rw [countOf, countOf] at ih ⊢
    rw [List.countP_cons, List.countP_cons, ih, first.severity]

/-- The way to the connector class is shown, not where the checkout is. -/
theorem Report.displayPath_below {r : Report} {m : Module} (h : r.module = some m) (way : List String) :
    r.displayPath (m.directory.below way) = (Path.mk 0 way).toString := by
  have found : (m.directory.below way).relativeTo? m.directory = some ⟨0, way⟩ := by
    rw [Path.relativeTo?, Path.slashes_below, Path.parts_below, List.drop_left]
    simp
  rw [displayPath, h, Option.bind_some, found]

variable {s s' : Surroundings} {f g : FileSet} {settings : Settings} {r : Rule} {c : Classification}

/-! ## Findings -/

namespace Audit

theorem agrees_of_sameVerdict {x y : Except Fault Verdict} (h : SameVerdict r.id x y) :
    (concludedOf r (x >>= fun v => .ok (.verdict v))).Agrees
      (concludedOf r (y >>= fun v => .ok (.verdict v))) := by
  have severity : (r.concluded (x >>= fun v => .ok (.verdict v))).1 =
      (r.concluded (y >>= fun v => .ok (.verdict v))).1 := by
    rw [concluded_severity, concluded_severity, h.severity]
  refine ⟨rfl, rfl, severity, fun icon pom => ?_, ?_, rfl⟩
  · rw [h.verdict icon pom]
  · rw [concludedOf, concludedOf, severity]
    rfl

/-- The findings on a moved copy of a module agree. -/
theorem findings_moved {rules : List Rule} (bundled : ∀ r ∈ rules, Bundled r) (moved : f.Moved g)
    (alike : Module.SameAnswers s s' f.module g.module) (beside : settings.icons = .besideCheckout)
    (plain : Naming.PlainIcons f) (c : Classification) (j j' : Journal) :
    Alike (List.Forall₂ Finding.Agrees) ((findings rules settings f c).start s j).1
      ((findings rules settings g c).start s' j').1 := by
  refine findings_alike bundled j Finding.Agrees.refl j' fun r hr _ => ?_
  obtain ⟨entry, he, id, e⟩ := bundledRuleChecks_lookup (bundled r hr)
  have verdicts := bundled_moved moved alike beside plain entry he
  rw [← e, toRuleCheck_answer, toRuleCheck_answer]
  rw [id] at verdicts
  exact agrees_of_sameVerdict verdicts

end Audit

/-! ## Two checkouts -/

/-- Two roots of checkouts, each in its own surroundings: the same lies below both and among the icons
beside them, and other programs do the same in both. -/
structure Surroundings.Relocated (s s' : Surroundings) (root root' : Path) : Prop where
  proper : s.disk.top.IsProper
  proper' : s'.disk.top.IsProper
  found : ∃ t, s.disk.follow root = .ok t
  content : s.disk.contentAt? root = s'.disk.contentAt? root'
  icons : s.disk.contentAt? (Module.icons ⟨root, ""⟩) = s'.disk.contentAt? (Module.icons ⟨root', ""⟩)
  run : ∀ args timeout, s.run ⟨args, root, timeout⟩ = s'.run ⟨args, root', timeout⟩

/-- The root that is chosen is a directory at a place. -/
structure RootChoice.Leads (choice : RootChoice) (d : Disk) (root : Path) : Prop where
  directory : d.hasDirectory (choice.candidate d.current) = .ok true
  root : d.resolve (choice.candidate d.current) = root

theorem Disk.down_carryOut {done way : List String} (h : ".." ∉ done) : ".." ∉ carryOut done way := by
  induction way generalizing done with
  | nil => simpa [carryOut] using h
  | cons name way ih =>
    rw [carryOut]
    split
    · exact ih fun mem => h (List.drop_subset 1 done mem)
    next other =>
      refine ih ?_
      rw [List.mem_cons, not_or]
      exact ⟨fun e => other (by rw [← e]; rfl), h⟩

theorem RootChoice.Leads.down {choice : RootChoice} {d : Disk} {root : Path}
    (h : choice.Leads d root) : ".." ∉ root.parts := h.root ▸ Disk.down_carryOut nofun

/-- The module that a run looks at. -/
theorem RootChoice.Leads.module {choice : RootChoice} {root : Path} (h : choice.Leads s.disk root)
    (name : String) (j : Journal) :
    ∃ j', (choice.module name).start s j =
      (if isValidName name then .ok ⟨root, name⟩ else .error (.invocation (.invalidName name)), j') := by
  unfold RootChoice.module
  split
  · obtain ⟨j', resolved⟩ : ∃ j', choice.resolve.start s j =
        (.ok (choice.candidate s.disk.current), j') := by
      rw [resolve, Inspect.start_bind, Inspect.start_read]
      dsimp only
      rw [Inspect.start_bind, Inspect.start_hasDirectory, h.directory]
      exact ⟨_, rfl⟩
    refine ⟨j', ?_⟩
    rw [Inspect.start_bind, resolved]
    dsimp only
    rw [Inspect.start_bind, Inspect.start_read]
    dsimp only
    rw [h.root, Inspect.start_pure]
  · exact ⟨j, rfl⟩

theorem slash_not_mem_of_isValidName {name : String} (h : RootChoice.isValidName name = true) :
    '/' ∉ name.toList := by
  simp only [RootChoice.isValidName, Bool.and_eq_true, Bool.not_eq_true', List.contains_eq_mem,
    decide_eq_false_iff_not] at h
  exact h.1.2

namespace Command

variable {q : Request} {catalog : Catalog} {m m' : Module}

theorem verify_start {files : FileSet} {j : Journal} {fs : List Finding}
    (found : ((Audit.findings catalog.rules (settingsOf q) files (.ofSource files.primary)).start s j).1 =
      .ok fs) :
    ((verify q catalog files).start s j).1 =
      .ok (.ofFindings fs (some (.ofSource files.primary)) (some files.module)
        (some files.primary.path)) := by
  obtain ⟨_, rest⟩ := Inspect.start_bind_of_ok _ found
  exact rest

/-- The reports on a module in two checkouts agree. -/
theorem verify_relocated (bundled : FromBundled catalog.rules)
    (located : FileSet.Located m m' f g) (alike : Module.SameAnswers s s' m m')
    (beside : q.icons = .besideCheckout) (plain : Naming.PlainIcons f) (j j' : Journal) :
    SameReport ((verify q catalog f).start s j).1 ((verify q catalog g).start s' j').1 := by
  obtain ⟨rfl, rfl, moved, way, here, there⟩ := located
  have kind : Classification.ofSource f.primary = Classification.ofSource g.primary :=
    moved.congr (v := fun f => Classification.ofSource f.primary) fun _ => rfl
  obtain ⟨fs, found⟩ := bundled.runs (settingsOf q) f (.ofSource f.primary) s j
  obtain ⟨gs, found'⟩ := bundled.runs (settingsOf q) g (.ofSource g.primary) s' j'
  have related := Audit.findings_moved bundled.bound moved alike
    (show (settingsOf q).icons = .besideCheckout from beside) plain (.ofSource f.primary) j j'
  rw [found, kind, found'] at related
  rw [verify_start found, verify_start found']
  cases related with
  | ok findings =>
    have count := Report.countOf_congr findings
    constructor
    constructor
    case classification => exact congrArg some kind
    case findings => exact findings
    case errorCount => exact count .fail
    case warningCount => exact count .warn
    case outcome => simp only [Report.ofFindings, count]
    case exitCode => simp only [Report.ofFindings, count]
    case primaryPath =>
      refine congrArg some ?_
      rw [here, there, Report.displayPath_below rfl, Report.displayPath_below rfl]

theorem catalogOf_eq {path : Path} (own : q.catalog = none)
    (loaded : Catalog.ofDocument path Registry.bundledRuleChecks Catalog.bundledDocument = .ok catalog) :
    catalogOf path q = pure catalog := by
  rw [catalogOf, own]
  dsimp only
  rw [loaded]
  rfl

/-- A run that finds its checkout verifies the module there, if the name of the connector can be one. -/
theorem reportOn_start {path root : Path} {choice : RootChoice} (own : q.catalog = none)
    (loaded : Catalog.ofDocument path Registry.bundledRuleChecks Catalog.bundledDocument = .ok catalog)
    (leads : choice.Leads s.disk root) (j : Journal) :
    ∃ j', ((reportOn path choice q).start s j).1 =
      if RootChoice.isValidName q.connector then
        ((FileSet.locate ⟨root, q.connector⟩ >>= verify q catalog).start s j').1
      else .error (.invocation (.invalidName q.connector)) := by
  obtain ⟨j', module⟩ := leads.module q.connector j
  refine ⟨j', ?_⟩
  rw [reportOn, prepare, catalogOf_eq own loaded, pure_bind, Inspect.start_bind, Inspect.start_bind,
    module]
  by_cases valid : RootChoice.isValidName q.connector = true
  · rw [if_pos valid, if_pos valid]
    dsimp only
    rw [Inspect.start_bind, Inspect.start_bind]
    rcases (FileSet.locate ⟨root, q.connector⟩).start s j' with ⟨e | files, j''⟩ <;> rfl
  · rw [if_neg valid, if_neg valid]

/-- Two runs with the bundled catalog on one connector, in two checkouts with the same content, are both
refused or come to reports that agree. -/
theorem reportOn_relocated {root root' : Path} {choice choice' : RootChoice}
    (relocated : s.Relocated s' root root') (leads : choice.Leads s.disk root)
    (leads' : choice'.Leads s'.disk root') (own : q.catalog = none) (beside : q.icons = .besideCheckout)
    (room : Module.HasRoom s.disk ⟨root, q.connector⟩) (room' : Module.HasRoom s'.disk ⟨root', q.connector⟩)
    (plain : ∀ f, ((FileSet.locate ⟨root, q.connector⟩).start s {}).1 = .ok f → Naming.PlainIcons f)
    (path : Path) (j j' : Journal) :
    SameReport ((reportOn path choice q).start s j).1 ((reportOn path choice' q).start s' j').1 := by
  obtain ⟨catalog, loaded, bundled⟩ := Catalog.Bundled.fromBundled_load path
  obtain ⟨j, here⟩ := reportOn_start own loaded leads j
  obtain ⟨j', there⟩ := reportOn_start own loaded leads' j'
  rw [here, there]
  by_cases valid : RootChoice.isValidName q.connector = true
  · rw [if_pos valid, if_pos valid]
    obtain ⟨t, found⟩ := relocated.found
    have same : Module.Relocated s.disk s'.disk ⟨root, q.connector⟩ ⟨root', q.connector⟩ :=
      { name := rfl
        plain := slash_not_mem_of_isValidName valid
        proper := relocated.proper
        proper' := relocated.proper'
        found := ⟨t, found⟩
        content := .of_contentAt? relocated.content found
        room
        room' }
    have alike := same.sameAnswers leads.down leads'.down relocated.icons relocated.run
    rcases FileSet.locate_relocated same j j' with ⟨_, _, refused, refused'⟩ | ⟨f, g, hf, hg, located⟩
    · rw [Inspect.start_bind_of_error refused, Inspect.start_bind_of_error refused']
      exact .refused _ _
    · obtain ⟨_, verified⟩ := Inspect.start_bind_of_ok (verify q catalog) hf
      obtain ⟨_, verified'⟩ := Inspect.start_bind_of_ok (verify q catalog) hg
      rw [verified, verified']
      -- What is found does not depend on what was asked before.
      have found : ((FileSet.locate ⟨root, q.connector⟩).start s {}).1 = .ok f :=
        ((FileSet.locate_looks _).isSteady s j).symm.trans hf
      exact verify_relocated bundled located alike beside (plain f found) _ _
  · rw [if_neg valid, if_neg valid]
    exact .refused _ _

/-- Where the path of the module is too long for the system, a run ends with a fault that is not about
the connector. -/
theorem reportOn_long {root : Path} {choice : RootChoice} (own : q.catalog = none)
    (leads : choice.Leads s.disk root) (valid : RootChoice.isValidName q.connector = true)
    (long : s.disk.follow (Module.directory ⟨root, q.connector⟩) = .error .nameTooLong) (path : Path)
    (j : Journal) :
    ((reportOn path choice q).start s j).1 =
      .error (.access (Module.directory ⟨root, q.connector⟩) .nameTooLong) := by
  obtain ⟨catalog, loaded, -⟩ := Catalog.Bundled.fromBundled_load path
  obtain ⟨j', ran⟩ := reportOn_start own loaded leads j
  rw [ran, if_pos valid]
  exact Inspect.start_bind_of_error (FileSet.locate_long long j')

/-! ## Checkouts beside icons -/

/-- A checkout of the connector `x`, whose class returns a name for display, with a picture at its top. -/
def pictured (display : String) : FileTree := .directory [
  ("logo.svg", .file []),
  ("connectors", .under
    ["supaflow-connector-x", "src", "main", "java", "io", "supaflow", "connector", "XConnector.java"]
    (.file (("class X \x7b String getName() \x7b return \"" ++ display ++ "\"; \x7d \x7d").toList.map
      fun c => UInt8.ofNat c.toNat)))]

/-- A directory with that checkout under a name, and beside it a directory of icons that holds none. -/
def shelf (name display : String) : FileTree := .directory [
  ("supaflow-www", .under ["public", "connectors"] .empty), (name, pictured display)]

/-- That directory at the end of a way from the root of the disk. Other programs are not found. -/
def beside (above : List String) (name display : String) : Surroundings :=
  ⟨⟨.under above (shelf name display), ⟨1, []⟩⟩, fun _ => .notFound⟩

/-- The checkout is at a short path. -/
structure Housed (above : List String) (name display : String) : Prop where
  proper : (beside above name display).disk.top.IsProper
  lies : (shelf name display).at? [name] = some (pictured display)
  room : (Path.mk 1 above).size + Path.sizeOfNames [name] + 512 ≤ Disk.longestPath

namespace Housed

variable {above above' : List String} {name name' display : String} (h : Housed above name display)
  (h' : Housed above' name' display)
include h

theorem follow {way : List String} {t : FileTree} (lies : (shelf name display).at? way = some t)
    (short : Path.sizeOfNames way ≤ Path.sizeOfNames [name] + 512) :
    (beside above name display).disk.follow ⟨1, above ++ way⟩ = .ok t := by
  have there : (beside above name display).disk.top.at? (above ++ way) = some t := by
    rw [beside, FileTree.at?_append, FileTree.at?_under]
    exact lies
  have root : (beside above name display).disk.follow ⟨1, []⟩ =
      .ok (beside above name display).disk.top :=
    Disk.follow_eq_ok.2 ⟨by decide +kernel, by decide +kernel, rfl⟩
  have room := h.room
  have size := Path.size_below_le ⟨1, above⟩ way
  exact (Disk.follow_below root (h.proper.at? there).1
    (size.trans (by omega) : (Path.mk 1 (above ++ way)).size ≤ _)).1 t there

theorem follow_root : (beside above name display).disk.follow ⟨1, above ++ [name]⟩ =
    .ok (pictured display) := h.follow h.lies (Nat.le_add_right _ _)

theorem leads (single : (beside above name display).disk.resolve ⟨1, above ++ [name]⟩ =
      ⟨1, above ++ [name]⟩) :
    RootChoice.Leads ⟨some ⟨1, above ++ [name]⟩, none⟩ (beside above name display).disk
      ⟨1, above ++ [name]⟩ :=
  ⟨Disk.hasDirectory_eq_true.2 ⟨_, h.follow_root⟩, single⟩

theorem hasRoom : Module.HasRoom (beside above name display).disk ⟨⟨1, above ++ [name]⟩, "x"⟩ := by
  have short {way : List String} (names : Path.sizeOfNames way ≤ 512) :
      ((Path.mk 1 (above ++ [name])).below way).size ≤ Disk.longestPath := by
    have room := h.room
    have size := Path.size_below_le ⟨1, above⟩ ([name] ++ way)
    rw [Path.sizeOfNames_append, ← Path.below_below] at size
    exact size.trans (by omega)
  constructor
  case root => exact (Nat.add_le_add_right (Path.size_below_le ⟨1, above⟩ [name]) _).trans h.room
  case name => exact (by decide +kernel : "x".utf8ByteSize ≤ 236)
  case files =>
    have directory : Module.directory ⟨⟨1, above ++ [name]⟩, "x"⟩ =
        (Path.mk 1 (above ++ [name])).below ["connectors", "supaflow-connector-x"] :=
      Module.directory_eq (show '/' ∉ "x".toList by decide)
    have found := (Disk.follow_below h.follow_root
      (show ∀ name ∈ ["connectors", "supaflow-connector-x"], isName name = true by decide +kernel)
      (short (by decide +kernel))).1 _ rfl
    rw [directory]
    refine (Disk.forall_filesBelow found fun p => p.size ≤ Disk.longestPath).2 fun file mem => ?_
    obtain rfl := List.mem_singleton.1 (FileTree.files_under _ _ ▸ mem)
    have names : Path.sizeOfNames ["connectors", "supaflow-connector-x", "src", "main", "java", "io",
      "supaflow", "connector", "XConnector.java"] ≤ 512 := by decide +kernel
    rw [Path.below_below]
    exact short names

include h'

theorem relocated : (beside above name display).Relocated (beside above' name' display)
    ⟨1, above ++ [name]⟩ ⟨1, above' ++ [name']⟩ := by
  have icons {above : List String} {name : String} (h : Housed above name display) :
      (beside above name display).disk.contentAt? (Module.icons ⟨⟨1, above ++ [name]⟩, ""⟩) =
        some FileTree.empty.texts := by
    have path : Module.icons ⟨⟨1, above ++ [name]⟩, ""⟩ =
        ⟨1, above ++ ["supaflow-www", "public", "connectors"]⟩ := by
      rw [Module.icons, Path.parent, Path.below, List.dropLast_concat]
    rw [path, Disk.contentAt?, h.follow (t := .empty) rfl]
    · rfl
    · exact Nat.le_add_left_of_le (by decide +kernel)
  constructor
  case proper => exact h.proper
  case proper' => exact h'.proper
  case found => exact ⟨_, h.follow_root⟩
  case content => rw [Disk.contentAt?, Disk.contentAt?, h.follow_root, h'.follow_root]
  case icons => rw [icons h, icons h']
  case run => exact fun _ _ => rfl

end Housed

/-- A deeper checkout under another name. -/
theorem reportOn_relocated_deeper :
    let q : Request := { connector := "x" }
    let s := beside [] "a" "Acme"
    let s' := beside ["b"] "c" "Acme"
    let here : RootChoice := ⟨some ⟨1, ["a"]⟩, none⟩
    let there : RootChoice := ⟨some ⟨1, ["b", "c"]⟩, none⟩
    s.Relocated s' ⟨1, ["a"]⟩ ⟨1, ["b", "c"]⟩ ∧
      here.Leads s.disk ⟨1, ["a"]⟩ ∧ there.Leads s'.disk ⟨1, ["b", "c"]⟩ ∧
      q.catalog = none ∧ q.icons = .besideCheckout ∧
      Module.HasRoom s.disk ⟨⟨1, ["a"]⟩, "x"⟩ ∧ Module.HasRoom s'.disk ⟨⟨1, ["b", "c"]⟩, "x"⟩ ∧
      (∀ f, ((FileSet.locate ⟨⟨1, ["a"]⟩, "x"⟩).start s {}).1 = .ok f → Naming.PlainIcons f) ∧
      SameReport ((reportOn ⟨0, []⟩ here q).start s {}).1 ((reportOn ⟨0, []⟩ there q).start s' {}).1 := by
  intro q s s' here there
  have housed : Housed [] "a" "Acme" :=
    ⟨by decide +kernel, by with_unfolding_all rfl, by decide +kernel⟩
  have housed' : Housed ["b"] "c" "Acme" :=
    ⟨by decide +kernel, by with_unfolding_all rfl, by decide +kernel⟩
  have leads : here.Leads s.disk ⟨1, ["a"]⟩ := housed.leads (by decide +kernel)
  have leads' : there.Leads s'.disk ⟨1, ["b", "c"]⟩ := housed'.leads (by decide +kernel)
  have named : ((FileSet.locate ⟨⟨1, ["a"]⟩, "x"⟩).start s {}).1.toOption.all
      (fun f => f.primary.returnedString "getName" == some "Acme") = true := by decide +kernel
  have plain : ∀ f, ((FileSet.locate ⟨⟨1, ["a"]⟩, "x"⟩).start s {}).1 = .ok f →
      Naming.PlainIcons f := by
    intro f located name returned
    rw [located] at named
    obtain rfl : name = "Acme" := Option.some.inj (returned.symm.trans (beq_iff_eq.1 named))
    decide +kernel
  exact ⟨housed.relocated housed', leads, leads', rfl, rfl, housed.hasRoom, housed'.hasRoom, plain,
    reportOn_relocated (q := q) (housed.relocated housed') leads leads' rfl rfl housed.hasRoom
      housed'.hasRoom plain ⟨0, []⟩ {} {}⟩

/-! ### The way out of the icons -/

/-- A run with the bundled catalog that finds the files of the module comes to a report. -/
theorem reportOn_located {f : FileSet} {root : Path} {choice : RootChoice} (own : q.catalog = none)
    (leads : choice.Leads s.disk root) (valid : RootChoice.isValidName q.connector = true)
    (located : ((FileSet.locate ⟨root, q.connector⟩).start s {}).1 = .ok f) (path : Path) (j : Journal) :
    ∃ (catalog : Catalog) (fs : List Finding) (j' : Journal), FromBundled catalog.rules ∧
      ((Audit.findings catalog.rules (settingsOf q) f (.ofSource f.primary)).start s j').1 = .ok fs ∧
      ((reportOn path choice q).start s j).1 =
        .ok (.ofFindings fs (some (.ofSource f.primary)) (some f.module) (some f.primary.path)) := by
  obtain ⟨catalog, loaded, bundled⟩ := Catalog.Bundled.fromBundled_load path
  obtain ⟨j', ran⟩ := reportOn_start own loaded leads j
  obtain ⟨j'', verified⟩ := Inspect.start_bind_of_ok (verify q catalog)
    (((FileSet.locate_looks _).isSteady s j').trans located)
  obtain ⟨fs, found⟩ := bundled.runs (settingsOf q) f (.ofSource f.primary) s j''
  exact ⟨catalog, fs, j'', bundled, found, by rw [ran, if_pos valid, verified, verify_start found]⟩

/-- The rule on icons passes exactly if its check does. -/
theorem reportOn_icon {f : FileSet} {root : Path} {choice : RootChoice} {j : Journal}
    (own : q.catalog = none) (leads : choice.Leads s.disk root)
    (valid : RootChoice.isValidName q.connector = true)
    (located : ((FileSet.locate ⟨root, q.connector⟩).start s {}).1 = .ok f) (path : Path) :
    ∃ report, ((reportOn path choice q).start s j).1 = .ok report ∧
      (∃ finding ∈ report.findings, finding.ruleId = "CHK-108") ∧
      ∀ finding ∈ report.findings, finding.ruleId = "CHK-108" →
        (finding.severity = .pass ↔
          ((Naming.connectorIcon f (settingsOf q)).answer s).toOption.map Verdict.severity =
            some (some .pass)) := by
  obtain ⟨_, _, _, bundled, found, made⟩ := reportOn_located own leads valid located path j
  have listed : ("CHK-108", Naming.connectorIcon) ∈ Registry.bundled := by simp [Registry.bundled]
  exact ⟨_, made, bundled.pass_iff listed (by decide) found⟩

/-- What the display name makes of the icon is looked for beside the icons too: where it names the
checkout, the checkout's own name matters. -/
theorem climbing_icon :
    let q : Request := { connector := "x" }
    let s := beside [] "a" "../../../a/logo"
    let s' := beside [] "b" "../../../a/logo"
    let here : RootChoice := ⟨some ⟨1, ["a"]⟩, none⟩
    let there : RootChoice := ⟨some ⟨1, ["b"]⟩, none⟩
    s.Relocated s' ⟨1, ["a"]⟩ ⟨1, ["b"]⟩ ∧ here.Leads s.disk ⟨1, ["a"]⟩ ∧ there.Leads s'.disk ⟨1, ["b"]⟩ ∧
      Module.HasRoom s.disk ⟨⟨1, ["a"]⟩, "x"⟩ ∧ Module.HasRoom s'.disk ⟨⟨1, ["b"]⟩, "x"⟩ ∧
      ¬ SameReport ((reportOn ⟨0, []⟩ here q).start s {}).1 ((reportOn ⟨0, []⟩ there q).start s' {}).1 := by
  intro q s s' here there
  have housed : Housed [] "a" "../../../a/logo" :=
    ⟨by decide +kernel, by with_unfolding_all rfl, by decide +kernel⟩
  have housed' : Housed [] "b" "../../../a/logo" :=
    ⟨by decide +kernel, by with_unfolding_all rfl, by decide +kernel⟩
  have leads : here.Leads s.disk ⟨1, ["a"]⟩ := housed.leads (by decide +kernel)
  have leads' : there.Leads s'.disk ⟨1, ["b"]⟩ := housed'.leads (by decide +kernel)
  refine ⟨housed.relocated housed', leads, leads', housed.hasRoom, housed'.hasRoom, fun same => ?_⟩
  have passes : ((FileSet.locate ⟨⟨1, ["a"]⟩, "x"⟩).start s {}).1.toOption.any (fun f =>
      decide (((Naming.connectorIcon f (settingsOf q)).answer s).toOption.map Verdict.severity =
        some (some .pass))) = true := by decide +kernel
  have fails : ((FileSet.locate ⟨⟨1, ["b"]⟩, "x"⟩).start s' {}).1.toOption.any (fun f =>
      !decide (((Naming.connectorIcon f (settingsOf q)).answer s').toOption.map Verdict.severity =
        some (some .pass))) = true := by decide +kernel
  obtain ⟨f, located, pass⟩ := any_toOption.1 passes
  obtain ⟨g, located', fail⟩ := any_toOption.1 fails
  obtain ⟨report, ran, ⟨finding, mem, id⟩, passIff⟩ :=
    reportOn_icon (q := q) (j := {}) rfl leads (by decide +kernel) located ⟨0, []⟩
  obtain ⟨report', ran', -, passIff'⟩ :=
    reportOn_icon (q := q) (j := {}) rfl leads' (by decide +kernel) located' ⟨0, []⟩
  rw [ran, ran'] at same
  obtain ⟨finding', mem', agree⟩ := same.agree_of_mem mem
  have passed := (passIff finding mem id).2 (of_decide_eq_true pass)
  have passed' := (passIff' finding' mem' (agree.ruleId ▸ id)).1 (agree.severity ▸ passed)
  simp [passed'] at fail

end Command

end ModuleAudit
