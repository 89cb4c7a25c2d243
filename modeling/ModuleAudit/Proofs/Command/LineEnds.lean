import ModuleAudit.Command.Program
import ModuleAudit.Proofs.Audit.Build
import ModuleAudit.Proofs.Connector.Location
import ModuleAudit.Proofs.Disk.LineEnds

/-!
# Runs on the same texts

Two surroundings hold the same texts (`Surroundings.SameTexts`) if the same texts lie at the same places
of their disks and the programs that are asked for answer alike. An inspection agrees
(`Inspect.Agrees`) if it gives the same answer and leaves the same journal in both.

* `Inspect.Asks.agrees`: what does no more than ask agrees, and so do the checks of the bundled rules;
* `findings_agree`, `prepare_agree`: so does each part of a run with the bundled catalog;
* `run_converted`: a carriage return before each newline of any files of a tree without carriage
  returns changes neither the located texts nor anything that the run leaves behind.
-/

namespace ModuleAudit

/-- The same texts lie at the same places, and other programs answer alike. -/
structure Surroundings.SameTexts (s s' : Surroundings) : Prop where
  disk : s.disk.SameTexts s'.disk
  run : s.run = s'.run

namespace Inspect

variable {α β : Type} {s s' : Surroundings}

/-- The inspection gives the same answer in both surroundings, and leaves the same journal. -/
def Agrees (s s' : Surroundings) (x : Inspect α) : Prop := ∀ j, x.start s j = x.start s' j

theorem agrees_pure (a : α) : Agrees s s' (pure a) := fun _ => rfl

theorem agrees_fault (f : Fault) : Agrees s s' (fault f : Inspect α) := fun _ => rfl

theorem agrees_ofExcept (x : Except Fault α) : Agrees s s' (ofExcept x) := fun j => by
  rw [start_ofExcept, start_ofExcept]

theorem agrees_log (level : LogLevel) (source : LogSource) (message : String) :
    Agrees s s' (log level source message) := fun _ => rfl

theorem Agrees.bind {x : Inspect α} {f : α → Inspect β} (first : Agrees s s' x)
    (rest : ∀ a, Agrees s s' (f a)) : Agrees s s' (x >>= f) := fun j => by
  rw [start_bind, start_bind, first j]
  split
  · exact rest _ _
  · rfl

theorem Agrees.attempt {x : Inspect α} (h : Agrees s s' x) : Agrees s s' x.attempt := fun j => by
  rw [start_attempt, start_attempt, h j]

theorem agrees_mapM {f : α → Inspect β} {as : List α} (h : ∀ a ∈ as, Agrees s s' (f a)) :
    Agrees s s' (as.mapM f) := by
  induction as with
  | nil => exact agrees_pure _
  | cons a as ih =>
    obtain ⟨first, others⟩ := List.forall_mem_cons.1 h
    rw [List.mapM_cons]
    exact first.bind fun _ => (ih others).bind fun _ => agrees_pure _

/-- What asks and looks no further agrees wherever the answers to its questions do. -/
theorem Asks.agrees {x : Inspect α} (h : x.Asks) (same : s.SameTexts s') : Agrees s s' x := by
  induction h with
  | pure a => exact agrees_pure a
  | fault f => exact agrees_fault f
  | log level source message => exact agrees_log level source message
  | call c => exact fun j => by rw [start_call, start_call, same.run]
  | hasDirectory p =>
    exact fun j => by rw [start_hasDirectory, start_hasDirectory, same.disk.hasDirectory]
  | hasFile p =>
    exact fun j => by rw [Inspect.hasFile, start_disk, start_disk, same.disk.hasFile]
  | bind first rest hx hf => exact hx.bind hf

end Inspect

open Inspect (Agrees agrees_pure agrees_fault agrees_log agrees_ofExcept agrees_mapM)

variable {s s' : Surroundings}

/-! ## Findings -/

namespace Audit

variable {r : Rule} {settings : Settings} {files : FileSet} {c : Classification}

theorem Bundled.agrees (h : Bundled r) (same : s.SameTexts s') (settings : Settings)
    (files : FileSet) : Agrees s s' (r.check files settings) := by
  obtain ⟨entry, he, -, e⟩ := bundledRuleChecks_lookup h
  rw [← e]
  exact ((bundled_asks entry he files settings).agrees same).bind fun _ => agrees_pure _

theorem verdictOf_agrees (check : Agrees s s' (r.check files settings)) :
    Agrees s s' (verdictOf r settings files) :=
  check.attempt.bind fun answer => by split <;> exact agrees_pure _

theorem examine_agrees (check : Agrees s s' (r.check files settings)) :
    Agrees s s' (examine r settings files) :=
  (verdictOf_agrees check).bind fun answer => by
    split
    · exact (agrees_log _ _ _).bind fun _ => agrees_pure _
    · exact (agrees_log _ _ _).bind fun _ => (agrees_log _ _ _).bind fun _ => agrees_pure _

theorem evaluate_agrees (check : Agrees s s' (r.check files settings)) :
    Agrees s s' (evaluate settings files c r) :=
  (agrees_ofExcept _).bind fun reason => by
    split
    · exact agrees_pure _
    · split
      · exact agrees_pure _
      · exact examine_agrees check

theorem findings_agree {rules : List Rule} (bundled : ∀ r ∈ rules, Bundled r) (same : s.SameTexts s')
    (settings : Settings) (files : FileSet) (c : Classification) :
    Agrees s s' (findings rules settings files c) :=
  (agrees_log _ _ _).bind fun _ => agrees_mapM fun r hr =>
    evaluate_agrees ((bundled r (List.mem_mergeSort.1 hr)).agrees same settings files)

end Audit

/-! ## The program -/

namespace RootChoice

theorem resolve_agrees (same : s.SameTexts s') (choice : RootChoice) :
    Agrees s s' choice.resolve := fun j => by
  rw [resolve, Inspect.start_bind, Inspect.start_bind, Inspect.start_read, Inspect.start_read]
  dsimp only
  rw [same.disk.current]
  refine ((Inspect.Asks.hasDirectory _).agrees same).bind (fun there => ?_) j
  split
  · exact (agrees_log _ _ _).bind fun _ => agrees_pure _
  · exact agrees_fault _

theorem module_agrees (same : s.SameTexts s') (choice : RootChoice) (name : String) :
    Agrees s s' (choice.module name) := by
  unfold RootChoice.module
  split
  · refine (resolve_agrees same choice).bind fun root j => ?_
    rw [Inspect.start_bind, Inspect.start_bind, Inspect.start_read, Inspect.start_read]
    dsimp only
    rw [Disk.resolve, Disk.resolve, Disk.absolute, Disk.absolute, same.disk.current]
    rfl
  · exact agrees_fault _

end RootChoice

namespace Command

variable {r : Request}

/-- The catalog that is prepared is bound to the bundled checks, unless another one is asked for. -/
theorem bundled_of_prepare {path : Path} {choice : RootChoice} {j j' : Journal} {catalog : Catalog}
    {files : FileSet} (own : r.catalog = none)
    (h : (prepare path choice r).start s j = (.ok (catalog, files), j')) :
    ∀ rule ∈ catalog.rules, Audit.Bundled rule := by
  rw [prepare, catalogOf, own, Inspect.start_bind, Inspect.start_ofExcept] at h
  rcases loaded : Catalog.ofDocument path Registry.bundledRuleChecks Catalog.bundledDocument with
    e | catalog' <;> rw [loaded] at h <;> dsimp only at h
  · exact nomatch (Prod.mk.inj h).1
  · have same : catalog' = catalog := by
      rw [Inspect.start_bind] at h
      split at h
      · rw [Inspect.start_bind] at h
        split at h
        · exact (Prod.mk.inj (Except.ok.inj (Prod.mk.inj h).1)).1
        · exact nomatch (Prod.mk.inj h).1
      · exact nomatch (Prod.mk.inj h).1
    exact same ▸ Audit.bundled_of_ofDocument loaded

theorem prepare_agrees (same : s.SameTexts s') (path : Path) (choice : RootChoice)
    (own : r.catalog = none) : Agrees s s' (prepare path choice r) := by
  unfold prepare catalogOf
  rw [own]
  exact (agrees_ofExcept _).bind fun catalog => (RootChoice.module_agrees same choice _).bind fun m =>
    Agrees.bind (fun j => FileSet.locate_texts same.disk m j) fun _ => agrees_pure _

theorem verify_agrees (same : s.SameTexts s') {catalog : Catalog}
    (bundled : ∀ rule ∈ catalog.rules, Audit.Bundled rule) (files : FileSet) :
    Agrees s s' (verify r catalog files) :=
  (Audit.findings_agree bundled same _ _ _).bind fun _ => (agrees_log _ _ _).bind fun _ =>
    agrees_pure _

/-- The report that a request comes to. -/
def reportOn (path : Path) (choice : RootChoice) (r : Request) : Inspect Report := do
  let (catalog, files) ← prepare path choice r
  verify r catalog files

/-- A report on the bundled rules depends on the texts that the disk holds and on the answers of other
programs, and on nothing else of its surroundings. -/
theorem reportOn_agrees (same : s.SameTexts s') (path : Path) (choice : RootChoice)
    (own : r.catalog = none) : Agrees s s' (reportOn path choice r) := fun j => by
  rw [reportOn, Inspect.start_bind, Inspect.start_bind, prepare_agrees same path choice own j]
  rcases prepared : (prepare path choice r).start s' j with ⟨fault | ⟨catalog, files⟩, j'⟩
  · rfl
  · exact verify_agrees same (bundled_of_prepare own prepared) files j'

/-- So does all that a run with these rules leaves behind. -/
theorem run_texts (same : s.SameTexts s') (e : Environment) {arguments : List String}
    (own : ∀ r, Request.ofArguments arguments = .ok r → r.catalog = none) :
    run e s arguments = run e s' arguments := by
  unfold run
  rcases asked : Request.ofArguments arguments with ending | r
  · rfl
  · have own := own r asked
    unfold carryOut
    dsimp only
    rw [prepare_agrees same e.bundledPath _ own {}, same.disk.current]
    rcases prepared : (prepare e.bundledPath ⟨r.root, e.root⟩ r).start s' with
      ⟨fault | ⟨catalog, files⟩, j⟩
    · cases fault <;> rfl
    · dsimp only
      rw [verify_agrees same (bundled_of_prepare own prepared) files j]

/-! ## Line ends -/

/-- A carriage return before each newline of any files that have no carriage returns changes neither
what is found of a module, nor the report, nor anything that a run with the bundled catalog leaves
behind. -/
theorem run_converted {d : Disk} {chosen : List String → Bool} (proper : d.top.IsProper)
    (single : ∀ file ∈ d.top.files, chosen file.1 = true → 0x0d ∉ file.2)
    (others : Call → CallResult) :
    (∀ m j, (FileSet.locate m).start ⟨d.converted chosen, others⟩ j =
      (FileSet.locate m).start ⟨d, others⟩ j) ∧
    (∀ path choice r j, r.catalog = none →
      (reportOn path choice r).start ⟨d.converted chosen, others⟩ j =
        (reportOn path choice r).start ⟨d, others⟩ j) ∧
    ∀ e arguments, (∀ r, Request.ofArguments arguments = .ok r → r.catalog = none) →
      run e ⟨d.converted chosen, others⟩ arguments = run e ⟨d, others⟩ arguments :=
  have same : Surroundings.SameTexts ⟨d.converted chosen, others⟩ ⟨d, others⟩ :=
    ⟨Disk.sameTexts_converted proper single, rfl⟩
  ⟨fun m j => FileSet.locate_texts same.disk m j,
    fun path choice _ j own => reportOn_agrees same path choice own j,
    fun e _ own => run_texts same e own⟩

/-- A connector class of two lines, with a byte that is no text between them. -/
theorem run_converted_checkout :
    let bytes : List UInt8 := [0x63, 0x6c, 0x61, 0x73, 0x73, 0x0a, 0xff, 0x58, 0x0a]
    let d : Disk := ⟨FileSet.checkout "supaflow-connector-x"
      (.directory [("XConnector.java", .file bytes)]), ⟨1, []⟩⟩
    let others : Call → CallResult := fun _ => .notFound
    let e : Environment := { bundledPath := ⟨0, []⟩, time := "" }
    d.top.IsProper ∧ (∀ file ∈ d.top.files, 0x0d ∉ file.2) ∧
      (∀ r, Request.ofArguments ["verify", "x", "/"] = .ok r → r.catalog = none) ∧
      run e ⟨d.converted fun _ => true, others⟩ ["verify", "x", "/"] =
        run e ⟨d, others⟩ ["verify", "x", "/"] := by
  intro bytes d others e
  have proper : d.top.IsProper := by decide +kernel
  have single : ∀ file ∈ d.top.files, 0x0d ∉ file.2 := by decide +kernel
  have own : ∀ r, Request.ofArguments ["verify", "x", "/"] = .ok r → r.catalog = none := by
    have asked : (Request.ofArguments ["verify", "x", "/"]).toOption.bind (·.catalog) = none := by
      decide +kernel
    intro r h
    rw [h] at asked
    exact asked
  exact ⟨proper, single, own,
    (run_converted proper (fun file h _ => single file h) others).2.2 e _ own⟩

end Command

end ModuleAudit
