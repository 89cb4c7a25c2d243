import ModuleAudit.Proofs.Command.Relocation
import ModuleAudit.Proofs.Command.Request
import ModuleAudit.Proofs.Report.Lines

/-!
# What a run of the program leaves behind

A run that is not about help or the version aborts (`Aborts`) or comes to a report (`reportOf`).

* `prepare_refused`, `carryOut_cases`: a request is refused by the first of three stages that fails, or
  its report is written;
* `run_cases`: what a run leaves behind either way;
* `run_withJson`, `accepted_json`: asking for JSON changes the form of the report only;
* `run_contract`: both together. The option must not stand between the connector and the root
  (`json_before_root`);
* `run_of_reportOn`: a run on bundled rules that comes to a report always writes it as text.
-/

namespace ModuleAudit

theorem Inspect.start_bind_eq_ok {α β : Type} {x : Inspect α} {next : α → Inspect β} {s : Surroundings}
    {j : Journal} {b : β} (h : ((x >>= next).start s j).1 = .ok b) :
    ∃ a j', x.start s j = (.ok a, j') ∧ ((next a).start s j').1 = .ok b := by
  rw [start_bind] at h
  rcases first : x.start s j with ⟨fault | a, j'⟩
  · rw [first] at h
    exact nomatch h
  · rw [first] at h
    exact ⟨a, j', rfl, h⟩

namespace Command

open Request (withJson)

variable {s : Surroundings} {e : Environment} {arguments : List String} {t : Transcript}
  {calls : List Call} {r : Request} {path : Path} {choice : RootChoice}

/-! ## Before the rules are evaluated -/

theorem bind_eq_error {ε α β : Type} {x : Except ε α} {f : α → Except ε β} {fault : ε} :
    x >>= f = .error fault ↔ x = .error fault ∨ ∃ a, x = .ok a ∧ f a = .error fault := by
  cases x with
  | error e => simp [error_bind]
  | ok a => simp [ok_bind]

/-- Why a request is refused: the catalog cannot be loaded, the module cannot be told, or its files
cannot be located. -/
inductive Refused (path : Path) (choice : RootChoice) (r : Request) (s : Surroundings)
    (cause : InvocationCause) : Prop
  | catalog (failed : (catalogOf path r).answer s = .error (.invocation cause))
  | module {catalog : Catalog} (loaded : (catalogOf path r).answer s = .ok catalog)
      (failed : (choice.module r.connector).answer s = .error (.invocation cause))
  | files {catalog : Catalog} {m : Module} (loaded : (catalogOf path r).answer s = .ok catalog)
      (told : (choice.module r.connector).answer s = .ok m)
      (failed : (FileSet.locate m).answer s = .error (.invocation cause))

theorem prepare_answer : (prepare path choice r).answer s =
    (catalogOf path r).answer s >>= fun catalog =>
      (choice.module r.connector).answer s >>= fun m =>
        (FileSet.locate m).answer s >>= fun files => .ok (catalog, files) := by
  have last (catalog : Catalog) (files : FileSet) : (pure (catalog, files) : Inspect _).IsSteady :=
    Inspect.isSteady_pure _
  have located (catalog : Catalog) (m : Module) :
      (FileSet.locate m >>= fun files => pure (catalog, files)).IsSteady :=
    (FileSet.locate_looks m).isSteady.bind (last catalog)
  rw [prepare, Inspect.answer_bind _ fun catalog =>
    (choice.module_looks r.connector).isSteady.bind fun m => located catalog m]
  refine bind_congr fun catalog => ?_
  rw [Inspect.answer_bind _ fun m => located catalog m]
  refine bind_congr fun m => ?_
  rw [Inspect.answer_bind _ (last catalog)]
  rfl

theorem prepare_refused {cause : InvocationCause} :
    (prepare path choice r).answer s = .error (.invocation cause) ↔ Refused path choice r s cause := by
  rw [prepare_answer, bind_eq_error]
  constructor
  · rintro (failed | ⟨catalog, loaded, rest⟩)
    · exact .catalog failed
    rcases bind_eq_error.1 rest with failed | ⟨m, told, rest⟩
    · exact .module loaded failed
    rcases bind_eq_error.1 rest with failed | ⟨files, -, rest⟩
    · exact .files loaded told failed
    · exact nomatch rest
  · rintro (failed | ⟨loaded, failed⟩ | ⟨loaded, told, failed⟩)
    · exact .inl failed
    · exact .inr ⟨_, loaded, bind_eq_error.2 (.inl failed)⟩
    · exact .inr ⟨_, loaded, bind_eq_error.2 (.inr ⟨_, told, bind_eq_error.2 (.inl failed)⟩)⟩

/-- Why a run ends before the rules are evaluated. -/
inductive Aborts (e : Environment) (s : Surroundings) (arguments : List String) : Prop
  | rejected {program : String} {cause : Complaint}
      (complaint : Request.ofArguments arguments = .error (.complaint program cause))
  | refused {r : Request} {cause : InvocationCause} (asked : Request.ofArguments arguments = .ok r)
      (refused : Refused e.bundledPath ⟨r.root, e.root⟩ r s cause)

/-- The report that a run comes to, if it comes to one. -/
def reportOf (e : Environment) (s : Surroundings) (arguments : List String) : Option Report :=
  match Request.ofArguments arguments with
  | .ok r => ((reportOn e.bundledPath ⟨r.root, e.root⟩ r).answer s).toOption
  | .error _ => none

/-- What a run leaves behind that looks at a report: the report in the form that was asked for. -/
structure Reports (r : Request) (report : Report) (t : Transcript) : Prop where
  output : ∃ text, reportText r report = .ok text ∧ t.output = text ++ "\n"
  exitCode : t.exitCode = if ∃ f ∈ report.findings, f.severity = .fail then 1 else 0

theorem verify_report {catalog : Catalog} {files : FileSet} {j : Journal} {report : Report}
    (h : ((verify r catalog files).start s j).1 = .ok report) :
    ∃ fs, ((Audit.findings catalog.rules (settingsOf r) files (.ofSource files.primary)).start s j).1 = .ok fs ∧
      report = .ofFindings fs (some (.ofSource files.primary)) (some files.module)
        (some files.primary.path) := by
  rcases found : ((Audit.findings catalog.rules (settingsOf r) files (.ofSource files.primary)).start s j).1
    with fault | fs
  · exact nomatch (Inspect.start_bind_of_error found).symm.trans h
  · exact ⟨fs, rfl, Except.ok.inj (h.symm.trans (verify_start found))⟩

/-- What becomes of a request that is carried out. -/
theorem carryOut_cases (ends : carryOut e s r = (.ok t, calls)) :
    (∃ cause, Refused e.bundledPath ⟨r.root, e.root⟩ r s cause ∧ t.exitCode = 2 ∧ t.output = "" ∧
      calls = []) ∨
    ∃ report, (reportOn e.bundledPath ⟨r.root, e.root⟩ r).answer s = .ok report ∧ Reports r report t := by
  have looks := (prepare_looks e.bundledPath ⟨r.root, e.root⟩ r).journal_calls s {}
  unfold carryOut at ends
  dsimp only at ends
  rcases prepared : (prepare e.bundledPath ⟨r.root, e.root⟩ r).start s with ⟨fault | ⟨catalog, files⟩, j⟩
  · rw [prepared] at ends looks
    cases fault with
    | invocation cause =>
      obtain ⟨left, ran⟩ := Prod.mk.inj ends
      obtain rfl := Except.ok.inj left
      exact .inl ⟨cause, prepare_refused.1 (congrArg Prod.fst prepared), rfl, rfl, ran.symm.trans looks⟩
    | _ => exact nomatch (Prod.mk.inj ends).1
  · rw [prepared] at ends
    obtain ⟨left, -⟩ := Prod.mk.inj ends
    obtain ⟨report, verified, left⟩ := bind_eq_ok.1 left
    obtain ⟨text, written, left⟩ := bind_eq_ok.1 left
    obtain rfl := Except.ok.inj left
    refine .inr ⟨report, ?_, ⟨⟨text, written, rfl⟩, ?_⟩⟩
    · rw [Inspect.answer, reportOn, Inspect.start_bind, prepared]
      exact verified
    · obtain ⟨fs, -, rfl⟩ := verify_report verified
      exact Report.exitCode_ofFindings fs

theorem reportOn_of_refused {cause : InvocationCause} (refused : Refused path choice r s cause) :
    (reportOn path choice r).answer s = .error (.invocation cause) :=
  Inspect.start_bind_of_error (prepare_refused.2 refused)

/-! ## Asking for JSON -/

/-- That the report is asked for as JSON changes neither the exit code nor what is run. -/
theorem carryOut_withJson {t' : Transcript} {calls' : List Call} (ends : carryOut e s r = (.ok t, calls))
    (ends' : carryOut e s r.withJson = (.ok t', calls')) : t'.exitCode = t.exitCode ∧ calls' = calls := by
  have same : prepare e.bundledPath ⟨r.withJson.root, e.root⟩ r.withJson =
      prepare e.bundledPath ⟨r.root, e.root⟩ r := rfl
  unfold carryOut at ends ends'
  dsimp only at ends ends'
  rw [same] at ends'
  rcases prepared : (prepare e.bundledPath ⟨r.root, e.root⟩ r).start s with ⟨fault | ⟨catalog, files⟩, j⟩
  · rw [prepared] at ends ends'
    cases fault with
    | invocation cause =>
      obtain ⟨left, rfl⟩ := Prod.mk.inj ends
      obtain ⟨left', rfl⟩ := Prod.mk.inj ends'
      obtain rfl := Except.ok.inj left
      obtain rfl := Except.ok.inj left'
      exact ⟨rfl, rfl⟩
    | _ => exact nomatch (Prod.mk.inj ends).1
  · have alike : verify r.withJson catalog files = verify r catalog files := rfl
    rw [prepared] at ends ends'
    dsimp only at ends ends'
    rw [alike] at ends'
    obtain ⟨left, rfl⟩ := Prod.mk.inj ends
    obtain ⟨left', rfl⟩ := Prod.mk.inj ends'
    obtain ⟨report, verified, left⟩ := bind_eq_ok.1 left
    obtain ⟨report', verified', left'⟩ := bind_eq_ok.1 left'
    obtain rfl := Except.ok.inj (verified.symm.trans verified')
    obtain ⟨_, -, left⟩ := bind_eq_ok.1 left
    obtain ⟨_, -, left'⟩ := bind_eq_ok.1 left'
    obtain rfl := Except.ok.inj left
    obtain rfl := Except.ok.inj left'
    exact ⟨rfl, rfl⟩

/-- The command line asks for something that can be tried. -/
def Accepted (arguments : List String) : Prop := ∃ r, Request.ofArguments arguments = .ok r

theorem reportOf_eq (asked : Request.ofArguments arguments = .ok r) :
    reportOf e s arguments = ((reportOn e.bundledPath ⟨r.root, e.root⟩ r).answer s).toOption := by
  rw [reportOf, asked]

theorem run_withJson {before after : List String} {t' : Transcript} {calls' : List Call}
    (apart : "--" ∉ before) (accepted : Accepted (before ++ after))
    (accepted' : Accepted (before ++ "--json" :: after)) (ends : run e s (before ++ after) = (.ok t, calls))
    (ends' : run e s (before ++ "--json" :: after) = (.ok t', calls')) :
    t'.exitCode = t.exitCode ∧ calls' = calls ∧
      reportOf e s (before ++ "--json" :: after) = reportOf e s (before ++ after) := by
  obtain ⟨r, asked⟩ := accepted
  obtain ⟨r', asked'⟩ := accepted'
  obtain rfl := Request.ofArguments_insert apart asked asked'
  rw [run, asked] at ends
  rw [run, asked'] at ends'
  obtain ⟨exitCode, calls⟩ := carryOut_withJson ends ends'
  exact ⟨exitCode, calls, by rw [reportOf_eq asked, reportOf_eq asked']; rfl⟩

theorem accepted_json (words : List String) :
    Accepted (verifyName :: "--json" :: words) ↔ Accepted (verifyName :: words) := by
  rw [Accepted, Accepted, Request.ofArguments_json]
  cases Request.ofArguments (verifyName :: words) <;> simp [Except.map]

/-! ## The contract -/

/-- A request that comes to a report does not abort. -/
theorem not_aborts {report : Report} (asked : Request.ofArguments arguments = .ok r)
    (made : (reportOn e.bundledPath ⟨r.root, e.root⟩ r).answer s = .ok report) :
    ¬ Aborts e s arguments := by
  intro aborts
  cases aborts with
  | rejected complaint => exact nomatch asked.symm.trans complaint
  | refused asked' refused =>
    obtain rfl := Except.ok.inj (asked.symm.trans asked')
    exact nomatch made.symm.trans (reportOn_of_refused refused)

/-- A run aborts, and leaves nothing but its exit code, or it comes to a report. -/
theorem run_cases (ends : run e s arguments = (.ok t, calls))
    (noHelp : Request.ofArguments arguments ≠ .error .help)
    (noVersion : Request.ofArguments arguments ≠ .error .version) :
    (Aborts e s arguments ∧ t.exitCode = 2 ∧ t.output = "" ∧ calls = []) ∨
    ¬ Aborts e s arguments ∧ ∃ r report, Request.ofArguments arguments = .ok r ∧
      reportOf e s arguments = some report ∧ Reports r report t := by
  rw [run] at ends
  rcases asked : Request.ofArguments arguments with ending | r
  · rw [asked] at ends
    obtain ⟨left, rfl⟩ := Prod.mk.inj ends
    obtain rfl := Except.ok.inj left
    cases ending with
    | help => exact absurd asked noHelp
    | version => exact absurd asked noVersion
    | complaint program cause => exact .inl ⟨.rejected asked, rfl, rfl, rfl⟩
  · rw [asked] at ends
    rcases carryOut_cases ends with ⟨cause, refused, left⟩ | ⟨report, made, reports⟩
    · exact .inl ⟨.refused asked refused, left⟩
    · exact .inr ⟨not_aborts asked made, r, report, rfl, by rw [reportOf_eq asked, made]; rfl, reports⟩

theorem Reports.exitCode_ne {report : Report} (h : Reports r report t) : t.exitCode ≠ 2 := by
  rw [h.exitCode]
  split <;> decide

/-- How a run ends that asks neither for help nor for the version. Its exit code is 2 exactly if it
aborts, and then nothing is written and nothing is run. Otherwise it writes one report, and its exit code
tells whether the report has a failure. Asking for JSON among words that are accepted with and without it
changes no more than the form of the report; right after the command it is always accepted alike. -/
theorem run_contract (ends : run e s arguments = (.ok t, calls))
    (noHelp : Request.ofArguments arguments ≠ .error .help)
    (noVersion : Request.ofArguments arguments ≠ .error .version) :
    (t.exitCode = 2 ↔ Aborts e s arguments) ∧
    (t.exitCode = 2 → t.output = "" ∧ calls = []) ∧
    (t.exitCode ≠ 2 → ∃ r report, Request.ofArguments arguments = .ok r ∧
      reportOf e s arguments = some report ∧ Reports r report t) ∧
    (∀ before after t' calls', arguments = before ++ after → "--" ∉ before → Accepted arguments →
      Accepted (before ++ "--json" :: after) →
      run e s (before ++ "--json" :: after) = (.ok t', calls') →
      t'.exitCode = t.exitCode ∧ calls' = calls ∧
        reportOf e s (before ++ "--json" :: after) = reportOf e s arguments) ∧
    ∀ words, arguments = verifyName :: words →
      (Accepted (verifyName :: "--json" :: words) ↔ Accepted arguments) := by
  have json : ∀ before after t' calls', arguments = before ++ after → "--" ∉ before →
      Accepted arguments → Accepted (before ++ "--json" :: after) →
      run e s (before ++ "--json" :: after) = (.ok t', calls') →
      t'.exitCode = t.exitCode ∧ calls' = calls ∧
        reportOf e s (before ++ "--json" :: after) = reportOf e s arguments := by
    rintro before after t' calls' rfl apart accepted accepted' ends'
    exact run_withJson apart accepted accepted' ends ends'
  have command : ∀ words, arguments = verifyName :: words →
      (Accepted (verifyName :: "--json" :: words) ↔ Accepted arguments) := by
    rintro words rfl
    exact accepted_json words
  rcases run_cases ends noHelp noVersion with ⟨aborts, exitCode, nothing⟩ | ⟨goesOn, r, report, comes⟩
  · exact ⟨iff_of_true exitCode aborts, fun _ => nothing, absurd exitCode, json, command⟩
  · have other := comes.2.2.exitCode_ne
    exact ⟨iff_of_false other goesOn, fun exitCode => absurd exitCode other,
      fun _ => ⟨r, report, comes⟩, json, command⟩

/-! ## Reports on the bundled rules -/

/-- What a finding shows beside its message is what the rule shows. -/
theorem findingOf_worded {rule : Rule} (h : Catalog.Bundled.Worded rule) (severity : Severity)
    (message : String) : (Audit.findingOf rule severity message).Worded := by
  obtain ⟨title, ht⟩ := h.title
  obtain ⟨group, hg⟩ := h.group
  obtain ⟨remediation, hr⟩ := h.remediation
  refine ⟨⟨title, ht⟩, ⟨some group, hg⟩, ?_⟩
  rw [Audit.findingOf]
  dsimp only
  split
  · exact ⟨some remediation, hr⟩
  · exact ⟨none, rfl⟩

theorem found_eq_findingOf {rule : Rule} {c : Classification} {answer : Except Fault Conclusion}
    {f : Finding} (h : Audit.found c rule answer = .ok f) :
    ∃ severity message, f = Audit.findingOf rule severity message := by
  obtain ⟨reason, -, h⟩ := bind_eq_ok.1 h
  cases reason with
  | some reason => exact ⟨_, _, (Except.ok.inj h).symm⟩
  | none =>
    dsimp only at h
    split at h
    · exact ⟨_, _, (Except.ok.inj h).symm⟩
    · exact ⟨_, _, (Except.ok.inj h).symm⟩

/-- The findings of bundled rules hold texts. -/
theorem reportOn_worded {report : Report} (own : r.catalog = none)
    (made : (reportOn path choice r).answer s = .ok report) : ∀ f ∈ report.findings, f.Worded := by
  obtain ⟨catalog, loaded, bundled⟩ := Catalog.Bundled.fromBundled_load path
  rw [Inspect.answer, reportOn, prepare, catalogOf_eq own loaded, pure_bind] at made
  obtain ⟨⟨_, files⟩, _, prepared, made⟩ := Inspect.start_bind_eq_ok made
  obtain ⟨m, _, -, located⟩ := Inspect.start_bind_eq_ok (congrArg Prod.fst prepared)
  obtain ⟨_, _, -, last⟩ := Inspect.start_bind_eq_ok located
  obtain ⟨rfl, rfl⟩ := Prod.mk.inj (Except.ok.inj last)
  obtain ⟨fs, found, rfl⟩ := verify_report made
  rw [Audit.findings_fst bundled.bound] at found
  intro f mem
  obtain ⟨rule, hr, here⟩ := exists_of_mem_mapM found mem
  obtain ⟨_, _, rfl⟩ := found_eq_findingOf here
  exact findingOf_worded (bundled.worded rule (List.mem_mergeSort.1 hr)) _ _

theorem carryOut_of_reportOn {report : Report} {text : String}
    (made : (reportOn e.bundledPath ⟨r.root, e.root⟩ r).answer s = .ok report)
    (written : reportText r report = .ok text) : ∃ t calls, carryOut e s r = (.ok t, calls) := by
  obtain ⟨⟨catalog, files⟩, j, prepared, verified⟩ := Inspect.start_bind_eq_ok made
  unfold carryOut
  dsimp only
  rw [prepared]
  dsimp only at verified ⊢
  rw [verified, ok_bind, written, ok_bind]
  exact ⟨_, _, rfl⟩

/-- A run on bundled rules that asks for text goes on to the end, if it comes to a report. -/
theorem run_of_reportOn {report : Report} (asked : Request.ofArguments arguments = .ok r)
    (own : r.catalog = none) (asText : r.json = false)
    (made : (reportOn e.bundledPath ⟨r.root, e.root⟩ r).answer s = .ok report) :
    ∃ t calls, run e s arguments = (.ok t, calls) := by
  obtain ⟨text, written⟩ : ∃ text, reportText r report = .ok text := by
    rw [reportText, asText, if_neg Bool.false_ne_true]
    exact ⟨_, Report.text_eq (reportOn_worded own made)⟩
  obtain ⟨t, calls, ends⟩ := carryOut_of_reportOn made written
  exact ⟨t, calls, by rw [run, asked]; exact ends⟩

/-! ### A checkout at the root of the disk -/

/-- The environment of a run that names no root. -/
def bare : Environment := { bundledPath := ⟨0, []⟩, time := "" }

theorem reportOn_housed : ∃ r report, Request.ofArguments ["verify", "x", "/a"] = .ok r ∧
    r.catalog = none ∧ r.json = false ∧
    (reportOn bare.bundledPath ⟨r.root, bare.root⟩ r).answer (beside [] "a" "Acme") = .ok report := by
  let q : Request := { connector := "x", root := some ⟨1, ["a"]⟩ }
  have asked : Request.ofArguments ["verify", "x", "/a"] = .ok q := by with_unfolding_all rfl
  have housed : Housed [] "a" "Acme" :=
    ⟨by decide +kernel, by with_unfolding_all rfl, by decide +kernel⟩
  have leads : RootChoice.Leads ⟨q.root, bare.root⟩ (beside [] "a" "Acme").disk ⟨1, ["a"]⟩ :=
    housed.leads (by decide +kernel)
  have found : ((FileSet.locate ⟨⟨1, ["a"]⟩, q.connector⟩).start (beside [] "a" "Acme") {}).1.toOption.any
      (fun _ => true) = true := by decide +kernel
  obtain ⟨f, located, -⟩ := any_toOption.1 found
  obtain ⟨_, _, _, -, -, made⟩ :=
    reportOn_located (q := q) rfl leads (by decide +kernel) located bare.bundledPath {}
  obtain ⟨report, answered⟩ : ∃ report,
      (reportOn bare.bundledPath ⟨q.root, bare.root⟩ q).answer (beside [] "a" "Acme") = .ok report := by
    rw [Inspect.answer]
    exact ⟨_, made⟩
  exact ⟨q, report, asked, rfl, rfl, answered⟩

/-- A run that comes to a report, and the same run with the option right after the command. -/
theorem run_contract_housed :
    let s := beside [] "a" "Acme"
    let arguments := ["verify", "x", "/a"]
    ∃ t calls, run bare s arguments = (.ok t, calls) ∧
      Request.ofArguments arguments ≠ .error .help ∧ Request.ofArguments arguments ≠ .error .version ∧
      t.exitCode ≠ 2 ∧
      (∃ r report, Request.ofArguments arguments = .ok r ∧ reportOf bare s arguments = some report ∧
        Reports r report t) ∧
      ∀ t' calls', run bare s ["verify", "--json", "x", "/a"] = (.ok t', calls') →
        t'.exitCode = t.exitCode ∧ calls' = calls ∧
          reportOf bare s ["verify", "--json", "x", "/a"] = reportOf bare s arguments := by
  intro s arguments
  obtain ⟨r, report, asked, own, asText, made⟩ := reportOn_housed
  obtain ⟨t, calls, ends⟩ := run_of_reportOn (e := bare) asked own asText made
  have noHelp : Request.ofArguments arguments ≠ .error .help := by rw [asked]; exact nofun
  have noVersion : Request.ofArguments arguments ≠ .error .version := by rw [asked]; exact nofun
  obtain ⟨exitCode, -, comes, json, command⟩ := run_contract ends noHelp noVersion
  have other : t.exitCode ≠ 2 := exitCode.not.2 (not_aborts asked made)
  exact ⟨t, calls, ends, noHelp, noVersion, other, comes other, fun t' calls' ends' =>
    json ["verify"] ["x", "/a"] t' calls' rfl (by decide) ⟨r, asked⟩
      ((command ["x", "/a"] rfl).2 ⟨r, asked⟩) ends'⟩

/-- Between the connector and the root the option keeps them apart, and the command line is rejected. -/
theorem json_before_root :
    let s := beside [] "a" "Acme"
    ∃ t calls t', run bare s ["verify", "x", "/a"] = (.ok t, calls) ∧
      run bare s ["verify", "x", "--json", "/a"] = (.ok t', []) ∧ t.exitCode ≠ 2 ∧ t'.exitCode = 2 := by
  intro s
  obtain ⟨r, report, asked, own, asText, made⟩ := reportOn_housed
  obtain ⟨t, calls, ends⟩ := run_of_reportOn (e := bare) asked own asText made
  have rejected : Request.ofArguments ["verify", "x", "--json", "/a"] =
      .error (.complaint programName (.leftOver ["/a"])) := by with_unfolding_all rfl
  refine ⟨t, calls, _, ends, by rw [run, rejected], ?_, rfl⟩
  rcases run_cases ends (by rw [asked]; exact nofun) (by rw [asked]; exact nofun) with
    ⟨aborts, -⟩ | ⟨-, r, report, -, -, reports⟩
  · exact absurd aborts (not_aborts asked made)
  · exact reports.exitCode_ne

end Command

end ModuleAudit
