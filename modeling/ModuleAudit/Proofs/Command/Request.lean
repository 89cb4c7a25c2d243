import ModuleAudit.Command.Request
import ModuleAudit.Proofs.Answer

/-!
# Asking for JSON

That the report is asked for as JSON changes nothing else of a request. The option may stand anywhere among
the words of the command, as long as it keeps nothing apart that belongs together:

* `readWords_cons`, `step`: what one word comes to with the words after it;
* `step_insert`: a word comes to the same with the option among the words after it, unless the option
  stands between the connector and what belongs to it;
* `readWords_insert`, `ofArguments_insert`: command lines that are accepted with and without the option
  ask for the same;
* `ofArguments_json`: right after the command the option is always accepted.
-/

namespace ModuleAudit.Command.Request

/-- The request with the report as JSON. -/
def withJson (r : Request) : Request := { r with json := true }

/-- The progress with the report as JSON. -/
def Progress.withJson (p : Progress) : Progress := { p with request := p.request.withJson }

/-! ## One option -/

section Option

variable {r : Request} {f : OptionForm VerifyOption} {name value : String} {attached next : Option String}

theorem set_withJson : r.withJson.set f value = (r.set f value).map withJson := by
  unfold set
  cases f.key with
  | buildTimeout => dsimp only; split <;> rfl
  | _ => rfl

theorem unset_withJson : r.withJson.unset f = (r.unset f).withJson := by
  unfold unset
  cases f.key <;> rfl

theorem setAll_withJson (uses : List (OptionForm VerifyOption × Option String)) :
    r.withJson.setAll uses = (r.setAll uses).map withJson := by
  induction uses generalizing r with
  | nil => rfl
  | cons use uses ih =>
    obtain ⟨f, value⟩ := use
    rw [setAll, setAll]
    split
    · rw [unset_withJson, ih]
    · rw [set_withJson]
      rcases r.set f (value.getD "") with ending | r
      · rfl
      · exact ih

/-- The value that an option may find in the words after it. -/
def valueAhead : List (Word VerifyOption) → Option String
  | .plain value :: _ => some value
  | _ => none

/-- What an option comes to with the value that it may find: the request, and how many words are read
with the option. -/
def take (r : Request) (f : OptionForm VerifyOption) (name : String) (attached next : Option String) :
    Except Ending (Request × Nat) := do
  let uses ← (Word.uses verifyOptions f name attached).mapError (.complaint verifyProgram)
  match uses.getLast?, next with
  | some (last, none), some value =>
    if last.takesValue then return (← r.setAll (uses.dropLast ++ [(last, some value)]), 1)
    else return (← r.setAll uses, 0)
  | some (last, none), none =>
    if last.takesValue then .error (.complaint verifyProgram (.valueMissing last.label))
    else return (← r.setAll uses, 0)
  | _, _ => return (← r.setAll uses, 0)

theorem take_withJson : r.withJson.take f name attached next =
    (r.take f name attached next).map fun step => (step.1.withJson, step.2) := by
  have onward (uses : List (OptionForm VerifyOption × Option String)) (skip : Nat) :
      (r.withJson.setAll uses >>= fun request => (pure (request, skip) : Except Ending (Request × Nat))) =
        (r.setAll uses >>= fun request => pure (request, skip)).map
          fun step => (step.1.withJson, step.2) := by
    rw [setAll_withJson]
    cases r.setAll uses <;> rfl
  rw [take, take]
  rcases (Word.uses verifyOptions f name attached).mapError (Ending.complaint verifyProgram) with e | uses
  · rfl
  · rw [ok_bind, ok_bind]
    rcases uses.getLast?, next with ⟨_ | ⟨last, _ | value⟩, _ | ahead⟩
    all_goals dsimp only
    all_goals first
      | exact onward _ _
      | split
        · first | rfl | exact onward _ _
        · exact onward _ _

/-- An option that needs no value from the words after it takes none. -/
theorem take_next {step : Request × Nat} (next : Option String)
    (h : r.take f name attached none = .ok step) :
    step.2 = 0 ∧ r.take f name attached next = .ok step := by
  have told {x : Except Ending Request} (h : (x >>= fun request => pure (request, 0)) = .ok step) :
      step.2 = 0 := by
    obtain ⟨_, -, e⟩ := bind_eq_ok.1 h
    exact (Except.ok.inj e) ▸ rfl
  rw [take] at h ⊢
  generalize (Word.uses verifyOptions f name attached).mapError (Ending.complaint verifyProgram) = found at h ⊢
  rcases found with e | uses
  · exact nomatch h
  · rw [ok_bind] at h ⊢
    generalize uses.getLast? = last at h ⊢
    rcases last with _ | ⟨last, _ | value⟩
    · exact ⟨told h, h⟩
    · dsimp only at h
      split at h
      · exact nomatch h
      next none =>
        refine ⟨told h, ?_⟩
        cases next <;> exact (if_neg none).trans h
    · exact ⟨told h, h⟩

/-- An option takes at most one word. -/
theorem take_le {step : Request × Nat} (h : r.take f name attached next = .ok step) : step.2 ≤ 1 := by
  have told {x : Except Ending Request} {skip : Nat} (small : skip ≤ 1)
      (h : (x >>= fun request => pure (request, skip)) = .ok step) : step.2 ≤ 1 := by
    obtain ⟨_, -, e⟩ := bind_eq_ok.1 h
    exact (Except.ok.inj e) ▸ small
  cases next with
  | none => exact (take_next none h).1 ▸ Nat.zero_le 1
  | some ahead =>
    obtain ⟨uses, -, h⟩ := bind_eq_ok.1 h
    generalize uses.getLast? = last at h
    rcases last with _ | ⟨last, _ | value⟩
    · exact told (Nat.zero_le 1) h
    · dsimp only at h
      split at h
      · exact told (Nat.le_refl 1) h
      · exact told (Nat.zero_le 1) h
    · exact told (Nat.zero_le 1) h

end Option

/-! ## One word -/

section Step

variable {p p' : Progress} {w : Word VerifyOption} {rest : List (Word VerifyOption)} {skip : Nat}

/-- What a word comes to with the words after it: the progress, and how many of them are read with it. -/
def step (p : Progress) (w : Word VerifyOption) (rest : List (Word VerifyOption)) :
    Except Ending (Progress × Nat) :=
  match w with
  | .unknown text => .ok (p.leave text, 0)
  | .plain text =>
    if p.named then .ok (p.leave text, 0)
    else .ok (p.name text (besideConnector rest).2, (besideConnector rest).1)
  | .separator =>
    match p.named, rest with
    | false, .plain text :: more => .ok (p.name text (besideConnector more).2, (besideConnector more).1 + 1)
    | _, _ => .ok (p.leave "--", 0)
  | .option f name attached _ =>
    (p.request.take f name attached (valueAhead rest)).map fun step =>
      ({ p with request := step.1 }, step.2)

theorem readWords_cons (p : Progress) (w : Word VerifyOption) (rest : List (Word VerifyOption)) :
    readWords p 0 (w :: rest) = step p w rest >>= fun step => readWords step.1 step.2 rest := by
  cases w with
  | unknown text => rfl
  | plain text =>
    rw [readWords, step]
    split <;> rfl
  | separator =>
    unfold step
    dsimp only
    split
    next unnamed => exact readWords.eq_5 p _ _ unnamed
    next other => exact readWords.eq_6 p _ other
  | option f name attached text =>
    have onward (x : Except Ending Request) (skip : Nat) :
        (x >>= fun request => readWords { p with request } skip rest) =
          ((x >>= fun request => pure (request, skip)).map fun step =>
            (({ p with request := step.1 } : Progress), step.2)) >>= fun step =>
              readWords step.1 step.2 rest := by
      cases x <;> rfl
    rw [readWords, step, take]
    rcases (Word.uses verifyOptions f name attached).mapError (Ending.complaint verifyProgram) with e | uses
    · rfl
    · rw [ok_bind, ok_bind]
      rcases uses.getLast? with _ | ⟨last, _ | value⟩
      · exact onward _ 0
      · rcases rest with _ | ⟨_ | _ | _ | _, rest⟩
        all_goals dsimp only [valueAhead]
        all_goals split
        all_goals first | rfl | exact onward _ _
      · exact onward _ 0

/-- The step with JSON asked for. -/
theorem step_withJson (p : Progress) (w : Word VerifyOption) (rest : List (Word VerifyOption)) :
    step p.withJson w rest = (step p w rest).map fun step => (step.1.withJson, step.2) := by
  cases w with
  | unknown text => rfl
  | plain text =>
    have same : p.withJson.named = p.named := rfl
    rw [step, step, same]
    split <;> rfl
  | separator =>
    have same : p.withJson.named = p.named := rfl
    unfold step
    dsimp only
    rw [same]
    split <;> rfl
  | option f name attached text =>
    rw [step, step, Progress.withJson, take_withJson]
    cases p.request.take f name attached (valueAhead rest) <;> rfl

/-- A word that nobody asked for stays. -/
theorem step_leftOver (h : step p w rest = .ok (p', skip)) : p.leftOver <+: p'.leftOver := by
  have left (text : String) : p.leftOver <+: (p.leave text).leftOver := List.prefix_append ..
  cases w with
  | unknown text => exact (Prod.mk.inj (Except.ok.inj h)).1 ▸ left text
  | plain text =>
    rw [step] at h
    split at h
    · exact (Prod.mk.inj (Except.ok.inj h)).1 ▸ left text
    · exact (Prod.mk.inj (Except.ok.inj h)).1 ▸ List.prefix_rfl
  | separator =>
    unfold step at h
    dsimp only at h
    split at h
    · exact (Prod.mk.inj (Except.ok.inj h)).1 ▸ List.prefix_rfl
    · exact (Prod.mk.inj (Except.ok.inj h)).1 ▸ left "--"
  | option f name attached text =>
    rw [step] at h
    rcases taken : p.request.take f name attached (valueAhead rest) with e | step
    · rw [taken] at h
      exact nomatch h
    · rw [taken] at h
      exact (Prod.mk.inj (Except.ok.inj h)).1 ▸ List.prefix_rfl

end Step

/-! ## All words -/

/-- That JSON is asked for changes nothing of what the words after it come to. -/
theorem readWords_withJson (p : Progress) (skip : Nat) (words : List (Word VerifyOption)) :
    readWords p.withJson skip words = (readWords p skip words).map Progress.withJson := by
  induction words generalizing p skip with
  | nil => cases skip <;> rfl
  | cons w rest ih =>
    cases skip with
    | succ skip => exact ih _ _
    | zero =>
      rw [readWords_cons, readWords_cons, step_withJson]
      rcases step p w rest with e | ⟨p', skip⟩
      · rfl
      · exact ih p' skip

theorem readWords_leftOver {p q : Progress} {skip : Nat} {words : List (Word VerifyOption)}
    (h : readWords p skip words = .ok q) : p.leftOver <+: q.leftOver := by
  induction words generalizing p skip with
  | nil => cases skip <;> exact (Except.ok.inj h) ▸ List.prefix_rfl
  | cons w rest ih =>
    cases skip with
    | succ skip => exact ih h
    | zero =>
      rw [readWords_cons] at h
      obtain ⟨⟨p', skip⟩, stepped, h⟩ := bind_eq_ok.1 h
      exact (step_leftOver stepped).trans (ih h)

/-- The option that asks for JSON. -/
def jsonWord : Word VerifyOption := .option ⟨.json, ["--json"], false⟩ "--json" none "--json"

theorem ofText_json : Word.ofText verifyOptions "--json" = .ok jsonWord := by rfl

/-- Words that begin with one that nobody asked for, once the connector is known. -/
def Stray (words : List (Word VerifyOption)) : Prop :=
  ∃ w rest, words = w :: rest ∧ ((∃ text, w = .plain text) ∨ w = .separator)

theorem readWords_stray {p q : Progress} {words : List (Word VerifyOption)} (named : p.named = true)
    (stray : Stray words) (h : readWords p 0 words = .ok q) : q.leftOver ≠ [] := by
  obtain ⟨w, rest, rfl, stray⟩ := stray
  obtain ⟨text, left⟩ : ∃ text, step p w rest = .ok (p.leave text, 0) := by
    rcases stray with ⟨text, rfl⟩ | rfl
    · exact ⟨text, if_pos named⟩
    · refine ⟨"--", ?_⟩
      unfold step
      dsimp only
      rw [named]
  rw [readWords_cons, left] at h
  have stays : p.leftOver ++ [text] <+: q.leftOver := readWords_leftOver h
  intro none
  rw [none] at stays
  exact absurd (List.prefix_nil.1 stays) (by simp)

theorem dropSeparator_cons {w : Word VerifyOption} (h : isSeparator w = false)
    (rest : List (Word VerifyOption)) : dropSeparator (w :: rest) = w :: rest := by
  cases w with
  | separator => exact nomatch h
  | _ => rfl

theorem besideConnector_root {w : Word VerifyOption} (h : isSeparator w = false) (root : String)
    (rest : List (Word VerifyOption)) : besideConnector (.plain root :: w :: rest) = (1, some root) := by
  rw [besideConnector, dropSeparator_cons rfl]
  dsimp only
  rw [dropSeparator_cons h, Nat.sub_self, Nat.sub_self]

/-- A word that is no root ends the look for one. -/
theorem besideConnector_other {w : Word VerifyOption} {rest : List (Word VerifyOption)}
    (h : isSeparator w = false) (other : valueAhead (w :: rest) = none) :
    besideConnector (w :: rest) = (0, none) := by
  rw [besideConnector, dropSeparator_cons h, Nat.sub_self]
  cases w with
  | plain text => exact nomatch other
  | _ => rfl

/-- What stands beside a connector is the same with the option among the words, unless the option keeps
something apart from the connector. -/
theorem besideConnector_insert {before : List (Word VerifyOption)} (after : List (Word VerifyOption))
    (apart : ∀ w ∈ before, isSeparator w = false) :
    (besideConnector (before ++ jsonWord :: after)).1 ≤ before.length ∧
      (besideConnector (before ++ after) = besideConnector (before ++ jsonWord :: after) ∨
        (besideConnector (before ++ jsonWord :: after)).1 = before.length ∧ Stray after) := by
  match before, apart with
  | [], _ =>
    rw [List.nil_append, List.nil_append, besideConnector_other (w := jsonWord) rfl rfl]
    refine ⟨Nat.zero_le _, ?_⟩
    rcases after with _ | ⟨_ | _ | _ | _, rest⟩
    · exact .inl rfl
    · exact .inr ⟨rfl, _, _, rfl, .inl ⟨_, rfl⟩⟩
    · exact .inl (besideConnector_other rfl rfl)
    · exact .inl (besideConnector_other rfl rfl)
    · exact .inr ⟨rfl, _, _, rfl, .inr rfl⟩
  | .plain root :: [], _ =>
    rw [List.singleton_append, List.singleton_append, besideConnector_root rfl]
    refine ⟨Nat.le_refl 1, ?_⟩
    rcases after with _ | ⟨_ | _ | _ | _, rest⟩
    · exact .inl rfl
    · exact .inr ⟨rfl, _, _, rfl, .inl ⟨_, rfl⟩⟩
    · exact .inl (besideConnector_root rfl root rest)
    · exact .inl (besideConnector_root rfl root rest)
    · exact .inr ⟨rfl, _, _, rfl, .inr rfl⟩
  | .plain root :: w :: before, apart =>
    have here : isSeparator w = false := apart w (by simp)
    simp only [List.cons_append, besideConnector_root here]
    exact ⟨by simp, .inl trivial⟩
  | .separator :: before, apart => exact nomatch apart _ List.mem_cons_self
  | .unknown text :: before, _ =>
    simp only [List.cons_append, besideConnector_other (w := .unknown text) rfl rfl]
    exact ⟨Nat.zero_le _, .inl trivial⟩
  | .option f name attached text :: before, _ =>
    simp only [List.cons_append, besideConnector_other (w := .option f name attached text) rfl rfl]
    exact ⟨Nat.zero_le _, .inl trivial⟩

/-- A word comes to the same with the option among the words after it, unless the option keeps something
apart from the connector. -/
theorem step_insert {p p' : Progress} {w : Word VerifyOption} {skip : Nat}
    {before after : List (Word VerifyOption)} (apart : ∀ v ∈ w :: before, isSeparator v = false)
    (h : step p w (before ++ jsonWord :: after) = .ok (p', skip)) :
    skip ≤ before.length ∧ (step p w (before ++ after) = .ok (p', skip) ∨
      skip = before.length ∧ p'.named = true ∧ Stray after) := by
  obtain ⟨here, others⟩ := List.forall_mem_cons.1 apart
  cases w with
  | unknown text =>
    obtain ⟨rfl, rfl⟩ := Prod.mk.inj (Except.ok.inj h)
    exact ⟨Nat.zero_le _, .inl rfl⟩
  | plain text =>
    rw [step] at h ⊢
    by_cases named : p.named = true
    · rw [if_pos named] at h ⊢
      obtain ⟨rfl, rfl⟩ := Prod.mk.inj (Except.ok.inj h)
      exact ⟨Nat.zero_le _, .inl rfl⟩
    · rw [if_neg named] at h ⊢
      obtain ⟨rfl, rfl⟩ := Prod.mk.inj (Except.ok.inj h)
      obtain ⟨short, same | ⟨whole, stray⟩⟩ := besideConnector_insert after others
      · exact ⟨short, .inl (by rw [same])⟩
      · exact ⟨short, .inr ⟨whole, rfl, stray⟩⟩
  | separator => exact nomatch here
  | option f name attached text =>
    rw [step] at h ⊢
    rcases taken : p.request.take f name attached (valueAhead (before ++ jsonWord :: after)) with e | one
    · rw [taken] at h
      exact nomatch h
    · rw [taken] at h
      obtain ⟨rfl, rfl⟩ := Prod.mk.inj (Except.ok.inj h)
      cases before with
      | nil =>
        obtain ⟨none, same⟩ := take_next (valueAhead after) taken
        refine ⟨Nat.le_of_eq none, .inl ?_⟩
        rw [List.nil_append, same]
        rfl
      | cons v before =>
        have ahead : valueAhead (v :: before ++ after) = valueAhead (v :: before ++ jsonWord :: after) := by
          cases v <;> rfl
        refine ⟨Nat.le_trans (take_le taken) (by simp), .inl ?_⟩
        rw [ahead, taken]
        rfl

theorem readWords_length (p : Progress) (before after : List (Word VerifyOption)) :
    readWords p before.length (before ++ after) = readWords p 0 after := by
  induction before with
  | nil => rfl
  | cons w before ih => exact ih

theorem readWords_jsonWord (p : Progress) (rest : List (Word VerifyOption)) :
    readWords p 0 (jsonWord :: rest) = readWords p.withJson 0 rest := by
  have taken (next : Option String) :
      p.request.take ⟨.json, ["--json"], false⟩ "--json" none next = .ok (p.request.withJson, 0) := by
    cases next <;> rfl
  rw [readWords_cons, jsonWord, step, taken]
  rfl

/-- If the words come to something with the option and without it, they come to the same. -/
theorem readWords_insert {before after : List (Word VerifyOption)}
    (apart : ∀ w ∈ before, isSeparator w = false) {p q q' : Progress} {skip : Nat}
    (short : skip ≤ before.length) (without : readWords p skip (before ++ after) = .ok q)
    (within : readWords p skip (before ++ jsonWord :: after) = .ok q') (all : q'.leftOver = []) :
    q' = q.withJson := by
  induction before generalizing p skip with
  | nil =>
    obtain rfl := Nat.le_zero.1 short
    rw [List.nil_append, readWords_jsonWord, readWords_withJson] at within
    rw [List.nil_append] at without
    rw [without] at within
    exact (Except.ok.inj within).symm
  | cons w before ih =>
    obtain ⟨-, others⟩ := List.forall_mem_cons.1 apart
    cases skip with
    | succ skip => exact ih others (Nat.le_of_succ_le_succ short) without within
    | zero =>
      rw [List.cons_append, readWords_cons] at without within
      obtain ⟨⟨p', skip⟩, stepped, within⟩ := bind_eq_ok.1 within
      obtain ⟨short, same | ⟨rfl, named, stray⟩⟩ := step_insert apart stepped
      · rw [same] at without
        exact ih others short without within
      · -- The word that the option keeps apart is one that nobody asked for.
        rw [readWords_length, readWords_jsonWord] at within
        exact absurd all (readWords_stray (p := p'.withJson) named stray within)

/-! ## Command lines -/

section Classify

variable {α : Type} {forms : List (OptionForm α)} {text : String} {w : Word α}

theorem ofText_eq_ok (h : Word.ofText forms text = .ok w) : w.text = text ∧ isSeparator w = false := by
  unfold Word.ofText at h
  split at h
  · dsimp only at h
    split at h
    · exact Except.ok.inj h ▸ ⟨rfl, rfl⟩
    · exact Except.ok.inj h ▸ ⟨rfl, rfl⟩
    · split at h
      · exact Except.ok.inj h ▸ ⟨rfl, rfl⟩
      · split at h
        · exact Except.ok.inj h ▸ ⟨rfl, rfl⟩
        · split at h
          · exact Except.ok.inj h ▸ ⟨rfl, rfl⟩
          · exact Except.ok.inj h ▸ ⟨rfl, rfl⟩
        · exact nomatch h
  · exact Except.ok.inj h ▸ ⟨rfl, rfl⟩

theorem classify_cons (h : text ≠ "--") (rest : List String) :
    Word.classify forms (text :: rest) =
      Word.ofText forms text >>= fun w => Word.classify forms rest >>= fun ws => pure (w :: ws) := by
  rw [Word.classify, if_neg (by simpa using h)]

/-- The words are the texts of the command line. -/
theorem text_classify {arguments : List String} {ws : List (Word α)}
    (h : Word.classify forms arguments = .ok ws) : ws.map Word.text = arguments := by
  induction arguments generalizing ws with
  | nil => exact Except.ok.inj h ▸ rfl
  | cons text rest ih =>
    by_cases separator : text = "--"
    · subst separator
      obtain rfl := Except.ok.inj h
      simp [Word.text, Function.comp_def]
    · rw [classify_cons separator] at h
      obtain ⟨w, here, h⟩ := bind_eq_ok.1 h
      obtain ⟨others, there, h⟩ := bind_eq_ok.1 h
      obtain rfl := Except.ok.inj h
      rw [List.map_cons, (ofText_eq_ok here).1, ih there]

/-- Without two dashes among the first words, each word is made out on its own. -/
theorem classify_append {before : List String} (apart : "--" ∉ before) (after : List String) :
    Word.classify forms (before ++ after) =
      before.mapM (Word.ofText forms) >>= fun ws =>
        Word.classify forms after >>= fun vs => pure (ws ++ vs) := by
  induction before with
  | nil =>
    rw [List.nil_append, List.mapM_nil]
    cases Word.classify forms after <;> rfl
  | cons text before ih =>
    obtain ⟨here, others⟩ := not_or.1 (List.mem_cons.not.1 apart)
    rw [List.cons_append, classify_cons (Ne.symm here), ih others, List.mapM_cons]
    cases Word.ofText forms text with
    | error e => rfl
    | ok w =>
      cases before.mapM (Word.ofText forms) with
      | error e => rfl
      | ok ws => cases Word.classify forms after <;> rfl

theorem apart_mapM {before : List String} {ws : List (Word α)}
    (h : before.mapM (Word.ofText forms) = .ok ws) : ∀ w ∈ ws, isSeparator w = false := by
  intro w mem
  obtain ⟨text, -, made⟩ := exists_of_mem_mapM h mem
  exact (ofText_eq_ok made).2

end Classify

theorem ofVerifyWords_eq_ok {arguments left : List String} {r : Request} :
    ofVerifyWords arguments = .ok (r, left) ↔
      ∃ ws, Word.classify verifyOptions arguments = .ok ws ∧ ∃ p, readWords {} 0 ws = .ok p ∧
        p.named = true ∧ p.request = r ∧ p.leftOver = left := by
  unfold ofVerifyWords
  rcases Word.classify verifyOptions arguments with e | ws
  · simp [Except.mapError, error_bind]
  · simp only [Except.mapError, ok_bind, Except.ok.injEq, exists_eq_left', bind_eq_ok]
    refine exists_congr fun p => and_congr_right fun _ => ?_
    split
    next named => simp [named, pure, Except.pure]
    next unnamed => simp [unnamed]

theorem classify_json (words : List String) :
    Word.classify verifyOptions ("--json" :: words) =
      Word.classify verifyOptions words >>= fun ws => pure (jsonWord :: ws) := by
  rw [classify_cons (by decide), ofText_json, ok_bind]

/-- The option may stand right after the command. -/
theorem ofVerifyWords_json (words : List String) :
    ofVerifyWords ("--json" :: words) =
      (ofVerifyWords words).map fun found => (found.1.withJson, found.2) := by
  rw [ofVerifyWords, ofVerifyWords, classify_json]
  rcases Word.classify verifyOptions words with e | ws
  · rfl
  · simp only [ok_bind, pure, Except.pure, Except.mapError]
    rw [readWords_jsonWord, readWords_withJson]
    rcases readWords {} 0 ws with e | p
    · rfl
    · cases named : p.named <;> simp [Except.map, Progress.withJson, named, ok_bind]

theorem ofVerifyWords_insert {before after left : List String} {r r' : Request} (apart : "--" ∉ before)
    (without : ofVerifyWords (before ++ after) = .ok (r, left))
    (within : ofVerifyWords (before ++ "--json" :: after) = .ok (r', [])) : r' = r.withJson := by
  obtain ⟨_, classified, p, read, -, rfl, -⟩ := ofVerifyWords_eq_ok.1 without
  obtain ⟨_, classified', p', read', -, rfl, all⟩ := ofVerifyWords_eq_ok.1 within
  rw [classify_append apart] at classified classified'
  obtain ⟨ws, first, classified⟩ := bind_eq_ok.1 classified
  rw [first, ok_bind, classify_json] at classified'
  obtain ⟨vs, last, classified⟩ := bind_eq_ok.1 classified
  rw [last] at classified'
  obtain rfl := Except.ok.inj classified
  obtain rfl := Except.ok.inj classified'
  exact congrArg Progress.request
    (readWords_insert (apart_mapM first) (Nat.zero_le _) read read' all)

theorem readProgramWords_eq_ok {left : List String} {ws : List (Word ProgramOption)} {r : Request}
    (h : readProgramWords left ws = .ok r) :
    left = [] ∧ ∃ rest, ws = .plain verifyName :: rest ∧ ofVerifyWords (rest.map Word.text) = .ok (r, []) := by
  induction ws generalizing left with
  | nil => exact nomatch h
  | cons w ws ih =>
    cases w with
    | unknown text => exact absurd (ih h).1 (by simp)
    | option f name attached text =>
      rw [readProgramWords] at h
      split at h <;> exact nomatch h
    | separator =>
      rw [readProgramWords] at h
      split at h <;> exact nomatch h
    | plain text =>
      rw [readProgramWords] at h
      split at h
      next named =>
        obtain ⟨⟨request, more⟩, found, h⟩ := bind_eq_ok.1 h
        dsimp only at h
        split at h
        next none =>
          obtain rfl := Except.ok.inj h
          rw [List.isEmpty_iff, List.append_eq_nil_iff] at none
          obtain ⟨rfl, rfl⟩ := none
          obtain rfl := beq_iff_eq.1 named
          exact ⟨rfl, ws, rfl, found⟩
        · exact nomatch h
      · exact nomatch h

/-- A command line that is accepted names the command first. -/
theorem ofArguments_eq_ok {arguments : List String} {r : Request} (h : ofArguments arguments = .ok r) :
    ∃ words, arguments = verifyName :: words ∧ ofVerifyWords words = .ok (r, []) := by
  unfold ofArguments at h
  rcases classified : Word.classify programOptions arguments with e | ws
  · rw [classified] at h
    exact nomatch h
  · rw [classified] at h
    obtain ⟨-, rest, rfl, found⟩ := readProgramWords_eq_ok h
    exact ⟨_, (text_classify classified).symm, found⟩

theorem ofArguments_json (words : List String) :
    ofArguments (verifyName :: "--json" :: words) = (ofArguments (verifyName :: words)).map withJson := by
  have command : Word.ofText programOptions verifyName = .ok (.plain verifyName) := by rfl
  have unknown : Word.ofText programOptions "--json" = .ok (.unknown "--json") := by
    with_unfolding_all rfl
  unfold ofArguments
  rw [classify_cons (by decide), classify_cons (by decide), classify_cons (by decide), command, unknown]
  rcases classified : Word.classify programOptions words with e | ws
  · rfl
  · simp only [ok_bind, pure, Except.pure, Except.mapError, readProgramWords, beq_self_eq_true, if_true,
      List.map_cons, Word.text, text_classify classified, ofVerifyWords_json]
    rcases ofVerifyWords words with e | ⟨r, left⟩
    · rfl
    · simp only [Except.map, ok_bind, List.nil_append]
      split <;> rfl

/-- Command lines that are accepted with the option and without it ask for the same otherwise. -/
theorem ofArguments_insert {before after : List String} {r r' : Request} (apart : "--" ∉ before)
    (without : ofArguments (before ++ after) = .ok r)
    (within : ofArguments (before ++ "--json" :: after) = .ok r') : r' = r.withJson := by
  obtain ⟨words, e, asked⟩ := ofArguments_eq_ok without
  obtain ⟨words', e', asked'⟩ := ofArguments_eq_ok within
  cases before with
  | nil => exact absurd (List.cons.inj e').1 (by decide)
  | cons command before =>
    obtain ⟨-, rfl⟩ := List.cons.inj e
    obtain ⟨-, rfl⟩ := List.cons.inj e'
    exact ofVerifyWords_insert (not_or.1 (List.mem_cons.not.1 apart)).2 asked asked'

end ModuleAudit.Command.Request
