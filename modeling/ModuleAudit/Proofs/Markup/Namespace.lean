import ModuleAudit.Proofs.Markup.Content

/-!
# Namespaces of documents

All elements of a document may be in one namespace, by default or by a prefix (`Naming`). The outermost tag
declares it.

* `Spells.value`: the namespace is read as it is spelled, but for white space (`asRead`);
* `scanOpening_declared`: the outermost tag is scanned with what declares the namespace;
* `leads_outermost`: behind the tag its prefix is in use.
-/

namespace ModuleAudit.Markup

/-! ## Values of attributes -/

/-- A character that may stand for itself in the name of a namespace between quotes. -/
def IsInValue (quote c : Char) : Prop := isChar c = true ∧ c ≠ '<' ∧ c ≠ '&' ∧ c ≠ quote

instance (quote c : Char) : Decidable (IsInValue quote c) := inferInstanceAs (Decidable (_ ∧ _ ∧ _ ∧ _))

/-- A value as it is read: white space of any kind becomes a blank, and so does a carriage return with the
newline behind it. -/
def asRead : List Char → List Char
  | [] => []
  | c :: rest =>
    if c = '\r' ∧ rest.head? = some '\n' then asRead rest
    else (if isSpace c then ' ' else c) :: asRead rest

variable {quote : Char} {written text rest name : List Char}

/-! ### White space in values -/

theorem eq_blank_or_mem_of_mem_asRead {c : Char} (h : c ∈ asRead text) : c = ' ' ∨ c ∈ text := by
  induction text with
  | nil => cases h
  | cons d text ih =>
    rw [asRead] at h
    split at h
    · exact (ih h).imp_right (List.mem_cons_of_mem d)
    · rcases List.mem_cons.1 h with rfl | h
      · split
        · exact .inl rfl
        · exact .inr List.mem_cons_self
      · exact (ih h).imp_right (List.mem_cons_of_mem d)

theorem asRead_eq_self (h : ∀ c ∈ text, isSpace c = false) : asRead text = text := by
  induction text with
  | nil => rfl
  | cons c text ih =>
    rw [List.forall_mem_cons] at h
    have notReturn : c ≠ '\r' := by rintro rfl; cases h.1
    rw [asRead, if_neg (fun pair => notReturn pair.1), ih h.2, h.1]
    rfl

/-- Where no blank is read, there is no white space. -/
theorem asRead_eq_self_of_not_mem (h : ' ' ∉ asRead text) : asRead text = text := by
  induction text with
  | nil => rfl
  | cons c text ih =>
    rw [asRead] at h ⊢
    split at h
    next pair =>
      -- The newline is read as a blank.
      obtain ⟨text, rfl⟩ := List.head?_eq_some_iff.1 pair.2
      exact absurd List.mem_cons_self h
    next alone =>
      rw [List.mem_cons, not_or] at h
      rw [if_neg alone, ih h.2]
      split
      next space => exact absurd (if_pos space).symm h.1
      next => rfl

theorem asRead_eq_iff (h : ∀ c ∈ name, isSpace c = false) : asRead text = name ↔ text = name := by
  constructor
  · intro same
    have noBlank : ' ' ∉ asRead text := fun mem => Bool.false_ne_true ((h ' ' (same ▸ mem)).symm.trans rfl)
    rw [← asRead_eq_self_of_not_mem noBlank, same]
  · rintro rfl
    exact asRead_eq_self h

/-! ### Scanning and reading -/

theorem scanValue_run (run : List Char) (h : ∀ c ∈ run, IsInValue quote c) (done rest : List Char) :
    scanValue quote done (run ++ rest) = scanValue quote (run.reverse ++ done) rest := by
  induction run generalizing done with
  | nil => rfl
  | cons c run ih =>
    rw [List.forall_mem_cons] at h
    obtain ⟨isC, angle, sign, notQuote⟩ := h.1
    rw [List.cons_append, scanValue]
    simp [isC, angle, sign, notQuote, ih h.2]

theorem mem_reference {name : List Char} {c d : Char} (h : (name, c) ∈ predefined)
    (isQ : isQuote quote = true)
    (hd : d ∈ name ++ [';']) : IsInValue quote d := by
  have plain : predefined.all fun e =>
      (e.1 ++ [';']).all fun d => isChar d && d != '<' && d != '&' && !isQuote d := by decide
  have plain := List.all_eq_true.1 (List.all_eq_true.1 plain _ h) d hd
  simp only [Bool.and_eq_true, bne_iff_ne, Bool.not_eq_true', and_assoc] at plain
  obtain ⟨isC, angle, sign, notQ⟩ := plain
  refine ⟨isC, angle, sign, ?_⟩
  rintro rfl
  rw [isQ] at notQ
  cases notQ

/-- A value is scanned to its closing quote. -/
theorem Spells.scanValue (h : Spells (IsInValue quote) written text) (isQ : isQuote quote = true)
    (done rest : List Char) :
    scanValue quote done (written ++ quote :: rest) = .ok (done.reverse ++ written, rest) := by
  induction h generalizing done with
  | nil => simp [Markup.scanValue, pure, Except.pure]
  | @plain c written text h _ ih =>
    have run := scanValue_run [c] (List.forall_mem_singleton.2 h) done (written ++ quote :: rest)
    rw [List.singleton_append] at run
    rw [List.cons_append, run, ih]
    simp
  | @reference name c written text h _ ih =>
    have run := scanValue_run (name ++ [';']) (fun d => mem_reference h isQ) ('&' :: done)
      (written ++ quote :: rest)
    have scanned := scanReference_append (isName_of_predefined h) (written ++ quote :: rest)
    have notQuote : '&' ≠ quote := by rintro rfl; cases isQ
    rw [List.append_assoc, List.singleton_append] at run
    rw [List.cons_append, List.cons_append, List.append_assoc, List.cons_append, Markup.scanValue]
    have isC : isChar '&' = true := rfl
    simp [notQuote, scanned, run, ih, isC, bind, Except.bind]

theorem push_append (value : String) (c : Char) (text : List Char) :
    value.push c ++ String.ofList text = value ++ String.ofList (c :: text) := String.toList_inj.1 (by simp)

theorem Spells.head?_newline {plain : Char → Prop} (h : Spells plain written text) :
    written.head? = some '\n' ↔ text.head? = some '\n' := by
  cases h with
  | nil => rfl
  | plain => rfl
  | @reference name c _ _ h _ =>
    have other : predefined.all fun e => e.2 != '\n' := by decide
    have other : c ≠ '\n' := bne_iff_ne.1 (List.all_eq_true.1 other _ h)
    simp [other]

/-- What a value adds to a text when its references are replaced. -/
theorem Spells.readWith (h : Spells (IsInValue quote) written text) {fuel : Nat}
    (enough : written.length < fuel) (value : String) (b : Budget) :
    ∃ b', Value.readWith (Value.expand {} 1 []) true fuel value written b =
      .ok (value ++ String.ofList (asRead text), b') := by
  induction h generalizing fuel value b with
  | nil =>
    obtain ⟨fuel, rfl⟩ := Nat.exists_eq_succ_of_ne_zero enough.ne'
    exact ⟨b, by rw [Value.readWith, Reading.pure_ok]; simp [asRead]⟩
  | @plain c written text h spelled ih =>
    obtain ⟨-, angle, sign, -⟩ := h
    by_cases pair : c = '\r' ∧ text.head? = some '\n'
    · -- Both characters of the line end are read in one step, as the newline alone is.
      obtain ⟨rfl, newline⟩ := pair
      obtain ⟨written, rfl⟩ := List.head?_eq_some_iff.1 (spelled.head?_newline.2 newline)
      obtain ⟨b', read⟩ := ih (Nat.lt_of_succ_lt enough) value b
      obtain ⟨fuel, rfl⟩ := Nat.exists_eq_succ_of_ne_zero (Nat.ne_zero_of_lt enough)
      refine ⟨b', ?_⟩
      rw [asRead, if_pos ⟨rfl, newline⟩, ← read, Value.readWith, Value.readWith]
      simp [isSpace]
    · obtain ⟨fuel, rfl⟩ := Nat.exists_eq_succ_of_ne_zero (Nat.ne_zero_of_lt enough)
      obtain ⟨b', read⟩ := ih (Nat.lt_of_succ_lt_succ enough) (value.push (if isSpace c then ' ' else c)) b
      refine ⟨b', ?_⟩
      rw [asRead, if_neg pair, ← push_append, ← read, Value.readWith]
      rw [← spelled.head?_newline] at pair
      simp [angle, sign, pair]
  | @reference name c written text h _ ih =>
    obtain ⟨fuel, rfl⟩ := Nat.exists_eq_succ_of_ne_zero (Nat.ne_zero_of_lt enough)
    have scanned := scanReference_append (isName_of_predefined h) written
    have enough : written.length < fuel := by
      simp only [List.length_cons, List.length_append] at enough
      omega
    have expanded :
        Value.expand {} 1 [] name value b = .ok (value.push c, { b with added := b.added + 1 }) := by
      change Value.expand {} (0 + 1) [] name value b = _
      rw [Value.expand, lookup_predefined h]
      rfl
    obtain ⟨b', read⟩ := ih enough (value.push c) { b with added := b.added + 1 }
    refine ⟨b', ?_⟩
    have plain : isSpace c = false := by
      have each : predefined.all fun e => !isSpace e.2 := by decide
      simpa using List.all_eq_true.1 each _ h
    have alone : ¬ (c = '\r' ∧ text.head? = some '\n') := by rintro ⟨rfl, -⟩; cases plain
    rw [asRead, if_neg alone, plain, if_neg Bool.false_ne_true, List.cons_append, Value.readWith,
      if_pos (beq_self_eq_true '&'), scanned]
    dsimp only
    rw [Reading.bind_ok (Reading.placing_ok expanded _), read, push_append]

/-- The value of an attribute is what it spells, but for white space. -/
theorem Spells.value (h : Spells (IsInValue quote) written text) (b : Budget) :
    ∃ b', Value.text {} true [] false written b = .ok (String.ofList (asRead text), b') := by
  obtain ⟨b', read⟩ := h.readWith (Nat.lt_succ_self _) "" b
  refine ⟨b', ?_⟩
  rw [Value.text]
  change (Value.readWith (Value.expand {} 1 []) true (written.length + 1) "" written >>= _) b = _
  rw [Reading.bind_ok read, Reading.pure_ok]
  simp

/-! ## Namespaces -/

/-- The namespace of the elements of a document, and how they tell it. -/
inductive Naming
  /-- There is none. -/
  | bare
  /-- The outermost element declares it for itself and all elements inside. -/
  | default (space : List Char)
  /-- All elements have a prefix that the outermost one declares. -/
  | prefixed (p space : List Char)

namespace Naming

/-- The prefix of all elements, if they have one. -/
def qualifier? : Naming → Option (List Char)
  | prefixed p _ => some p
  | _ => none

/-- The attribute that declares the namespace, and its value. -/
def declaration? : Naming → Option (QualifiedName × List Char)
  | bare => none
  | default space => some (⟨none, "xmlns".toList⟩, space)
  | prefixed p space => some (⟨some "xmlns".toList, p⟩, space)

/-- The name of a namespace may be declared: it has some characters, and no closing brace. -/
def IsSpaceName (space : List Char) : Prop := space ≠ [] ∧ '\x7d' ∉ space

/-- The reserved prefixes and namespaces stay what they are. -/
def IsProper : Naming → Prop
  | bare => True
  | default space => IsSpaceName space ∧ space ≠ xmlNamespace.toList ∧ space ≠ xmlnsNamespace.toList
  | prefixed p space => IsSpaceName space ∧ IsName p ∧ p ≠ "xmlns".toList ∧
    (p = "xml".toList ↔ space = xmlNamespace.toList) ∧ space ≠ xmlnsNamespace.toList

/-- What declares a namespace is written in the outermost tag, between quotes of either kind. -/
inductive Declares (n : Naming) : List Char → Prop
  | nothing (h : n.declaration? = none) : Declares n []
  | byAttribute {name : QualifiedName} {space blanks written : List Char} {quote : Char}
      (h : n.declaration? = some (name, space)) (spaced : blanks ≠ [])
      (blank : ∀ c ∈ blanks, isSpace c = true) (isQ : isQuote quote = true)
      (spelled : Spells (IsInValue quote) written space) :
      Declares n (blanks ++ (name.written ++ '=' :: quote :: (written ++ [quote])))

end Naming

theorem Spells.not_mem (h : Spells (IsInValue quote) written text) : '<' ∉ written := by
  induction h with
  | nil => exact List.not_mem_nil
  | plain h _ ih => simpa [ih] using h.2.1.symm
  | @reference name _ _ _ h _ ih =>
    have inName : '<' ∉ name := fun mem => absurd ((isName_of_predefined h).each _ mem) (by decide)
    simp [inName, ih]

/-! ### The outermost tag -/

theorem scanTagRest_blanks {blanks : List Char} (blank : ∀ c ∈ blanks, isSpace c = true) (spaced : Bool)
    (fuel : Nat) (rest : List Char) : scanTagRest spaced (fuel + blanks.length) (blanks ++ rest) =
      scanTagRest (spaced || !blanks.isEmpty) fuel rest := by
  induction blanks generalizing spaced with
  | nil => simp
  | cons c blanks ih =>
    rw [List.forall_mem_cons] at blank
    have notEnd : c ≠ '>' ∧ c ≠ '/' := by constructor <;> rintro rfl <;> cases blank.1
    rw [List.length_cons, ← Nat.add_assoc, List.cons_append, scanTagRest]
    simp [notEnd, blank.1, ih blank.2]

theorem scanAttribute_append {name : QualifiedName} (h : name.IsProper) (isQ : isQuote quote = true)
    (spelled : Spells (IsInValue quote) written text) (rest : List Char) :
    scanAttribute (name.written ++ '=' :: quote :: (written ++ quote :: rest)) =
      .ok (⟨name, name.written ++ '=' :: quote :: (written ++ quote :: rest), written,
        written ++ quote :: rest⟩,
        rest) := by
  have notSpace : isSpace quote = false := by
    simp only [isQuote, Bool.or_eq_true, beq_iff_eq] at isQ
    rcases isQ with rfl | rfl <;> rfl
  have sign : isSpace '=' = false := rfl
  rw [scanAttribute, scanQualifiedName_append h rfl (by decide)]
  simp [bind, Except.bind, pure, Except.pure, expectChar, skipSpace_cons notSpace, skipSpace_cons sign, isQ,
    spelled.scanValue isQ]

theorem isNameChar_of_isSpace {c : Char} (h : isSpace c = true) : isNameChar c = false ∧ c ≠ ':' := by
  rcases eq_of_isSpace h with rfl | rfl | rfl | rfl <;> exact ⟨rfl, by decide⟩

/-- A tag is scanned with an attribute up to its end. -/
theorem scanTagRest_attribute {name : QualifiedName} (h : name.IsProper) (isQ : isQuote quote = true)
    (spelled : Spells (IsInValue quote) written text) (rest : List Char) :
    let tail := name.written ++ '=' :: quote :: (written ++ quote :: '>' :: rest)
    scanTagRest true (tail.length + 1) tail =
      .ok (([⟨name, tail, written, written ++ quote :: '>' :: rest⟩], false), rest) := by
  intro tail
  have scanned := scanAttribute_append h isQ spelled ('>' :: rest)
  obtain ⟨c, more, same, start, -⟩ := h.written
  have notEnd : c ≠ '>' ∧ c ≠ '/' := by constructor <;> rintro rfl <;> exact absurd start (by decide)
  have notSpace : isSpace c = false := by
    by_contra space
    rcases eq_of_isSpace (Bool.not_eq_false _ ▸ space) with rfl | rfl | rfl | rfl <;>
      exact absurd start (by decide)
  have cons : tail = c :: (more ++ '=' :: quote :: (written ++ quote :: '>' :: rest)) := by
    rw [← List.cons_append, ← same]
  change scanAttribute tail = _ at scanned
  rw [cons] at scanned ⊢
  rw [scanTagRest]
  simp [notEnd, notSpace, scanned, bind, Except.bind, pure, Except.pure, scanTagRest]
  exact cons

/-- The outermost tag with the attribute that declares its namespace. -/
theorem scanOpening_declared {name n : QualifiedName} (hn : n.IsProper) (h : name.IsProper)
    (isQ : isQuote quote = true) (spelled : Spells (IsInValue quote) written text) {blanks : List Char}
    (spaced : blanks ≠ []) (blank : ∀ c ∈ blanks, isSpace c = true) (rest : List Char) :
    ∃ place valuePlace, scanOpening (n.written ++ (blanks ++
      (name.written ++ '=' :: quote :: (written ++ quote :: '>' :: rest)))) =
        .ok (.opening ⟨n, [⟨name, place, written, valuePlace⟩], false⟩, rest) := by
  have scanned := scanTagRest_attribute h isQ spelled rest
  generalize name.written ++ '=' :: quote :: (written ++ quote :: '>' :: rest) = tail at scanned ⊢
  obtain ⟨b, bs, rfl⟩ := List.exists_cons_of_ne_nil spaced
  have stop := isNameChar_of_isSpace (blank b List.mem_cons_self)
  have skipped := scanTagRest_blanks blank false (tail.length + 1) tail
  refine ⟨tail, written ++ quote :: '>' :: rest, ?_⟩
  have fuel : (b :: bs ++ tail).length + 1 = tail.length + 1 + (b :: bs).length := by
    rw [List.length_append]
    omega
  rw [scanOpening, List.cons_append, scanQualifiedName_append hn stop.1 stop.2]
  simp only [bind, Except.bind]
  rw [← List.cons_append, fuel, skipped]
  simp only [List.isEmpty_cons, Bool.not_false, Bool.or_true, scanned]
  rfl

/-! ### Reading the outermost tag -/

theorem addGiven_one {t : Tag} {scope : Scope} {a : WrittenAttribute} {e : Scope.Entering} {value : String}
    (read : ∀ b, ∃ b', Value.text {} true [] false a.written b = .ok (value, b'))
    (adds : Scope.Entering.add { scope } a.name value = .ok e) (b : Budget) :
    ∃ b', Scope.addGiven {} true [] t [] { scope } [a] b = .ok (e, b') := by
  have rest {b : Budget} {f : Malformed → Malformed} : ∃ b',
      ((Value.text {} true [] false a.written).placing f >>=
      fun value => (liftM (Scope.Entering.add { scope } a.name value) : Reading _) >>=
        fun e => Scope.addGiven {} true [] t [a.name] e []) b = .ok (e, b') := by
    obtain ⟨b', read⟩ := read b
    refine ⟨b', ?_⟩
    rw [Reading.bind_ok (Reading.placing_ok read f), Reading.bind_ok (Reading.lift_ok adds b')]
    rfl
  rw [Scope.addGiven]
  by_cases reread : (Value.needsRereading a.written && !t.closed) = true
  · rw [reread]
    exact rest
  · rw [Bool.eq_false_iff.2 reread]
    exact rest

namespace Naming

/-- The prefixes in use inside the outermost tag. -/
def scope : Naming → Scope
  | prefixed p space => (p, String.ofList (asRead space)) :: Scope.initial
  | _ => Scope.initial

variable {n : Naming} {space : List Char}

theorem IsSpaceName.ofList (h : IsSpaceName space) :
    (String.ofList space).isEmpty = false ∧ (String.ofList space).toList.contains '\x7d' = false := by
  constructor
  · simpa [String.isEmpty_iff] using h.1
  · simpa using h.2

theorem IsSpaceName.asRead (h : IsSpaceName space) : IsSpaceName (asRead space) := by
  constructor
  · exact fun nothing => h.1 ((asRead_eq_iff (List.forall_mem_nil _)).1 nothing)
  · exact fun brace => (eq_blank_or_mem_of_mem_asRead brace).elim (by decide) h.2

/-- White space does not make a value the name of a reserved namespace. -/
theorem ofList_asRead_beq {s : String} (h : s.toList.all (fun c => !isSpace c) = true) :
    (String.ofList (Markup.asRead space) == s) = decide (space = s.toList) := by
  have plain : ∀ c ∈ s.toList, isSpace c = false := by simpa using h
  rw [beq_eq_decide, decide_eq_decide, ← asRead_eq_iff plain]
  exact ⟨fun e => by rw [← e, String.toList_ofList], fun e => by rw [e, String.ofList_toList]⟩

theorem ofList_asRead_xml :
    (String.ofList (Markup.asRead space) == xmlNamespace) = decide (space = xmlNamespace.toList) :=
  ofList_asRead_beq (by decide +kernel)

theorem ofList_asRead_xmlns :
    (String.ofList (Markup.asRead space) == xmlnsNamespace) = decide (space = xmlnsNamespace.toList) :=
  ofList_asRead_beq (by decide +kernel)

theorem add_declaration (h : n.IsProper) {name : QualifiedName}
    (declares : n.declaration? = some (name, space)) :
    Scope.Entering.add { scope := Scope.initial } name (String.ofList (Markup.asRead space)) =
      .ok { scope := n.scope } := by
  cases n with
  | bare => cases declares
  | default space' =>
    obtain ⟨rfl, rfl⟩ := Prod.mk.inj (Option.some.inj declares)
    obtain ⟨isName, notXml, notXmlns⟩ := h
    have fault : Scope.bindingFault? none (String.ofList (Markup.asRead space')) = none := by
      simp [Scope.bindingFault?, isName.asRead.ofList.1, isName.asRead.2, ofList_asRead_xml,
        ofList_asRead_xmlns, notXml, notXmlns]
    simp [Scope.Entering.add, Scope.bindsPrefix?, fault, scope]
  | prefixed p space' =>
    obtain ⟨rfl, rfl⟩ := Prod.mk.inj (Option.some.inj declares)
    obtain ⟨isName, -, notXmlns, xml, notSpace⟩ := h
    have notXmlns : (some p == some "xmlns".toList) = false := by
      rw [beq_eq_false_iff_ne]
      exact fun e => notXmlns (Option.some.inj e)
    have isXml : (some p == some "xml".toList) = decide (space' = xmlNamespace.toList) := by
      rw [beq_eq_decide]
      exact decide_eq_decide.2 (by rw [Option.some.injEq, xml])
    have fault : Scope.bindingFault? (some p) (String.ofList (Markup.asRead space')) = none := by
      rw [Scope.bindingFault?, isName.asRead.ofList.1, isName.asRead.ofList.2, notXmlns, isXml,
        ofList_asRead_xml, ofList_asRead_xmlns, decide_eq_false notSpace]
      cases decide (space' = xmlNamespace.toList) <;> rfl
    simp [Scope.Entering.add, Scope.bindsPrefix?, fault, scope]

theorem inUse (h : n.IsProper) : InUse n.qualifier? n.scope := by
  intro p hp
  cases n with
  | prefixed p' space =>
    obtain rfl := Option.some.inj hp
    exact ⟨h.2.1, by simp [scope]⟩
  | _ => cases hp

theorem isProper_name (h : n.IsProper) {name : QualifiedName}
    (declares : n.declaration? = some (name, space)) :
    name.IsProper := by
  have xmlns : IsName "xmlns".toList := .mk rfl (List.all_eq_true.1 rfl)
  cases n with
  | bare => cases declares
  | default _ =>
    obtain ⟨rfl, rfl⟩ := Prod.mk.inj (Option.some.inj declares)
    exact ⟨fun p hp => absurd hp (by simp), xmlns⟩
  | prefixed p _ =>
    obtain ⟨rfl, rfl⟩ := Prod.mk.inj (Option.some.inj declares)
    exact ⟨fun q hq => Option.some.inj hq ▸ xmlns, h.2.1⟩

/-- What declares a namespace stays inside its tag. -/
theorem Declares.not_mem {attr : List Char} (h : n.Declares attr) (proper : n.IsProper) : '<' ∉ attr := by
  cases h with
  | nothing h => exact List.not_mem_nil
  | @byAttribute _ _ _ _ quote h spaced blank isQ spelled =>
    obtain ⟨c, more, same, start, each⟩ := (n.isProper_name proper h).written
    have inBlanks := mt (blank '<') Bool.false_ne_true
    have inMore := mt (each '<') Bool.false_ne_true
    have first : '<' ≠ c := by rintro rfl; exact absurd start (by decide)
    have notQuote : '<' ≠ quote := by rintro rfl; exact absurd isQ (by decide)
    simp [same, inBlanks, inMore, first, notQuote, spelled.not_mem]

theorem eq_bare (h : n.declaration? = none) : n = bare := by
  cases n with
  | bare => rfl
  | _ => cases h

end Naming

variable {n : Naming} {tag attr : List Char}

/-- The course after the outermost tag. -/
def Course.outermost (n : Naming) (tag : List Char) : Course where
  scope := n.scope
  stack := [⟨(QualifiedName.mk n.qualifier? tag).written, Scope.initial⟩]
  events := [.opening tag]

theorem leads_outermost (proper : n.IsProper) (name : IsName tag) (declares : n.Declares attr)
    (rest : List Char) :
    Leads { scope := Scope.initial }
      ('<' :: ((QualifiedName.mk n.qualifier? tag).written ++ (attr ++ '>' :: rest)))
      (.outermost n tag) rest := by
  have isProper := (n.inUse proper).isProper name
  cases declares with
  | nothing h =>
    obtain rfl := n.eq_bare h
    refine .part (scanContent_opening isProper rest) (by simp) (by simp; omega) (List.cons_ne_nil _ _)
      fun b => ⟨b, ?_⟩
    rw [readPart, Reading.bind_ok (enter_bare (fun p hp => by cases hp) b)]
    rfl
  | @byAttribute declared space blanks written quote h spaced blank isQ spelled =>
    obtain ⟨place, valuePlace, scanned⟩ :=
      scanOpening_declared isProper (n.isProper_name proper h) isQ spelled spaced blank rest
    obtain ⟨c, more, same, start, -⟩ := isProper.written
    rw [same, List.cons_append, ← scanContent_tag start] at scanned
    have given (t : Tag) (b : Budget) := addGiven_one (a := ⟨declared, place, written, valuePlace⟩) (t := t)
      (fun b => spelled.value b) (n.add_declaration proper h) b
    rw [same]
    simp only [List.append_assoc, List.cons_append, List.nil_append]
    refine .part scanned (by simp) (by simp; omega) (List.cons_ne_nil _ _) fun b => ?_
    obtain ⟨b', given⟩ := given ⟨⟨n.qualifier?, tag⟩, [⟨declared, place, written, valuePlace⟩], false⟩ b
    refine ⟨b', ?_⟩
    have entered := enter_ok given rfl fun p hp => (n.inUse proper p hp).2
    rw [readPart, Reading.bind_ok entered]
    rfl

end ModuleAudit.Markup
