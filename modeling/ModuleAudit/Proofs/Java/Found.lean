import ModuleAudit.Proofs.Java.Call
import ModuleAudit.Proofs.Java.Recovery

/-!
# Methods are found under their names

Wherever a declaration stands in a text, its method is read (`Declaration.exists_mem_callSite`,
`Declaration.methodAt?_site`), so it is the one that is found under its name, unless the name is
declared before it (`Declaration.FirstIn.find?`). A method is not found under a name that starts with a
dollar sign, since no word starts there (`Source.method?_dollar`).
-/

namespace ModuleAudit.Java

open ModuleAudit.Text (isBlank isIdent isWord)
open ModuleAudit.Pattern (headIs)

/-! ## The first declaration of a name -/

/-- No call site goes on from a blank to a name. -/
theorem not_fits_callSite {before u v after : List Char} {b c : Char} (blank : isBlank b = true)
    (ident : isIdent c = true) : ¬ callSite.Fits before (u ++ b :: c :: v) after := by
  intro fit
  obtain ⟨n, g, split, each, each'⟩ := fits_callSite fit
  have behind : ∀ d ∈ g ++ ['('], (isBlank d || d == '(') = true :=
    List.forall_mem_append.2 ⟨fun d hd => by simp [each' d hd], List.forall_mem_singleton.2 rfl⟩
  have parenthesis : c ≠ '(' := by
    rintro rfl
    exact absurd ident (by decide)
  exact not_mixed each behind (isIdent_of_isBlank blank) (by simp [isBlank_of_isIdent ident, parenthesis])
    (split.trans (List.append_assoc ..))

theorem callSite_start_lt {text : List Char} {site : Match} (h : site ∈ callSite.findAll text) :
    site.start.offset < site.stop.offset := by
  obtain ⟨w, way, fit⟩ := Pattern.fits_of_mem_ends (Pattern.mem_findAll h).2
  obtain ⟨n, g, rfl, -⟩ := fits_callSite fit
  rw [way.offset, List.length_append, List.length_singleton]
  omega

namespace Declaration

variable (d : Declaration)

/-- The call site of a declaration is found in any text. -/
theorem exists_mem_callSite (seen after : List Char) :
    ∃ m ∈ callSite.findAll (seen ++ (d.front ++ (d.site ++ after))), d.IsSite seen after m := by
  obtain ⟨m, isSite, -, found⟩ := d.exists_site seen after
  refine ⟨m, ?_, isSite⟩
  rw [← List.append_assoc seen]
  refine Pattern.mem_findAll_of_matchAt? found fun a u v b front nonempty site covered fit => ?_
  obtain ⟨u, e, rfl⟩ : ∃ u' e, u = u' ++ [e] := ⟨_, _, (List.dropLast_concat_getLast nonempty).symm⟩
  have blank : isBlank e = true := d.front_blank seen e (by simp [front])
  obtain ⟨c, v, rfl⟩ := List.exists_cons_of_ne_nil covered
  obtain ⟨c', name, word, starts, -⟩ := d.name_identifier
  obtain rfl : c' = c := by
    rw [Declaration.site, word] at site
    exact (List.cons.inj site).1
  rw [List.append_assoc] at fit
  exact not_fits_callSite blank (isIdent_of_startsName starts) fit

/-- The declaration stands in the text behind `pre`, and its name is not declared before it. -/
structure FirstIn (pre post text : List Char) : Prop where
  split : text = pre ++ d.text ++ post
  whole : IsWhole pre
  first : ∀ k, (d.name.word, k) ∈ declarationsOf text → (pre ++ d.front).length ≤ k

variable {d} {pre post text : List Char}

theorem FirstIn.code_eq (h : d.FirstIn pre post text) :
    codeOf text = codeOf pre ++ d.withBody (codeOf d.body) ++ codeOf post := by
  rw [h.split, (h.whole.append d.copied).code]

theorem FirstIn.bare_eq (h : d.FirstIn pre post text) :
    bareOf text = bareOf pre ++ (d.front ++ (d.site ++ (d.inner ++
      (bareOf d.body ++ '\x7d' :: bareOf post)))) := by
  rw [h.split, (h.whole.append d.copied).bare]
  simp [withBody, head]

/-- The method that is found under the name of a declaration is the one that it stands for. -/
theorem FirstIn.find? (h : d.FirstIn pre post text) :
    (methodsOf text).find? (fun m => m.name == d.name.word) = some (d.method pre) := by
  obtain ⟨site, mem, isSite⟩ :=
    d.exists_mem_callSite (bareOf pre) (d.inner ++ (bareOf d.body ++ '\x7d' :: bareOf post))
  rw [← h.bare_eq] at mem
  have read : methodAt? text (codeOf text) (bareOf text) site = some (d.method pre) :=
    d.methodAt?_site isSite h.split h.code_eq (length_codeOf pre) (length_bareOf pre)
  obtain ⟨sites, sites', cut⟩ := List.append_of_mem mem
  have ordered := Pattern.pairwise_findAll callSite (bareOf text)
  rw [cut, List.pairwise_append] at ordered
  -- What is read before the declaration would be declared there.
  have none : (sites.filterMap (methodAt? text (codeOf text) (bareOf text))).find?
      (fun m => m.name == d.name.word) = none := by
    rw [List.find?_eq_none]
    intro m hm named
    obtain ⟨other, earlier, method⟩ := List.mem_filterMap.1 hm
    have declared : (d.name.word, other.start.offset) ∈ declarationsOf text := by
      refine List.mem_filterMap.2 ⟨other, cut ▸ List.mem_append_left _ earlier, ?_⟩
      rw [method, ← eq_of_beq named]
      rfl
    have late := h.first _ declared
    have moved : other.start.offset < other.stop.offset :=
      callSite_start_lt (cut ▸ List.mem_append_left _ earlier)
    have early : other.stop.offset ≤ site.start.offset :=
      ordered.2.2 other earlier site List.mem_cons_self
    rw [isSite.start, List.length_append, length_bareOf, ← List.length_append] at early
    omega
  rw [methodsOf, methodsIn, cut, List.filterMap_append, List.find?_append, none, Option.none_or,
    List.filterMap_cons_some read]
  exact List.find?_cons_of_pos (beq_self_eq_true d.name.word)

end Declaration

/-! ## Names that start with a dollar sign -/

/-- The name stands right behind a letter, a digit or an underscore, and before a parenthesis. -/
def StandsBehindWord (name s : List Char) : Prop :=
  ∃ x b gap y, s = x ++ b :: (name ++ (gap ++ '(' :: y)) ∧ isWord b = true ∧
    ∀ c ∈ gap, isBlank c = true

theorem methodAt?_name {text code bare : List Char} {site : Match} {m : Method}
    (h : methodAt? text code bare site = some m) : m.name = site.capture 1 := by
  simp only [methodAt?, Option.bind_eq_bind, Option.pure_def] at h
  split at h
  · cases h
  · simp only [Option.bind_eq_some_iff, Option.some.injEq] at h
    obtain ⟨-, -, -, -, -, -, rfl⟩ := h
    rfl

/-- The name of a call site stands at its place, where a word starts or ends. -/
theorem name_of_mem_callSite {text : List Char} {site : Match} (h : site ∈ callSite.findAll text) :
    ∃ x gap y, text = x ++ (site.capture 1 ++ (gap ++ '(' :: y)) ∧ IsIdentifier (site.capture 1) ∧
      (∀ c ∈ gap, isBlank c = true) ∧
      headIs isWord x.reverse ≠ headIs isWord (site.capture 1) := by
  obtain ⟨start, stop⟩ := Pattern.mem_findAll h
  obtain ⟨w, way, fit⟩ := Pattern.fits_of_mem_ends stop
  simp only [callSite, Pattern.fits_sequence_cons, Pattern.fits_sequence_nil, Pattern.fits_edge,
    Pattern.fits_capture, Pattern.fits_gap, Pattern.fits_exactly] at fit
  obtain ⟨_, _, rfl, ⟨rfl, edge⟩, _, _, rfl, ⟨_, n, rfl, ⟨c, starts, rfl⟩, each⟩, gap, _, rfl, blank, _,
    _, rfl, rfl, rfl⟩ := fit
  have ident : IsIdentifier (c :: n) := ⟨c, n, rfl, starts, each⟩
  have after : site.start.after = c :: n ++ (gap ++ '(' :: site.stop.after) := by
    simpa using way.after
  have bounds : (headIs isWord site.start.before != headIs isWord site.start.after) = true := by
    rw [after, bne_iff_ne]
    simpa using edge
  have captures := Pattern.captures_of_mem_findFrom h (takes_callSite_of_edge after bounds ident blank)
  have capture : site.capture 1 = c :: n := by
    rw [Match.capture, Place.capture, captures]
    rfl
  rw [capture]
  refine ⟨site.start.before.reverse, gap, site.stop.after, ?_, ident, blank, ?_⟩
  · rw [← start.split, after]
  · simpa [headIs] using edge

/-- No method is found under a name that starts with a dollar sign, but where the name stands right
behind a word: the search for names begins where a word starts or ends, and a dollar sign starts
none. -/
theorem Source.method?_dollar {s : Source} {name : String} (dollar : name.toList.head? = some '$')
    (apart : ¬ StandsBehindWord name.toList s.bare) : s.method? name = none := by
  rw [Source.method?, List.find?_eq_none]
  intro m mem named
  replace named : m.name = name.toList := by simpa [Source.isMethod] using named
  rw [Source.methods_eq, methodsOf, methodsIn, List.mem_filterMap] at mem
  obtain ⟨site, mem, method⟩ := mem
  obtain ⟨x, gap, y, split, -, blank, edge⟩ := name_of_mem_callSite mem
  rw [← methodAt?_name method, named] at split edge
  have noWord : headIs isWord name.toList = false := by
    rw [headIs, dollar]
    decide
  rw [noWord] at edge
  obtain ⟨x, b, rfl, word⟩ : ∃ x' b, x = x' ++ [b] ∧ isWord b = true := by
    rcases List.eq_nil_or_concat x with rfl | ⟨x', b, rfl⟩
    · exact absurd rfl edge
    · exact ⟨x', b, List.concat_eq_append, by simpa [headIs] using edge⟩
  refine apart ⟨x, b, gap, y, ?_, word, blank⟩
  rw [Source.bare_eq, split, List.append_assoc]
  rfl

end ModuleAudit.Java
