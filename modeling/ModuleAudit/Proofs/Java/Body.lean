import ModuleAudit.Java.Method
import ModuleAudit.Proofs.Java.Bracket
import ModuleAudit.Proofs.Java.Copies
import ModuleAudit.Proofs.Pattern.Fit

/-!
# The bodies of methods

A body is cut out of the copy of the text that still has its literals, at offsets found in the bare
copy. The bare copy shows a brace only where it is a token of its own (`split_of_bare`), so the cut
runs between tokens, and copying the body again gives what stands at the same offsets of the
text's copies (`body_agrees`).
-/

namespace ModuleAudit.Java

open ModuleAudit.Text (isBlank isIdent isWord isAlphanumeric)

/-! ## What the bare copy shows -/

/-- A character that neither delimits a literal nor takes the place of one that is blanked out. -/
def IsPlain (c : Char) : Prop := c ≠ ' ' ∧ c ≠ '\n' ∧ ¬ IsQuote c

theorem not_mem_blank {c : Char} (h : IsPlain c) (s : List Char) : c ∉ blank s := by
  simp only [blank, List.mem_map, not_exists, not_and]
  rintro d - rfl
  split at h
  · rename_i hd
    exact h.2.1 (eq_of_beq hd)
  · exact h.1 rfl

/-- The bare copy shows a plain character only where it is a token of its own. -/
theorem Token.Before.eq_other {t : Token} {rest : List Char} (ht : t.Before rest) {c : Char}
    (hc : IsPlain c) (h : c ∈ t.bare) : t = .other c := by
  have hb := not_mem_blank hc
  have hq : c ≠ '"' := fun e => hc.2.2 (.inl e)
  cases ht with
  | lineComment | blockComment | openBlockComment => exact absurd h (hb _)
  | textBlock | openTextBlock => simp [Token.bare, tripleQuote, hb, hq] at h
  | literal hquote _ hcloser =>
    simp only [Token.bare, List.mem_append, List.mem_cons, List.not_mem_nil, or_false, hb] at h
    rcases h with rfl | rfl
    · exact absurd hquote hc.2.2
    · rcases hcloser with rfl | rfl
      · exact absurd hquote hc.2.2
      · exact absurd rfl hc.2.1
  | openLiteral hquote =>
    simp only [Token.bare, List.mem_append, List.mem_cons, List.not_mem_nil, or_false, hb] at h
    exact absurd (h ▸ hquote) hc.2.2
  | other => rw [List.mem_singleton.1 h]

/-- A plain character of the bare copy divides the tokens. -/
theorem split_of_bare {s x y : List Char} {c : Char} {ts : List Token} (h : IsSplit s ts)
    (hc : IsPlain c) (e : ts.flatMap Token.bare = x ++ c :: y) :
    ∃ us vs, ts = us ++ .other c :: vs ∧ us.flatMap Token.bare = x ∧ vs.flatMap Token.bare = y := by
  induction h generalizing x with
  | nil => simp at e
  | @cons t ts rest ht _ ih =>
    rw [List.flatMap_cons, List.append_eq_append_iff] at e
    rcases e with ⟨x', rfl, e⟩ | ⟨z, hz, e⟩
    · obtain ⟨us, vs, rfl, rfl, hv⟩ := ih e
      exact ⟨t :: us, vs, rfl, rfl, hv⟩
    cases z with
    | nil =>
      obtain ⟨us, vs, rfl, hu, hv⟩ := ih (x := []) e.symm
      exact ⟨t :: us, vs, rfl, by simp [hu, hz], hv⟩
    | cons d z =>
      obtain ⟨rfl, -⟩ := List.cons.inj e
      obtain rfl := ht.eq_other hc (hz ▸ List.mem_append_right x List.mem_cons_self)
      obtain ⟨rfl, rfl⟩ : x = [] ∧ z = [] := by simpa [Token.bare, List.singleton_eq_append_iff] using hz
      exact ⟨[], ts, rfl, rfl, (List.cons.inj e).2.symm⟩

theorem IsSplit.exists_before {s : List Char} {ts : List Token} (h : IsSplit s ts) {t : Token}
    (ht : t ∈ ts) : ∃ rest, t.Before rest := by
  induction h with
  | nil => exact nomatch ht
  | cons first _ ih =>
    rcases List.mem_cons.1 ht with rfl | ht
    · exact ⟨_, first⟩
    · exact ih ht

theorem Token.Before.bare_ne_nil {t : Token} {rest : List Char} (h : t.Before rest) : t.bare ≠ [] := by
  rw [← List.length_pos_iff, Token.length_bare, List.length_pos_iff]
  exact h.text_ne_nil

/-- Every token shows something in the bare copy. -/
theorem eq_nil_of_bare {us : List Token} (h : ∀ t ∈ us, ∃ rest, t.Before rest)
    (none : us.flatMap Token.bare = []) : us = [] := by
  refine List.eq_nil_iff_forall_not_mem.2 fun t ht => ?_
  obtain ⟨_, before⟩ := h t ht
  exact before.bare_ne_nil (List.flatMap_eq_nil_iff.1 none t ht)

/-! ## Cutting a run of tokens out -/

theorem length_flatMap_code (ts : List Token) :
    (ts.flatMap Token.code).length = (ts.flatMap Token.bare).length := by
  simp only [List.length_flatMap, Token.length_code, Token.length_bare]

theorem slice_append (x y z : List Char) :
    slice (x ++ y ++ z) x.length (x.length + y.length) = y := by
  rw [slice, List.append_assoc, List.drop_left, Nat.add_sub_cancel_left, List.take_left]

section Run

variable {s : List Char} {ts us vs : List Token}

theorem slice_bareOf (h : Token.split s = ts ++ us ++ vs) :
    slice (bareOf s) (ts.flatMap Token.bare).length
      ((ts.flatMap Token.bare).length + (us.flatMap Token.bare).length) = us.flatMap Token.bare := by
  rw [bareOf, h, List.flatMap_append, List.flatMap_append, slice_append]

theorem slice_codeOf (h : Token.split s = ts ++ us ++ vs) :
    slice (codeOf s) (ts.flatMap Token.bare).length
      ((ts.flatMap Token.bare).length + (us.flatMap Token.bare).length) = us.flatMap Token.code := by
  rw [codeOf, h, List.flatMap_append, List.flatMap_append, ← length_flatMap_code ts,
    ← length_flatMap_code us, slice_append]

end Run

/-- What stands between two plain characters of the bare copy, or between one and the end, is a run
of tokens: it can be cut out and copied again. -/
theorem copies_between {s x y z : List Char} {c : Char} (hc : IsPlain c)
    (e : bareOf s = x ++ c :: (y ++ z)) (hz : z = [] ∨ ∃ d z', IsPlain d ∧ z = d :: z') :
    let body := slice (codeOf s) (x.length + 1) (x.length + 1 + y.length)
    codeOf body = body ∧ bareOf body = slice (bareOf s) (x.length + 1) (x.length + 1 + y.length) := by
  obtain ⟨ts, rest, hs, rfl, hr⟩ := split_of_bare (isSplit_iff.2 rfl) hc e
  replace hs : Token.split s = (ts ++ [Token.other c]) ++ rest := by simp [hs]
  obtain ⟨us, vs, rfl, rfl⟩ : ∃ us vs, rest = us ++ vs ∧ us.flatMap Token.bare = y := by
    rcases hz with rfl | ⟨d, z', hd, rfl⟩
    · exact ⟨rest, [], (List.append_nil rest).symm, by rw [hr, List.append_nil]⟩
    · obtain ⟨us, vs, rfl, hu, -⟩ := split_of_bare (isSplit_iff.2 hs.symm).append_right hd hr
      exact ⟨us, _, rfl, hu⟩
  rw [← List.append_assoc] at hs
  have start : ((ts ++ [Token.other c]).flatMap Token.bare).length = (ts.flatMap Token.bare).length + 1 := by
    simp [Token.bare]
  rw [← start, slice_codeOf hs, slice_bareOf hs]
  exact ⟨codeOf_flatMap_code hs, bareOf_flatMap_code hs⟩

/-! ## Names and what stands around them -/

theorem isIdent_of_startsName {c : Char} (h : startsName c = true) : isIdent c = true := by
  simp only [startsName, Bool.or_eq_true, Bool.and_eq_true, decide_eq_true_eq, beq_iff_eq] at h
  simp only [isIdent, isWord, Bool.or_eq_true, beq_iff_eq]
  rcases h with ((upper | lower) | rfl) | rfl
  · have small : c.val < 0x80 := UInt32.lt_of_le_of_lt upper.2 (by decide)
    have letter : c.isUpper = true := decide_eq_true upper
    have word : c.isAlphanum = true := Bool.or_eq_true_iff.2 (.inl (Bool.or_eq_true_iff.2 (.inl letter)))
    simp [isAlphanumeric, small, word]
  · have small : c.val < 0x80 := UInt32.lt_of_le_of_lt lower.2 (by decide)
    have letter : c.isLower = true :=
      Bool.and_eq_true_iff.2 ⟨decide_eq_true lower.1, decide_eq_true lower.2⟩
    have word : c.isAlphanum = true := Bool.or_eq_true_iff.2 (.inl (Bool.or_eq_true_iff.2 (.inr letter)))
    simp [isAlphanumeric, small, word]
  · exact .inl (.inr rfl)
  · exact .inr rfl

/-- But for the dollar sign, what starts a name is a character of a word. -/
theorem isWord_of_startsName {c : Char} (h : startsName c = true) (dollar : c ≠ '$') : isWord c = true := by
  simpa [isIdent, dollar] using isIdent_of_startsName h

/-- A call site is a name before a parenthesis, with nothing but blanks between the two. -/
theorem fits_callSite {before w after : List Char} (h : callSite.Fits before w after) :
    ∃ n g, w = n ++ g ++ ['('] ∧ (∀ c ∈ n, isIdent c = true) ∧ ∀ c ∈ g, isBlank c = true := by
  simp only [callSite, Pattern.fits_sequence_cons, Pattern.fits_sequence_nil, Pattern.fits_edge,
    Pattern.fits_capture, Pattern.fits_gap, Pattern.fits_exactly] at h
  obtain ⟨_, _, rfl, ⟨rfl, -⟩, _, _, rfl, ⟨_, n, rfl, ⟨c, start, rfl⟩, each⟩, g, _, rfl, blank, _, _,
    rfl, rfl, rfl⟩ := h
  refine ⟨c :: n, g, by simp, ?_, blank⟩
  exact List.forall_mem_cons.2 ⟨isIdent_of_startsName start, each⟩

/-- A character of names in a row: of a dotted name, a comma or a blank. -/
def isOfNames (c : Char) : Bool := isDotted c || c == ',' || isBlank c

theorem isOfNames_of_isBlank {c : Char} (h : isBlank c = true) : isOfNames c = true := by
  simp [isOfNames, h]

/-- The opener of a body ends with its brace, and before it stand characters of a clause. -/
theorem fits_bodyOpener {before w after : List Char} (h : bodyOpener.Fits before w after) :
    ∃ u, w = u ++ ['\x7b'] ∧ ∀ c ∈ u, isOfNames c = true := by
  simp only [bodyOpener, Pattern.fits_sequence_cons, Pattern.fits_sequence_nil, Pattern.fits_gap,
    Pattern.fits_optional, Pattern.fits_word, Pattern.fits_blanks, Pattern.fits_fewest,
    Pattern.fits_exactly] at h
  obtain ⟨x, _, rfl, hx, y, _, rfl, hy, z, _, rfl, hz, _, _, rfl, rfl, rfl⟩ := h
  have clause : ∀ c ∈ y, isOfNames c = true := by
    rcases hy with ⟨_, _, rfl, rfl, b, _, rfl, hb, _, _, rfl, ⟨d, hd, rfl⟩, e, _, rfl, he, rfl⟩ | rfl
    · have keyword : "throws".toList.all isOfNames = true := by decide
      simp only [List.mem_append, List.mem_singleton, List.not_mem_nil, or_false]
      rintro c (hc | hc | rfl | hc)
      · exact List.all_eq_true.1 keyword c hc
      · exact isOfNames_of_isBlank (hb.each c hc)
      · exact hd
      · exact he c hc
    · exact List.forall_mem_nil _
  refine ⟨x ++ y ++ z, by simp, fun c hc => ?_⟩
  simp only [List.mem_append] at hc
  rcases hc with (hc | hc) | hc
  · exact isOfNames_of_isBlank (hx c hc)
  · exact clause c hc
  · exact isOfNames_of_isBlank (hz c hc)

/-! ## Where a body lies -/

/-- After the name of a method stand its parameters up to the parenthesis that closes them and, past
what it throws, the brace after which its body starts. The body runs up to the brace that closes it,
or to the end. -/
theorem methodAt?_eq_some {text code bare : List Char} {site : Match} {m : Method}
    (h : methodAt? text code bare site = some m) :
    ∃ u w y, site.stop.after = u ++ ')' :: (w ++ '\x7b' :: y) ∧
      closing? '(' ')' 1 site.stop.after = some u.length ∧ (∀ c ∈ w, isOfNames c = true) ∧
      m.bodyStart = site.stop.offset + u.length + 1 + w.length + 1 ∧
      m.bodyEnd = ((closing? '\x7b' '\x7d' 1 y).map (m.bodyStart + ·)).getD bare.length ∧
      m.body = slice code m.bodyStart m.bodyEnd := by
  simp only [methodAt?, Option.bind_eq_bind, Option.pure_def] at h
  split at h
  · cases h
  simp only [Option.bind_eq_some_iff, Option.some.injEq] at h
  obtain ⟨type, -, close, hclose, opener, hopener, rfl⟩ := h
  obtain ⟨u, v, hu, rfl, -⟩ := (closing?_one_eq_some_iff (by decide)).1 hclose
  have htail : site.stop.after.drop (u.length + 1) = v := by rw [hu]; simp
  rw [htail] at hopener
  obtain ⟨hstart, hstop⟩ := Pattern.matchAt?_eq_some hopener
  obtain ⟨_, hw, fit⟩ := Pattern.fits_of_mem_ends hstop
  obtain ⟨w, rfl, thrown⟩ := fits_bodyOpener fit
  have hv : v = w ++ '\x7b' :: opener.stop.after := by simpa [Place.start] using hw.after
  have hlen : opener.length = w.length + 1 := by
    rw [Match.length, hw.offset, hstart]; simp [Place.start]
  refine ⟨u, w, opener.stop.after, hv ▸ hu, hclose, thrown, ?_, ?_, rfl⟩
  · simp only [hlen]; omega
  · cases closing? '\x7b' '\x7d' 1 opener.stop.after <;> rfl

theorem isPlain_brace : IsPlain '\x7b' ∧ IsPlain '\x7d' := by unfold IsPlain IsQuote; decide

theorem body_of_mem {s : List Char} {m : Method} (h : m ∈ methodsOf s) :
    ∃ x y, bareOf s = x ++ '\x7b' :: y ∧ m.bodyStart = x.length + 1 ∧
      m.bodyEnd = ((closing? '\x7b' '\x7d' 1 y).map (m.bodyStart + ·)).getD (bareOf s).length ∧
      m.body = slice (codeOf s) m.bodyStart m.bodyEnd := by
  obtain ⟨site, hsite, hm⟩ := List.mem_filterMap.1 h
  obtain ⟨hin, hstop⟩ := Pattern.mem_findAll hsite
  obtain ⟨_, hover⟩ := Pattern.ends_leads hstop
  have hin := hover.in hin
  obtain ⟨u, w, y, after, -, -, start, stop, body⟩ := methodAt?_eq_some hm
  refine ⟨site.stop.before.reverse ++ u ++ ')' :: w, y, ?_, ?_, stop, body⟩
  · rw [← hin.split, after]; simp
  · rw [start, hin.offset]; simp; omega

/-- Copying a body again leaves it as it is, and shows of it what the text's bare copy shows. -/
theorem copies_of_mem {s : List Char} {m : Method} (h : m ∈ methodsOf s) :
    codeOf m.body = m.body ∧ m.bare = slice (bareOf s) m.bodyStart m.bodyEnd := by
  obtain ⟨x, y, hb, hstart, hend, hbody⟩ := body_of_mem h
  obtain ⟨y, z, rfl, hz, hy⟩ : ∃ y' z, y = y' ++ z ∧ (z = [] ∨ ∃ d z', IsPlain d ∧ z = d :: z') ∧
      m.bodyEnd = m.bodyStart + y'.length := by
    cases hc : closing? '\x7b' '\x7d' 1 y with
    | none => exact ⟨y, [], by simp, .inl rfl, by rw [hend, hc, hb]; simp; omega⟩
    | some n =>
      obtain ⟨u, v, hu, rfl, -⟩ := (closing?_one_eq_some_iff (by decide)).1 hc
      exact ⟨u, _, hu, .inr ⟨_, v, isPlain_brace.2, rfl⟩, by rw [hend, hc]; rfl⟩
  have hcopies := copies_between isPlain_brace.1 hb hz
  rw [← hstart, ← hy, ← hbody] at hcopies
  exact hcopies

/-- A method's body, copied again, is what the copies of the whole text have at its offsets, which
run from after its opening brace up to its closing one, or to the end if it is never closed. -/
theorem body_agrees {s : List Char} {m : Method} (h : m ∈ methodsOf s) :
    (0 < m.bodyStart ∧ (bareOf s)[m.bodyStart - 1]? = some '\x7b') ∧
    m.bodyEnd = (closingAt? '\x7b' '\x7d' (bareOf s) (m.bodyStart - 1)).getD (bareOf s).length ∧
    m.body = slice (codeOf s) m.bodyStart m.bodyEnd ∧
    m.bare = slice (bareOf s) m.bodyStart m.bodyEnd ∧ codeOf m.body = m.body := by
  obtain ⟨x, y, hb, hstart, hend, hbody⟩ := body_of_mem h
  have hopen : (bareOf s)[m.bodyStart - 1]? = some '\x7b' := by simp [hb, hstart]
  have hclose : closingAt? '\x7b' '\x7d' (bareOf s) (m.bodyStart - 1) =
      (closing? '\x7b' '\x7d' 1 y).map (m.bodyStart + ·) := by
    have hdrop : (bareOf s).drop (x.length + 1) = y := by rw [hb]; simp
    simp only [closingAt?, hstart, Nat.add_sub_cancel, hdrop, Nat.add_comm]
  obtain ⟨hcode, hbare⟩ := copies_of_mem h
  exact ⟨⟨by omega, hopen⟩, by rw [hclose]; exact hend, hbody, hbare, hcode⟩

/-- A body with a brace in a literal and another one in a comment. -/
theorem body_agrees_braces :
    let s := "class A \x7b int f() \x7b put(\"\x7d\"); /* \x7d */ \x7d".toList
    ∃ m ∈ methodsOf s, m.body = " put(\"\x7d\");         ".toList ∧ m.bodyStart = 19 ∧ m.bodyEnd = 38 ∧
      codeOf m.body = m.body ∧ m.bare = slice (bareOf s) 19 38 := by
  intro s
  let m : Method := {
    name := ['f'], returnType := "int".toList, params := [], body := " put(\"\x7d\");         ".toList
    line := 1, bodyStart := 19, bodyEnd := 38 }
  have h : m ∈ methodsOf s := by decide +kernel
  obtain ⟨-, -, -, hbare, hcode⟩ := body_agrees h
  exact ⟨m, h, rfl, rfl, rfl, hcode, hbare⟩

end ModuleAudit.Java
