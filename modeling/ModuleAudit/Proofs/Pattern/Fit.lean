import Mathlib.Data.List.Forall2
import ModuleAudit.Proofs.Pattern.Ends

/-!
# Stretches that fit a pattern

`Pattern.Fits` says which stretches of text a pattern describes, without an order in which they are
tried: a stretch fits between the text before it and the text after it.

* `fits_of_mem_ends`, `exists_mem_ends`: the matches at a place are the stretches that fit there;
* `found_iff`: a pattern is found in a text exactly if a stretch of the text fits it.
-/

namespace ModuleAudit

/-- A run of characters of a class. -/
structure IsRun (p : Char → Bool) (w : List Char) : Prop where
  nonempty : w ≠ []
  each : ∀ c ∈ w, p c = true

instance (p : Char → Bool) (w : List Char) : Decidable (IsRun p w) :=
  decidable_of_iff (w ≠ [] ∧ w.all p = true)
    ⟨fun h => ⟨h.1, List.all_eq_true.1 h.2⟩, fun h => ⟨h.nonempty, List.all_eq_true.2 h.each⟩⟩

theorem IsRun.not_mem {p : Char → Bool} {w : List Char} {c : Char} (h : IsRun p w)
    (hc : p c = false) : c ∉ w := fun hw => by simp [h.each c hw] at hc

namespace Pattern

/-- Stretches of one kind in a row, none of them empty. The text before a stretch is reversed. -/
inductive Repeats (fits : List Char → List Char → List Char → Prop) :
    List Char → List Char → List Char → Prop
  | nil {before after} : Repeats fits before [] after
  | cons {before u v after} (nonempty : u ≠ []) (step : fits before u (v ++ after))
      (rest : Repeats fits (u.reverse ++ before) v after) : Repeats fits before (u ++ v) after

/-- Whether a stretch fits a pattern between the text before it (reversed) and the text after it. -/
def Fits : Pattern → (before stretch after : List Char) → Prop
  | nothing, _, w, _ => w = []
  | char p, _, w, _ => ∃ c, p c = true ∧ w = [c]
  | text u, _, w, _ => w = u
  | most p, _, w, _ => ∀ c ∈ w, p c = true
  | fewest p, _, w, _ => ∀ c ∈ w, p c = true
  | seq a b, before, w, after =>
    ∃ u v, w = u ++ v ∧ a.Fits before u (v ++ after) ∧ b.Fits (u.reverse ++ before) v after
  | either a b, before, w, after => a.Fits before w after ∨ b.Fits before w after
  | star a, before, w, after => Repeats a.Fits before w after
  | capture _ a, before, w, after => a.Fits before w after
  | between holds, before, w, after => w = [] ∧ holds before after = true

/-! ## From matches to stretches -/

theorem repeats_of_mem {next : Place → List Place} {fits : List Char → List Char → List Char → Prop}
    (h : ∀ s, ∀ t ∈ next s, ∃ w, s.Over w t ∧ fits s.before w t.after) {left : List Char} {s t : Place}
    (ht : t ∈ repeatEnds next left s) : ∃ w, s.Over w t ∧ Repeats fits s.before w t.after := by
  induction left generalizing s with
  | nil => exact ⟨[], List.mem_singleton.1 ht ▸ ⟨rfl, rfl, rfl⟩, .nil⟩
  | cons _ left ih =>
    simp only [repeatEnds, List.mem_append, List.mem_flatMap, List.mem_filter, List.mem_singleton,
      decide_eq_true_eq] at ht
    rcases ht with ⟨u, ⟨hu, moved⟩, ht⟩ | rfl
    · obtain ⟨v, way, step⟩ := h s u hu
      obtain ⟨w, way', rest⟩ := ih ht
      refine ⟨v ++ w, way.trans way', .cons ?_ (way'.after ▸ step) (way.before ▸ rest)⟩
      rintro rfl
      simp [way.offset] at moved
    · exact ⟨[], ⟨rfl, rfl, rfl⟩, .nil⟩

theorem mem_of_repeats {next : Place → List Place} {fits : List Char → List Char → List Char → Prop}
    (h : ∀ s w y, s.after = w ++ y → fits s.before w y → ∃ t ∈ next s, s.Over w t)
    {left before w y : List Char} (fit : Repeats fits before w y) {s : Place} (hb : s.before = before)
    (ha : s.after = w ++ y) (enough : w.length ≤ left.length) :
    ∃ t ∈ repeatEnds next left s, s.Over w t := by
  induction fit generalizing s left with
  | nil =>
    refine ⟨s, ?_, rfl, rfl, rfl⟩
    cases left <;> simp [repeatEnds]
  | @cons before u v y nonempty step rest ih =>
    obtain ⟨c, u, rfl⟩ := List.exists_cons_of_ne_nil nonempty
    cases left with
    | nil => simp at enough
    | cons d left =>
      obtain ⟨t, ht, way⟩ := h s (c :: u) (v ++ y) (by rw [ha, List.append_assoc]) (hb ▸ step)
      have short : v.length ≤ left.length := by
        simp only [List.length_append, List.length_cons] at enough
        omega
      obtain ⟨t', ht', way'⟩ := ih (by rw [way.before, hb])
        (way.after_eq (by rw [ha, List.append_assoc])) short
      refine ⟨t', ?_, way.trans way'⟩
      rw [repeatEnds]
      refine List.mem_append_left _ (List.mem_flatMap.2 ⟨t, List.mem_filter.2 ⟨ht, ?_⟩, ht'⟩)
      simp [way.offset]

/-- A match covers a stretch that fits. -/
theorem fits_of_mem_ends {p : Pattern} {s t : Place} (h : t ∈ p.ends s) :
    ∃ w, s.Over w t ∧ p.Fits s.before w t.after := by
  induction p generalizing s t with
  | nothing => exact ⟨[], List.mem_singleton.1 h ▸ ⟨rfl, rfl, rfl⟩, rfl⟩
  | char p =>
    rw [ends] at h
    split at h
    · cases h
    · rename_i c rest hs
      split at h
      · rename_i hc
        exact ⟨[c], List.mem_singleton.1 h ▸ Place.over_cons hs _, c, hc, rfl⟩
      · cases h
  | text u =>
    rw [ends] at h
    split at h
    · rename_i hu
      exact ⟨u, List.mem_singleton.1 h ▸ Place.over_advance (List.isPrefixOf_iff_prefix.1 hu), rfl⟩
    · cases h
  | most p => exact (Place.mem_reachFrom h).resolve_left List.not_mem_nil
  | fewest p => exact (Place.mem_reachFrom (List.mem_reverse.1 h)).resolve_left List.not_mem_nil
  | seq a b iha ihb =>
    obtain ⟨u, hu, ht⟩ := List.mem_flatMap.1 h
    obtain ⟨v, way, fit⟩ := iha hu
    obtain ⟨w, way', fit'⟩ := ihb ht
    exact ⟨v ++ w, way.trans way', v, w, rfl, way'.after ▸ fit, way.before ▸ fit'⟩
  | either a b iha ihb =>
    rcases List.mem_append.1 h with h | h
    · obtain ⟨w, way, fit⟩ := iha h
      exact ⟨w, way, .inl fit⟩
    · obtain ⟨w, way, fit⟩ := ihb h
      exact ⟨w, way, .inr fit⟩
  | star a ih => exact repeats_of_mem (fun _ _ => ih) h
  | capture n a ih =>
    obtain ⟨u, hu, rfl⟩ := List.mem_map.1 h
    obtain ⟨w, way, fit⟩ := ih hu
    exact ⟨w, ⟨way.after, way.before, way.offset⟩, fit⟩
  | between holds =>
    rw [ends] at h
    split at h
    · rename_i hb
      obtain rfl := List.mem_singleton.1 h
      exact ⟨[], ⟨rfl, rfl, rfl⟩, rfl, hb⟩
    · cases h

/-- A match ends ahead in the text in which it starts. -/
theorem ends_leads {p : Pattern} {s t : Place} (h : t ∈ p.ends s) : s.Leads t := by
  obtain ⟨w, way, -⟩ := fits_of_mem_ends h
  exact ⟨w, way⟩

/-- A stretch that fits is covered by a match. -/
theorem exists_mem_ends {p : Pattern} {s : Place} {w y : List Char} (h : s.after = w ++ y)
    (fit : p.Fits s.before w y) : ∃ t ∈ p.ends s, s.Over w t := by
  induction p generalizing s w y with
  | nothing =>
    obtain rfl : w = [] := fit
    exact ⟨s, List.mem_singleton_self s, rfl, rfl, rfl⟩
  | char p =>
    obtain ⟨c, hc, rfl⟩ := fit
    refine ⟨_, ?_, Place.over_cons h s.captures⟩
    simp [ends, h, hc]
  | text u =>
    obtain rfl : w = u := fit
    have pre : w <+: s.after := ⟨y, h.symm⟩
    refine ⟨_, ?_, Place.over_advance pre⟩
    simp [ends, List.isPrefixOf_iff_prefix.2 pre]
  | most p => exact Place.exists_mem_reachFrom [] h fit
  | fewest p =>
    obtain ⟨t, ht, way⟩ := Place.exists_mem_reachFrom [] h fit
    exact ⟨t, List.mem_reverse.2 ht, way⟩
  | seq a b iha ihb =>
    obtain ⟨u, v, rfl, fit, fit'⟩ := fit
    have h : s.after = u ++ (v ++ y) := by rw [h, List.append_assoc]
    obtain ⟨t, ht, way⟩ := iha h fit
    obtain ⟨t', ht', way'⟩ := ihb (way.after_eq h) (way.before ▸ fit')
    exact ⟨t', List.mem_flatMap.2 ⟨t, ht, ht'⟩, way.trans way'⟩
  | either a b iha ihb =>
    rcases fit with fit | fit
    · obtain ⟨t, ht, way⟩ := iha h fit
      exact ⟨t, List.mem_append_left _ ht, way⟩
    · obtain ⟨t, ht, way⟩ := ihb h fit
      exact ⟨t, List.mem_append_right _ ht, way⟩
  | star a ih => exact mem_of_repeats (fun _ _ _ => ih) fit rfl h (by simp [h])
  | capture n a ih =>
    obtain ⟨t, ht, way⟩ := ih h fit
    exact ⟨_, List.mem_map_of_mem ht, way.after, way.before, way.offset⟩
  | between holds =>
    obtain ⟨rfl, hb⟩ := fit
    refine ⟨s, ?_, rfl, rfl, rfl⟩
    rw [List.nil_append] at h
    simp [ends, h, hb]

/-! ## Combinations -/

section Combinations

variable {before w after : List Char}

@[simp] theorem fits_sequence_nil : (sequence []).Fits before w after ↔ w = [] := Iff.rfl

@[simp] theorem fits_sequence_cons {a : Pattern} {ps : List Pattern} :
    (sequence (a :: ps)).Fits before w after ↔
      ∃ u v, w = u ++ v ∧ a.Fits before u (v ++ after) ∧
        (sequence ps).Fits (u.reverse ++ before) v after := Iff.rfl

@[simp] theorem fits_word {u : String} : (word u).Fits before w after ↔ w = u.toList := Iff.rfl

@[simp] theorem fits_many {p : Char → Bool} : (many p).Fits before w after ↔ IsRun p w := by
  constructor
  · rintro ⟨_, v, rfl, ⟨c, hc, rfl⟩, each⟩
    exact ⟨List.cons_ne_nil _ _, List.forall_mem_cons.2 ⟨hc, each⟩⟩
  · rintro ⟨nonempty, each⟩
    obtain ⟨c, v, rfl⟩ := List.exists_cons_of_ne_nil nonempty
    obtain ⟨hc, each⟩ := List.forall_mem_cons.1 each
    exact ⟨[c], v, rfl, ⟨c, hc, rfl⟩, each⟩

@[simp] theorem fits_blanks : blanks.Fits before w after ↔ IsRun Text.isBlank w := fits_many

@[simp] theorem fits_optional {a : Pattern} :
    (optional a).Fits before w after ↔ a.Fits before w after ∨ w = [] := Iff.rfl

@[simp] theorem fits_gap : gap.Fits before w after ↔ ∀ c ∈ w, Text.isBlank c = true := Iff.rfl

@[simp] theorem fits_fewest {p : Char → Bool} :
    (fewest p).Fits before w after ↔ ∀ c ∈ w, p c = true := Iff.rfl

@[simp] theorem fits_capture {k : Nat} {a : Pattern} :
    (capture k a).Fits before w after ↔ a.Fits before w after := Iff.rfl

@[simp] theorem fits_exactly {c : Char} : (exactly c).Fits before w after ↔ w = [c] := by
  simp [exactly, Fits]

@[simp] theorem fits_edge :
    edge.Fits before w after ↔
      w = [] ∧ headIs Text.isWord before ≠ headIs Text.isWord after := by
  simp [edge, Fits]

theorem fits_sequence_append {ps qs : List Pattern} :
    (sequence (ps ++ qs)).Fits before w after ↔
      ∃ u v, w = u ++ v ∧ (sequence ps).Fits before u (v ++ after) ∧
        (sequence qs).Fits (u.reverse ++ before) v after := by
  induction ps generalizing before w with
  | nil => simp
  | cons p ps ih =>
    simp only [List.cons_append, fits_sequence_cons, ih]
    constructor
    · rintro ⟨u, _, rfl, fit, u', v, rfl, fit', rest⟩
      refine ⟨u ++ u', v, (List.append_assoc ..).symm, ⟨u, u', rfl, ?_, fit'⟩, ?_⟩
      · rwa [← List.append_assoc]
      · rwa [List.reverse_append, List.append_assoc]
    · rintro ⟨_, v, rfl, ⟨u, u', rfl, fit, fit'⟩, rest⟩
      refine ⟨u, u' ++ v, List.append_assoc .., ?_, u', v, rfl, fit', ?_⟩
      · rwa [List.append_assoc]
      · rwa [List.reverse_append, List.append_assoc] at rest

end Combinations

theorem fits_oneOf {ps : List Pattern} {before w after : List Char} :
    (oneOf ps).Fits before w after ↔ ∃ p ∈ ps, p.Fits before w after := by
  fun_induction oneOf ps with
  | case1 => simp [Fits]
  | case2 p => simp
  | case3 p ps _ ih =>
    show p.Fits before w after ∨ (oneOf ps).Fits before w after ↔ _
    rw [ih, List.exists_mem_cons_iff]

/-- A stretch is a word of small letters in any case if each of its characters is the same letter. -/
theorem fits_anyCase {word : String} {before w after : List Char} :
    (anyCase word).Fits before w after ↔ List.Forall₂ (sameLetter · · = true) word.toList w := by
  rw [anyCase]
  generalize word.toList = letters
  induction letters generalizing before w with
  | nil => simp
  | cons c letters ih =>
    rw [List.map_cons, fits_sequence_cons, List.forall₂_cons_left_iff]
    constructor
    · rintro ⟨_, v, rfl, ⟨d, same, rfl⟩, rest⟩
      exact ⟨d, v, same, ih.1 rest, rfl⟩
    · rintro ⟨d, v, same, rest, rfl⟩
      exact ⟨[d], v, rfl, ⟨d, same, rfl⟩, ih.2 rest⟩

/-- The matches of a row of patterns go through the places where its first part ends. -/
theorem ends_sequence_append (ps qs : List Pattern) (s : Place) :
    (sequence (ps ++ qs)).ends s = ((sequence ps).ends s).flatMap fun t => (sequence qs).ends t := by
  induction ps generalizing s with
  | nil => exact (List.flatMap_singleton _ s).symm
  | cons p ps ih =>
    change (p.ends s).flatMap (fun t => (sequence (ps ++ qs)).ends t) =
      ((p.ends s).flatMap fun t => (sequence ps).ends t).flatMap _
    simp only [ih, List.flatMap_assoc]

theorem ends_sequence_singleton (p : Pattern) (s : Place) : (sequence [p]).ends s = p.ends s :=
  List.flatMap_singleton' _

/-- The first match of one character or more of a class takes all of them. -/
theorem head_ends_many {p : Char → Bool} {s t : Place} (h : ((many p).ends s).head? = some t) :
    ∃ w, s.Over w t ∧ IsRun p w ∧ headIs p t.after = false := by
  change (((char p).ends s).flatMap fun u => u.reach p).head? = some t at h
  cases hs : s.after with
  | nil => simp [ends, hs] at h
  | cons c rest =>
    by_cases hc : p c = true
    · simp only [ends, hs, hc, if_true, List.flatMap_singleton] at h
      obtain ⟨w, way, each, stop⟩ := Place.head_reachFrom h
      exact ⟨c :: w, (Place.over_cons hs _).trans way,
        ⟨List.cons_ne_nil _ _, List.forall_mem_cons.2 ⟨hc, each⟩⟩, stop⟩
    · simp [ends, hs, hc] at h

/-- The first match that captures characters of a class has captured all of them. -/
theorem head_ends_capture_many {k : Nat} {p : Char → Bool} {s t : Place}
    (h : ((capture k (many p)).ends s).head? = some t) :
    s.Over (t.capture k) t ∧ IsRun p (t.capture k) ∧ headIs p t.after = false := by
  rw [ends, List.head?_map, Option.map_eq_some_iff] at h
  obtain ⟨u, hu, rfl⟩ := h
  obtain ⟨w, way, run, stop⟩ := head_ends_many hu
  have captured : s.after.take (u.offset - s.offset) = w := by
    rw [way.after, way.offset, Nat.add_sub_cancel_left, List.take_left']
    rfl
  simp only [Place.capture, List.lookup_cons_self, Option.getD_some, captured]
  exact ⟨⟨way.after, way.before, way.offset⟩, run, stop⟩

/-! ## Searches -/

theorem matchAt?_eq_head? (p : Pattern) (s : Place) :
    p.matchAt? s = (p.ends s).head?.map (⟨s, ·⟩) := by
  rw [matchAt?, run_eq_findSome?, ← List.head?_filterMap, List.filterMap_some]

theorem head_of_matchAt? {p : Pattern} {s : Place} {m : Match} (h : p.matchAt? s = some m) :
    m.start = s ∧ (p.ends m.start).head? = some m.stop := by
  obtain ⟨t, ht, rfl⟩ := Option.map_eq_some_iff.1 (matchAt?_eq_head? p s ▸ h)
  exact ⟨rfl, ht⟩

theorem matchAt?_eq_none_iff {p : Pattern} {before after : List Char} {offset : Nat}
    {captures : List (Nat × List Char)} :
    p.matchAt? ⟨before, after, offset, captures⟩ = none ↔
      ∀ w y, after = w ++ y → ¬ p.Fits before w y := by
  rw [matchAt?_eq_head?, Option.map_eq_none_iff, List.head?_eq_none_iff]
  constructor
  · intro none w y split fit
    obtain ⟨t, ht, -⟩ := exists_mem_ends (s := ⟨before, after, offset, captures⟩) split fit
    exact List.not_mem_nil (none ▸ ht)
  · intro none
    refine List.eq_nil_iff_forall_not_mem.2 fun t ht => ?_
    obtain ⟨w, way, fit⟩ := fits_of_mem_ends ht
    exact none w t.after way.after fit

theorem searchFrom?_nil (p : Pattern) (before : List Char) (offset : Nat) :
    p.searchFrom? before offset [] = p.matchAt? ⟨before, [], offset, []⟩ := by
  rw [searchFrom?.eq_def]
  split <;> simp_all

theorem searchFrom?_cons (p : Pattern) (before : List Char) (offset : Nat) (c : Char)
    (text : List Char) :
    p.searchFrom? before offset (c :: text) =
      (p.matchAt? ⟨before, c :: text, offset, []⟩).or
        (p.searchFrom? (c :: before) (offset + 1) text) := by
  conv => lhs; rw [searchFrom?.eq_def]
  split <;> simp_all

/-- A search fails exactly if no stretch of the text fits. -/
theorem searchFrom?_eq_none_iff {p : Pattern} {before text : List Char} {offset : Nat} :
    p.searchFrom? before offset text = none ↔
      ∀ x w y, text = x ++ w ++ y → ¬ p.Fits (x.reverse ++ before) w y := by
  induction text generalizing before offset with
  | nil =>
    rw [searchFrom?_nil, matchAt?_eq_none_iff]
    constructor
    · intro none x w y split
      obtain ⟨⟨rfl, rfl⟩, rfl⟩ : (x = [] ∧ w = []) ∧ y = [] := by
        simpa [and_assoc] using split
      exact none [] [] rfl
    · intro none w y split
      exact none [] w y split
  | cons c text ih =>
    rw [searchFrom?_cons, Option.or_eq_none_iff, matchAt?_eq_none_iff, ih]
    constructor
    · rintro ⟨here, ahead⟩ (_ | ⟨d, x⟩) w y split
      · exact here w y split
      · obtain ⟨rfl, split'⟩ := List.cons.inj split
        rw [List.reverse_cons, List.append_assoc]
        exact ahead x w y split'
    · intro none
      refine ⟨fun w y => none [] w y, fun x w y split => ?_⟩
      have ahead := none (c :: x) w y (congrArg (c :: ·) split)
      rwa [List.reverse_cons, List.append_assoc] at ahead

/-- A search gives the first match at the first place where a stretch fits. -/
theorem of_searchFrom? {p : Pattern} {before text : List Char} {offset : Nat} {m : Match}
    (h : p.searchFrom? before offset text = some m) :
    ∃ x z, text = x ++ z ∧ m.start = ⟨x.reverse ++ before, z, offset + x.length, []⟩ ∧
      (p.ends m.start).head? = some m.stop ∧
      ∀ x' w y, text = x' ++ w ++ y → p.Fits (x'.reverse ++ before) w y → x.length ≤ x'.length := by
  induction text generalizing before offset with
  | nil =>
    obtain ⟨start, stop⟩ := head_of_matchAt? (searchFrom?_nil p before offset ▸ h)
    exact ⟨[], [], rfl, start, stop, fun _ _ _ _ _ => Nat.zero_le _⟩
  | cons c text ih =>
    rw [searchFrom?_cons, Option.or_eq_some_iff] at h
    rcases h with h | ⟨none, h⟩
    · obtain ⟨start, stop⟩ := head_of_matchAt? h
      exact ⟨[], _, rfl, start, stop, fun _ _ _ _ _ => Nat.zero_le _⟩
    · obtain ⟨x, z, rfl, start, stop, first⟩ := ih h
      refine ⟨c :: x, z, rfl, ?_, stop, ?_⟩
      · rw [start, List.reverse_cons, List.append_assoc, List.length_cons]
        congr 1
        omega
      · rintro (_ | ⟨d, x'⟩) w y split fit
        · exact absurd fit (matchAt?_eq_none_iff.1 none w y split)
        · obtain ⟨rfl, ahead⟩ := List.cons.inj split
          rw [List.reverse_cons, List.append_assoc] at fit
          exact Nat.succ_le_succ (first x' w y ahead fit)

theorem search?_eq_none_iff {p : Pattern} {text : List Char} :
    p.search? text = none ↔ ∀ x w y, text = x ++ w ++ y → ¬ p.Fits x.reverse w y := by
  rw [search?, searchFrom?_eq_none_iff]
  simp only [List.append_nil]

theorem of_search? {p : Pattern} {text : List Char} {m : Match} (h : p.search? text = some m) :
    ∃ x z, text = x ++ z ∧ m.start = ⟨x.reverse, z, x.length, []⟩ ∧
      (p.ends m.start).head? = some m.stop ∧
      ∀ x' w y, text = x' ++ w ++ y → p.Fits x'.reverse w y → x.length ≤ x'.length := by
  obtain ⟨x, z, split, start, stop, first⟩ := of_searchFrom? h
  rw [List.append_nil, Nat.zero_add] at start
  simp only [List.append_nil] at first
  exact ⟨x, z, split, start, stop, first⟩

/-- A pattern is found exactly if a stretch of the text fits it. -/
theorem found_iff {p : Pattern} {text : List Char} :
    p.found text = true ↔ ∃ x w y, text = x ++ w ++ y ∧ p.Fits x.reverse w y := by
  rw [found, Option.isSome_iff_ne_none, ne_eq, search?_eq_none_iff]
  push Not
  rfl

end Pattern

end ModuleAudit
