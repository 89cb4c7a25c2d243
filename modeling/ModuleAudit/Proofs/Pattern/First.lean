import ModuleAudit.Proofs.Pattern.Fit

/-!
# Finding a match that is known

Where it is known what stands in a text, so is what a search finds there. The first match of a
pattern is put together from the first matches of its parts, as long as these do not have to be
taken back (`Takes.seq`). A search passes over a stretch in which no match starts
(`searchFrom?_skip`, `findFrom_skip`) and goes on behind a match that it finds (`findFrom_hit`).
What is not found lies inside of a match that is (`mem_or_inside_findFrom`), so a match is found where
none can reach over its beginning (`mem_findAll_of_matchAt?`). Most parts of a pattern do not ask what
stands before them; what such a part takes is said of the text ahead only (`Reads`).
-/

namespace ModuleAudit

namespace Place

theorem head_reachFrom_of_append {p : Char → Bool} {s : Place} {w y : List Char} (seen : List Place)
    (h : s.after = w ++ y) (each : ∀ c ∈ w, p c = true) (stop : Pattern.headIs p y = false) :
    (s.reachFrom p seen).head? =
      some ⟨w.reverse ++ s.before, y, s.offset + w.length, s.captures⟩ := by
  induction w generalizing s seen with
  | nil =>
    subst h
    have here : s.reachFrom p seen = s :: seen := by
      cases hs : s.after with
      | nil => exact reachFrom_nil seen hs
      | cons c rest =>
        rw [reachFrom_cons seen hs, if_neg]
        simpa [hs, Pattern.headIs] using stop
    rw [here]
    rfl
  | cons c w ih =>
    obtain ⟨hc, each⟩ := List.forall_mem_cons.1 each
    rw [reachFrom_cons seen h, if_pos hc, ih _ rfl each]
    simp [Nat.add_assoc, Nat.add_comm 1]

theorem captures_advance (n : Nat) (s : Place) : (s.advance n).captures = s.captures := by
  induction n generalizing s with
  | zero => rfl
  | succ n ih =>
    rw [advance]
    split
    · rfl
    · exact ih _

end Place

namespace Pattern

/-! ## The first match -/

/-- The first match of the pattern at the place covers the characters `w` and keeps the stretches
`kept`. -/
def Takes (p : Pattern) (s : Place) (w : List Char) (kept : List (Nat × List Char)) : Prop :=
  ∃ t, (p.ends s).head? = some t ∧ s.Over w t ∧ t.captures = kept ++ s.captures

section Takes

variable {a b : Pattern} {p : Char → Bool} {s : Place} {u v w y : List Char}
  {kept kept' : List (Nat × List Char)}

theorem takes_nothing (s : Place) : nothing.Takes s [] [] := ⟨s, rfl, ⟨rfl, rfl, rfl⟩, rfl⟩

theorem takes_char {c : Char} (h : s.after = c :: y) (hc : p c = true) :
    (char p).Takes s [c] [] :=
  ⟨_, by simp [ends, h, hc], Place.over_cons h s.captures, rfl⟩

theorem takes_exactly {c : Char} (h : s.after = c :: y) : (exactly c).Takes s [c] [] :=
  takes_char h (beq_self_eq_true c)

theorem takes_most (h : s.after = w ++ y) (each : ∀ c ∈ w, p c = true) (stop : headIs p y = false) :
    (most p).Takes s w [] :=
  ⟨_, Place.head_reachFrom_of_append [] h each stop, ⟨h, rfl, rfl⟩, rfl⟩

theorem takes_between (holds : List Char → List Char → Bool) (h : holds s.before s.after = true) :
    (between holds).Takes s [] [] :=
  ⟨s, by simp [ends, h], ⟨rfl, rfl, rfl⟩, rfl⟩

theorem Takes.seq (ha : a.Takes s u kept) (hb : ∀ t, s.Over u t → b.Takes t v kept') :
    (Pattern.seq a b).Takes s (u ++ v) (kept' ++ kept) := by
  obtain ⟨t, head, way, captures⟩ := ha
  obtain ⟨r, head', way', captures'⟩ := hb t way
  refine ⟨r, ?_, way.trans way', by rw [captures', captures, List.append_assoc]⟩
  obtain ⟨ts, cut⟩ := List.head?_eq_some_iff.1 head
  rw [ends, cut, List.flatMap_cons, List.head?_append, head', Option.some_or]

theorem takes_many (h : s.after = w ++ y) (run : IsRun p w) (stop : headIs p y = false) :
    (many p).Takes s w [] := by
  obtain ⟨c, w, rfl⟩ := List.exists_cons_of_ne_nil run.nonempty
  obtain ⟨hc, each⟩ := List.forall_mem_cons.1 run.each
  exact (takes_char h hc).seq fun t way => takes_most (way.after_eq h) each stop

theorem Takes.capture {k : Nat} (h : a.Takes s w kept) :
    (Pattern.capture k a).Takes s w ((k, w) :: kept) := by
  obtain ⟨t, head, way, captures⟩ := h
  have stretch : s.after.take (t.offset - s.offset) = w := by
    rw [way.after, way.offset, Nat.add_sub_cancel_left, List.take_left']
    rfl
  refine ⟨{ t with captures := (k, w) :: t.captures }, ?_, ⟨way.after, way.before, way.offset⟩, ?_⟩
  · rw [ends, List.head?_map, head, Option.map_some, stretch]
  · rw [captures, List.cons_append]

theorem ends_eq_nil (h : ∀ w y, s.after = w ++ y → ¬ a.Fits s.before w y) : a.ends s = [] := by
  refine List.eq_nil_iff_forall_not_mem.2 fun t ht => ?_
  obtain ⟨w, way, fit⟩ := fits_of_mem_ends ht
  exact h w t.after way.after fit

/-- What may stand somewhere does not have to. -/
theorem takes_optional_of_none (h : ∀ w y, s.after = w ++ y → ¬ a.Fits s.before w y) :
    (optional a).Takes s [] [] := by
  refine ⟨s, ?_, ⟨rfl, rfl, rfl⟩, rfl⟩
  rw [optional, ends, ends_eq_nil h]
  rfl

theorem Takes.either_left (h : a.Takes s w kept) : (either a b).Takes s w kept := by
  obtain ⟨t, head, way, captures⟩ := h
  exact ⟨t, by rw [ends, List.head?_append, head, Option.some_or], way, captures⟩

theorem Takes.either_right (h : b.Takes s w kept) (none : a.ends s = []) :
    (either a b).Takes s w kept := by
  obtain ⟨t, head, way, captures⟩ := h
  exact ⟨t, by rw [ends, none, List.nil_append, head], way, captures⟩

/-- At the end of a text there is nothing to repeat. -/
theorem takes_star_of_nil (h : s.after = []) : (star a).Takes s [] [] :=
  ⟨s, by rw [ends, h]; rfl, ⟨rfl, rfl, rfl⟩, rfl⟩

theorem Takes.matchAt? (h : a.Takes s w kept) :
    ∃ m, a.matchAt? s = some m ∧ m.start = s ∧ s.Over w m.stop ∧
      m.stop.captures = kept ++ s.captures := by
  obtain ⟨t, head, way, captures⟩ := h
  exact ⟨⟨s, t⟩, by rw [matchAt?_eq_head?, head, Option.map_some], rfl, way, captures⟩

end Takes

/-! ## What is taken whatever stands before it -/

/-- How often a repetition may go on does not matter, as long as the text does not end earlier. -/
theorem repeatEnds_congr {next : Place → List Place} (ahead : ∀ s, ∀ t ∈ next s, s.Leads t)
    (left left' : List Char) {s : Place} (long : s.after.length ≤ left.length)
    (long' : s.after.length ≤ left'.length) : repeatEnds next left s = repeatEnds next left' s := by
  have shorter {s t : Place} (ht : t ∈ (next s).filter (s.offset < ·.offset)) :
      t.after.length < s.after.length := by
    obtain ⟨mem, moved⟩ := List.mem_filter.1 ht
    obtain ⟨w, way⟩ := ahead s t mem
    have offset := way.offset
    have moved : s.offset < t.offset := of_decide_eq_true moved
    rw [way.after, List.length_append]
    omega
  have stays {s : Place} (stop : s.after = []) (left : List Char) : repeatEnds next left s = [s] := by
    cases left with
    | nil => rfl
    | cons c left =>
      have none : (next s).filter (s.offset < ·.offset) = [] :=
        List.eq_nil_iff_forall_not_mem.2 fun t ht => by simpa [stop] using shorter ht
      rw [repeatEnds, none]
      rfl
  induction left generalizing s left' with
  | nil =>
    have stop : s.after = [] := List.length_eq_zero_iff.1 (Nat.le_zero.1 long)
    rw [stays stop, stays stop]
  | cons c left ih =>
    cases left' with
    | nil =>
      have stop : s.after = [] := List.length_eq_zero_iff.1 (Nat.le_zero.1 long')
      rw [stays stop, stays stop]
    | cons d left' =>
      rw [repeatEnds, repeatEnds]
      refine congrArg (· ++ [s]) (List.flatMap_congr fun t ht => ?_)
      have := shorter ht
      rw [List.length_cons] at long long'
      exact ih _ (by omega) (by omega)

/-- Wherever the characters `w` stand before `y`, the first match of the pattern covers them and
keeps the stretches `kept`. -/
def Reads (p : Pattern) (w y : List Char) (kept : List (Nat × List Char)) : Prop :=
  ∀ s : Place, s.after = w ++ y → p.Takes s w kept

section Reads

variable {a b : Pattern} {p : Char → Bool} {u v w y : List Char} {kept kept' : List (Nat × List Char)}

theorem reads_text (w y : List Char) : (text w).Reads w y [] := by
  intro s h
  have first : w <+: s.after := ⟨y, h.symm⟩
  refine ⟨_, ?_, Place.over_advance first, ?_⟩
  · rw [ends, if_pos (List.isPrefixOf_iff_prefix.2 first)]
    rfl
  · exact Place.captures_advance ..

theorem reads_exactly (c : Char) (y : List Char) : (exactly c).Reads [c] y [] :=
  fun _ h => takes_exactly h

theorem reads_char {c : Char} (h : p c = true) (y : List Char) : (char p).Reads [c] y [] :=
  fun _ after => takes_char after h

theorem reads_most (each : ∀ c ∈ w, p c = true) (stop : headIs p y = false) : (most p).Reads w y [] :=
  fun _ h => takes_most h each stop

theorem reads_many (run : IsRun p w) (stop : headIs p y = false) : (many p).Reads w y [] :=
  fun _ h => takes_many h run stop

theorem Reads.capture {k : Nat} (h : a.Reads w y kept) :
    (Pattern.capture k a).Reads w y ((k, w) :: kept) := fun s after => (h s after).capture

theorem Reads.seq (ha : a.Reads u (v ++ y) kept) (hb : b.Reads v y kept') :
    (Pattern.seq a b).Reads (u ++ v) y (kept' ++ kept) := by
  intro s h
  rw [List.append_assoc] at h
  exact (ha s h).seq fun t way => hb t (way.after_eq h)

theorem reads_sequence_nil (y : List Char) : (sequence []).Reads [] y [] := fun s _ => takes_nothing s

theorem Reads.cons {ps : List Pattern} (ha : a.Reads u (v ++ y) kept)
    (hb : (sequence ps).Reads v y kept') : (sequence (a :: ps)).Reads (u ++ v) y (kept' ++ kept) :=
  ha.seq hb

/-- At the first character of a word that stands behind no other one, what may only stand where a
word starts is taken. -/
theorem Reads.after_edge {ps : List Pattern} {s : Place} (h : (sequence ps).Reads w y kept)
    (after : s.after = w ++ y) (apart : headIs Text.isWord s.before = false)
    (word : headIs Text.isWord w = true) : (sequence (edge :: ps)).Takes s w kept := by
  have ahead : headIs Text.isWord s.after = true := by
    rw [after]
    cases w with
    | nil => cases word
    | cons c w => exact word
  have takes := (takes_between (fun before after => headIs Text.isWord before != headIs Text.isWord after)
    (by rw [apart, ahead]; rfl)).seq fun t way => h t (way.after_eq after)
  rwa [List.append_nil] at takes

theorem Reads.star_nil (none : ∀ s : Place, s.after = y → a.ends s = []) : (star a).Reads [] y [] := by
  intro s h
  refine ⟨s, ?_, ⟨rfl, rfl, rfl⟩, rfl⟩
  rw [ends]
  cases s.after with
  | nil => rfl
  | cons c left =>
    rw [repeatEnds, none s h]
    rfl

theorem Reads.star_cons (nonempty : u ≠ []) (ha : a.Reads u (v ++ y) kept)
    (hs : (star a).Reads v y kept') : (star a).Reads (u ++ v) y (kept' ++ kept) := by
  intro s h
  rw [List.append_assoc] at h
  obtain ⟨t, head, way, captures⟩ := ha s h
  obtain ⟨r, head', way', captures'⟩ := hs t (way.after_eq h)
  refine ⟨r, ?_, way.trans way', by rw [captures', captures, List.append_assoc]⟩
  obtain ⟨c, u, rfl⟩ := List.exists_cons_of_ne_nil nonempty
  obtain ⟨ts, cut⟩ := List.head?_eq_some_iff.1 head
  have moved : s.offset < t.offset := by
    rw [way.offset, List.length_cons]
    omega
  -- The first repetition leads to `t`, and from there the others go on as they would from the start.
  have on : (repeatEnds (fun t => a.ends t) (u ++ (v ++ y)) t).head? = some r := by
    rw [← head', ends, repeatEnds_congr (fun _ _ => ends_leads) _ t.after _ (Nat.le_refl _)]
    simp only [way.after_eq h, List.length_append]
    omega
  rw [ends, h, List.cons_append, repeatEnds, cut, List.filter_cons_of_pos (by simpa using moved),
    List.flatMap_cons, List.append_assoc, List.head?_append, on, Option.some_or]

end Reads

/-! ## Passing over a stretch -/

section Skip

variable {p : Pattern} {before front rest : List Char} {offset : Nat}

/-- No match starts in the stretch `front`, which stands before `rest`. -/
def Passes (p : Pattern) (before front rest : List Char) : Prop :=
  ∀ x z, front = x ++ z → z ≠ [] → ∀ w y, z ++ rest = w ++ y → ¬ p.Fits (x.reverse ++ before) w y

theorem passes_cons {c : Char} (offset : Nat) (h : p.Passes before (c :: front) rest) :
    p.matchAt? ⟨before, c :: (front ++ rest), offset, []⟩ = none ∧
      p.Passes (c :: before) front rest := by
  refine ⟨matchAt?_eq_none_iff.2 fun w y split => ?_, fun x z cut nonempty w y split => ?_⟩
  · exact h [] (c :: front) rfl (List.cons_ne_nil _ _) w y split
  · have ahead := h (c :: x) z (by rw [cut]; rfl) nonempty w y split
    rwa [List.reverse_cons, List.append_assoc] at ahead

/-- A stretch is passed over if it lacks the character with which every match starts. -/
theorem passes_of_head {c : Char} (starts : ∀ {before w after}, p.Fits before w after → w.head? = some c)
    (none : c ∉ front) : p.Passes before front rest := by
  rintro x z rfl nonempty w y split fit
  obtain ⟨d, z, rfl⟩ := List.exists_cons_of_ne_nil nonempty
  obtain ⟨w, rfl⟩ := List.head?_eq_some_iff.1 (starts fit)
  obtain rfl : d = c := (List.cons.inj split).1
  exact none (by simp)

theorem searchFrom?_skip (h : p.Passes before front rest) :
    p.searchFrom? before offset (front ++ rest) =
      p.searchFrom? (front.reverse ++ before) (offset + front.length) rest := by
  induction front generalizing before offset with
  | nil => rfl
  | cons c front ih =>
    obtain ⟨none, ahead⟩ := passes_cons offset h
    rw [List.cons_append, searchFrom?_cons, none, Option.none_or, ih ahead]
    simp [Nat.add_assoc, Nat.add_comm 1]

theorem searchFrom?_hit {m : Match} (h : p.matchAt? ⟨before, rest, offset, []⟩ = some m) :
    p.searchFrom? before offset rest = some m := by
  rw [searchFrom?.eq_def]
  simp only [h]

/-- A search finds the match behind a stretch that it passes over. -/
theorem search?_of_passes {w : List Char} {kept : List (Nat × List Char)} (h : p.Passes [] front rest)
    (takes : p.Takes ⟨front.reverse, rest, front.length, []⟩ w kept) :
    ∃ m, p.search? (front ++ rest) = some m ∧ m.stop.captures = kept := by
  obtain ⟨m, found, -, -, captures⟩ := takes.matchAt?
  refine ⟨m, ?_, by rw [captures, List.append_nil]⟩
  rw [search?, searchFrom?_skip h, List.append_nil, Nat.zero_add]
  exact searchFrom?_hit found

theorem findFrom_skip (h : p.Passes before front rest) :
    p.findFrom before offset 0 (front ++ rest) =
      p.findFrom (front.reverse ++ before) (offset + front.length) 0 rest := by
  induction front generalizing before offset with
  | nil => rfl
  | cons c front ih =>
    obtain ⟨none, ahead⟩ := passes_cons offset h
    rw [List.cons_append, findFrom, if_neg (by simp), none]
    simp only [ih ahead]
    simp [Nat.add_assoc, Nat.add_comm 1]

/-- The characters of the last match are not searched. -/
theorem findFrom_length (w : List Char) :
    p.findFrom before offset w.length (w ++ rest) =
      p.findFrom (w.reverse ++ before) (offset + w.length) 0 rest := by
  induction w generalizing before offset with
  | nil => rfl
  | cons c w ih =>
    rw [List.cons_append, findFrom, if_pos (by simp), List.length_cons, Nat.add_sub_cancel, ih]
    simp [Nat.add_assoc, Nat.add_comm 1]

theorem findFrom_hit {w : List Char} {m : Match} (nonempty : w ≠ [])
    (h : p.matchAt? ⟨before, w ++ rest, offset, []⟩ = some m) (len : m.length = w.length) :
    p.findFrom before offset 0 (w ++ rest) =
      m :: p.findFrom (w.reverse ++ before) (offset + w.length) 0 rest := by
  obtain ⟨c, w, rfl⟩ := List.exists_cons_of_ne_nil nonempty
  rw [List.cons_append] at h ⊢
  rw [findFrom, if_neg (by simp), h]
  simp only [len, List.length_cons, Nat.add_sub_cancel, findFrom_length]
  simp [Nat.add_assoc, Nat.add_comm 1]

end Skip

/-! ## Finding every match -/

/-- Nothing is found where no stretch of the text fits. -/
theorem findFrom_eq_nil {p : Pattern} {before text : List Char} {offset : Nat}
    (h : ∀ x w y, text = x ++ w ++ y → ¬ p.Fits (x.reverse ++ before) w y) :
    p.findFrom before offset 0 text = [] := by
  induction text generalizing before offset with
  | nil =>
    rw [findFrom, if_pos (beq_self_eq_true 0), Option.toList_eq_nil_iff, matchAt?_eq_none_iff]
    exact h []
  | cons c text ih =>
    have none : p.matchAt? ⟨before, c :: text, offset, []⟩ = none := matchAt?_eq_none_iff.2 (h [])
    rw [findFrom, if_neg (by simp), none]
    refine ih fun x w y split => ?_
    have ahead := h (c :: x) w y (congrArg (c :: ·) split)
    rwa [List.reverse_cons, List.append_assoc] at ahead

theorem matchAt?_of_mem_findFrom {p : Pattern} {before after : List Char} {offset skip : Nat} {m : Match}
    (h : m ∈ p.findFrom before offset skip after) : p.matchAt? m.start = some m := by
  have here {s : Place} (found : p.matchAt? s = some m) : p.matchAt? m.start = some m :=
    (matchAt?_eq_some found).1 ▸ found
  induction after generalizing before offset skip with
  | nil =>
    rw [findFrom] at h
    split at h
    · exact here (Option.mem_toList.1 h)
    · cases h
  | cons c rest ih =>
    rw [findFrom] at h
    split at h
    · exact ih h
    split at h
    next found =>
      rcases List.mem_cons.1 h with rfl | h
      · exact here found
      · exact ih h
    next => exact ih h

/-- What is kept of a match that is found is what the pattern keeps at its place. -/
theorem captures_of_mem_findFrom {p : Pattern} {before after w : List Char} {offset skip : Nat}
    {m : Match} {kept : List (Nat × List Char)} (h : m ∈ p.findFrom before offset skip after)
    (takes : p.Takes m.start w kept) : m.stop.captures = kept ++ m.start.captures := by
  obtain ⟨m', found, -, -, captures⟩ := takes.matchAt?
  obtain rfl : m' = m := Option.some.inj (found.symm.trans (matchAt?_of_mem_findFrom h))
  exact captures

/-- A match at a place of the text is found, unless the place lies inside of a match that is found.
-/
theorem mem_or_inside_findFrom {p : Pattern} {before after x z : List Char} {offset skip : Nat}
    {m : Match} (split : after = x ++ z) (past : skip ≤ x.length)
    (h : p.matchAt? ⟨x.reverse ++ before, z, offset + x.length, []⟩ = some m) :
    m ∈ p.findFrom before offset skip after ∨
      ∃ other ∈ p.findFrom before offset skip after,
        other.start.offset < m.start.offset ∧ m.start.offset < other.stop.offset := by
  induction after generalizing before offset skip x with
  | nil =>
    obtain ⟨rfl, rfl⟩ := List.append_eq_nil_iff.1 split.symm
    obtain rfl : skip = 0 := Nat.le_zero.1 past
    exact .inl (by simpa [findFrom] using h)
  | cons c rest ih =>
    cases x with
    | nil =>
      obtain rfl : z = c :: rest := split.symm
      obtain rfl : skip = 0 := Nat.le_zero.1 past
      left
      rw [findFrom, if_neg (by simp)]
      simp only [List.reverse_nil, List.nil_append, List.length_nil, Nat.add_zero] at h
      rw [h]
      exact List.mem_cons_self
    | cons d x =>
      obtain ⟨rfl, tail⟩ := List.cons.inj split
      have start : m.start.offset = offset + (x.length + 1) := by rw [(matchAt?_eq_some h).1]; rfl
      replace h : p.matchAt? ⟨x.reverse ++ c :: before, z, offset + 1 + x.length, []⟩ = some m := by
        rwa [List.reverse_cons, List.append_assoc, List.length_cons, Nat.add_comm x.length,
          ← Nat.add_assoc] at h
      rw [List.length_cons] at past
      rw [findFrom]
      by_cases none : skip = 0
      · rw [if_neg (by simpa using none)]
        split
        next first found =>
          -- The first match is found; it may reach past the place.
          by_cases inside : first.length - 1 ≤ x.length
          · rcases ih tail inside h with found | ⟨other, mem, range⟩
            · exact .inl (List.mem_cons_of_mem _ found)
            · exact .inr ⟨other, List.mem_cons_of_mem _ mem, range⟩
          · have here : first.start.offset = offset := by rw [(matchAt?_eq_some found).1]
            rw [Match.length, here] at inside
            exact .inr ⟨first, List.mem_cons_self, by omega, by omega⟩
        · exact ih tail (Nat.zero_le _) h
      · rw [if_pos (by simpa using none)]
        exact ih tail (by omega) h

/-- A match at a place of the text is found, if no stretch fits that covers characters on both sides
of the place. -/
theorem mem_findAll_of_matchAt? {p : Pattern} {x z : List Char} {m : Match}
    (h : p.matchAt? ⟨x.reverse, z, x.length, []⟩ = some m)
    (apart : ∀ a u v b, x = a ++ u → u ≠ [] → z = v ++ b → v ≠ [] → ¬ p.Fits a.reverse (u ++ v) b) :
    m ∈ p.findAll (x ++ z) := by
  have start : m.start.offset = x.length := congrArg Place.offset (matchAt?_eq_some h).1
  have here : p.matchAt? ⟨x.reverse ++ [], z, 0 + x.length, []⟩ = some m := by
    rwa [List.append_nil, Nat.zero_add]
  rcases mem_or_inside_findFrom rfl (Nat.zero_le _) here with found | ⟨other, found, first, last⟩
  · exact found
  obtain ⟨place, stop⟩ := mem_findAll found
  obtain ⟨w, way, fit⟩ := fits_of_mem_ends stop
  have split : x ++ z = other.start.before.reverse ++ (w ++ other.stop.after) := by
    rw [← way.after, place.split]
  rw [start, place.offset] at first
  rw [start, way.offset, place.offset] at last
  rcases List.append_eq_append_iff.1 split with ⟨u, e, -⟩ | ⟨u, rfl, e⟩
  · have := congrArg List.length e
    rw [List.length_reverse, List.length_append] at this
    omega
  rw [List.length_append, List.length_reverse] at first last
  have nonempty : u ≠ [] := by
    rintro rfl
    exact absurd first (by simp)
  rcases List.append_eq_append_iff.1 e with ⟨v, rfl, -⟩ | ⟨v, rfl, after⟩
  · simp only [List.length_append] at last
    omega
  · have covered : v ≠ [] := by
      rintro rfl
      exact absurd last (by simp)
    exact absurd (by simpa using fit) (apart _ u v _ rfl nonempty after covered)

end Pattern

end ModuleAudit
