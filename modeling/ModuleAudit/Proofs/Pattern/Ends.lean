import Mathlib.Data.List.Basic
import ModuleAudit.Pattern.Search

/-!
# Where the matches of a pattern end

A pattern tries its matches at a place in a fixed order. `Pattern.ends` lists the places where they
end, in that order, pattern by pattern and without a continuation; a run is then a search in this
list.

* `run_eq_findSome?`: a run gives the first answer of the continuation on the list;
* `matchAt?_eq_some`, `mem_findFrom`: what is known of a match that has been found.
-/

namespace ModuleAudit

namespace Place

/-- The place lies in the text, at its offset. -/
structure In (p : Place) (s : List Char) : Prop where
  split : p.before.reverse ++ p.after = s
  offset : p.offset = p.before.length

/-- `t` is reached from `s` over the characters `w`. -/
structure Over (s : Place) (w : List Char) (t : Place) : Prop where
  after : s.after = w ++ t.after
  before : t.before = w.reverse ++ s.before
  offset : t.offset = s.offset + w.length

/-- `t` lies ahead of `s` in the same text. -/
def Leads (s t : Place) : Prop := ∃ w, s.Over w t

theorem in_start (s : List Char) : (start s).In s := ⟨rfl, rfl⟩

theorem Over.trans {s t u : Place} {v w : List Char} (h : s.Over v t) (h' : t.Over w u) :
    s.Over (v ++ w) u where
  after := by rw [h.after, h'.after, List.append_assoc]
  before := by rw [h'.before, h.before, List.reverse_append, List.append_assoc]
  offset := by rw [h'.offset, h.offset, List.length_append]; omega

theorem over_cons {s : Place} {c : Char} {rest : List Char} (h : s.after = c :: rest)
    (captures : List (Nat × List Char)) :
    s.Over [c] ⟨c :: s.before, rest, s.offset + 1, captures⟩ := ⟨h, rfl, rfl⟩

theorem Over.in {s t : Place} {w text : List Char} (h : s.Over w t) (hs : s.In text) : t.In text where
  split := by rw [h.before, List.reverse_append, List.reverse_reverse, List.append_assoc, ← h.after,
    hs.split]
  offset := by rw [h.offset, h.before, hs.offset, List.length_append, List.length_reverse]; omega

theorem Over.after_eq {s t : Place} {w y : List Char} (h : s.Over w t) (hs : s.after = w ++ y) :
    t.after = y := (List.append_cancel_left (hs.symm.trans h.after)).symm

theorem over_advance {s : Place} {u : List Char} (h : u <+: s.after) :
    s.Over u (s.advance u.length) := by
  induction u generalizing s with
  | nil => exact ⟨rfl, rfl, rfl⟩
  | cons c u ih =>
    obtain ⟨y, hy⟩ := h
    rw [List.length_cons, advance]
    simp only [← hy, List.cons_append]
    have first : s.Over [c] _ := over_cons hy.symm s.captures
    exact first.trans (ih ⟨y, rfl⟩)

theorem reachFrom_nil {p : Char → Bool} {s : Place} (seen : List Place) (h : s.after = []) :
    reachFrom p seen s = s :: seen := by
  rw [reachFrom]
  split <;> simp_all

theorem reachFrom_cons {p : Char → Bool} {s : Place} {c : Char} {rest : List Char}
    (seen : List Place) (h : s.after = c :: rest) :
    reachFrom p seen s =
      if p c then reachFrom p (s :: seen) ⟨c :: s.before, rest, s.offset + 1, s.captures⟩
      else s :: seen := by
  conv => lhs; rw [reachFrom]
  split <;> simp_all

theorem mem_reachFrom {p : Char → Bool} {s t : Place} {seen : List Place}
    (h : t ∈ s.reachFrom p seen) : t ∈ seen ∨ ∃ w, s.Over w t ∧ ∀ c ∈ w, p c = true := by
  have here {u : Place} {seen : List Place} (h : t ∈ u :: seen) :
      t ∈ seen ∨ ∃ w, u.Over w t ∧ ∀ c ∈ w, p c = true := by
    rcases List.mem_cons.1 h with rfl | h
    · exact .inr ⟨[], ⟨rfl, rfl, rfl⟩, nofun⟩
    · exact .inl h
  induction hs : s.after generalizing s seen with
  | nil => exact here (reachFrom_nil seen hs ▸ h)
  | cons c rest ih =>
    rw [reachFrom_cons seen hs] at h
    split at h
    · rename_i hc
      rcases ih h rfl with hm | ⟨w, way, each⟩
      · exact here hm
      · exact .inr ⟨_, (over_cons hs _).trans way, List.forall_mem_cons.2 ⟨hc, each⟩⟩
    · exact here h

theorem mem_reachFrom_seen {p : Char → Bool} {s t : Place} {seen : List Place} (h : t ∈ s :: seen) :
    t ∈ s.reachFrom p seen := by
  induction hs : s.after generalizing s seen with
  | nil => rwa [reachFrom_nil seen hs]
  | cons c rest ih =>
    rw [reachFrom_cons seen hs]
    split
    · exact ih (List.mem_cons_of_mem _ h) rfl
    · exact h

theorem head_reachFrom {p : Char → Bool} {s t : Place} {seen : List Place}
    (h : (s.reachFrom p seen).head? = some t) :
    ∃ w, s.Over w t ∧ (∀ c ∈ w, p c = true) ∧ Pattern.headIs p t.after = false := by
  induction hs : s.after generalizing s seen with
  | nil =>
    rw [reachFrom_nil seen hs] at h
    obtain rfl := Option.some.inj h
    exact ⟨[], ⟨rfl, rfl, rfl⟩, nofun, by rw [hs]; rfl⟩
  | cons c rest ih =>
    rw [reachFrom_cons seen hs] at h
    split at h
    · rename_i hc
      obtain ⟨w, way, each, stop⟩ := ih h rfl
      exact ⟨_, (over_cons hs _).trans way, List.forall_mem_cons.2 ⟨hc, each⟩, stop⟩
    · rename_i hc
      obtain rfl := Option.some.inj h
      exact ⟨[], ⟨rfl, rfl, rfl⟩, nofun, by simpa [hs, Pattern.headIs] using hc⟩

theorem exists_mem_reachFrom {p : Char → Bool} {s : Place} {w y : List Char} (seen : List Place)
    (h : s.after = w ++ y) (each : ∀ c ∈ w, p c = true) : ∃ t ∈ s.reachFrom p seen, s.Over w t := by
  induction w generalizing s seen with
  | nil => exact ⟨s, mem_reachFrom_seen List.mem_cons_self, rfl, rfl, rfl⟩
  | cons c w ih =>
    obtain ⟨hc, each⟩ := List.forall_mem_cons.1 each
    rw [reachFrom_cons seen h, if_pos hc]
    obtain ⟨t, ht, way⟩ := ih (s := ⟨c :: s.before, w ++ y, s.offset + 1, s.captures⟩) _ rfl each
    exact ⟨t, ht, (over_cons h _).trans way⟩

end Place

namespace Pattern

/-- Where a repetition ends: past one more step and then as often as possible, or at once. -/
def repeatEnds (next : Place → List Place) : (left : List Char) → Place → List Place
  | [], s => [s]
  | _ :: left, s => ((next s).filter (s.offset < ·.offset)).flatMap (repeatEnds next left) ++ [s]

/-- The places where the matches that start at a place end, in the order in which they are tried. -/
def ends : Pattern → Place → List Place
  | nothing, s => [s]
  | char p, s =>
    match s.after with
    | [] => []
    | c :: rest => if p c then [⟨c :: s.before, rest, s.offset + 1, s.captures⟩] else []
  | text w, s => if w.isPrefixOf s.after then [s.advance w.length] else []
  | most p, s => s.reach p
  | fewest p, s => (s.reach p).reverse
  | seq a b, s => (a.ends s).flatMap fun t => b.ends t
  | either a b, s => a.ends s ++ b.ends s
  | star a, s => repeatEnds (fun t => a.ends t) s.after s
  | capture n a, s => (a.ends s).map fun t =>
    { t with captures := (n, s.after.take (t.offset - s.offset)) :: t.captures }
  | between holds, s => if holds s.before s.after then [s] else []

section Run

variable {α : Type}

theorem findSome?_flatMap {β γ : Type} (l : List β) (f : β → List γ) (k : γ → Option α) :
    (l.flatMap f).findSome? k = l.findSome? fun b => (f b).findSome? k := by
  induction l with
  | nil => rfl
  | cons b l ih =>
    rw [List.flatMap_cons, List.findSome?_append, List.findSome?_cons, ih]
    split <;> simp [*]

theorem findSome?_filter {β : Type} (l : List β) (p : β → Prop) [DecidablePred p]
    (k : β → Option α) :
    (l.filter p).findSome? k = l.findSome? fun b => if p b then k b else none := by
  induction l with
  | nil => rfl
  | cons b l ih =>
    rw [List.filter_cons, List.findSome?_cons]
    by_cases h : p b <;> simp [h, ih, List.findSome?_cons]

theorem repeatStep_eq_findSome? {step : Place → (Place → Option α) → Option α}
    {next : Place → List Place} (h : ∀ s k, step s k = (next s).findSome? k) (left : List Char)
    (s : Place) (k : Place → Option α) :
    repeatStep step left s k = (repeatEnds next left s).findSome? k := by
  induction left generalizing s with
  | nil => simp [repeatStep, repeatEnds]
  | cons _ left ih =>
    rw [repeatStep, repeatEnds, h, List.findSome?_append, findSome?_flatMap, findSome?_filter,
      Option.orElse_eq_orElse, Option.orElse_eq_or]
    simp [ih]

/-- A run of a pattern is a search among the places where its matches end. -/
theorem run_eq_findSome? (p : Pattern) (s : Place) (k : Place → Option α) :
    p.run s k = (p.ends s).findSome? k := by
  induction p generalizing s k with
  | nothing => simp [run, ends]
  | char p =>
    rw [run, ends]
    cases s.after with
    | nil => rfl
    | cons c rest => cases h : p c <;> simp [h]
  | text w => rw [run, ends]; split <;> simp
  | most p => rfl
  | fewest p => rfl
  | seq a b iha ihb => simp only [run, ends, iha, ihb, findSome?_flatMap]
  | either a b iha ihb => simp only [run, ends, iha, ihb, List.findSome?_append,
    Option.orElse_eq_orElse, Option.orElse_eq_or]
  | star a ih => rw [run, ends, repeatStep_eq_findSome? ih]
  | capture n a ih => rw [run, ends, ih, List.findSome?_map]; rfl
  | between holds => rw [run, ends]; split <;> simp

end Run

/-! ## Matches that have been found -/

theorem matchAt?_eq_some {p : Pattern} {s : Place} {m : Match} (h : p.matchAt? s = some m) :
    m.start = s ∧ m.stop ∈ p.ends s := by
  rw [matchAt?, run_eq_findSome?, Option.map_eq_some_iff] at h
  obtain ⟨t, ht, rfl⟩ := h
  obtain ⟨u, hu, e⟩ := List.exists_of_findSome?_eq_some ht
  exact ⟨rfl, Option.some.inj e ▸ hu⟩

/-- A match found in a text starts at a place of the text and ends where a match of the pattern may
end. -/
theorem mem_findFrom {p : Pattern} {before after s : List Char} {offset skip : Nat} {m : Match}
    (h : m ∈ p.findFrom before offset skip after) (hp : (⟨before, after, offset, []⟩ : Place).In s) :
    m.start.In s ∧ m.stop ∈ p.ends m.start := by
  induction after generalizing before offset skip with
  | nil =>
    rw [findFrom] at h
    split at h
    · obtain ⟨hs, ht⟩ := matchAt?_eq_some (Option.mem_toList.1 h)
      rw [hs]; exact ⟨hp, ht⟩
    · cases h
  | cons c rest ih =>
    have next : (⟨c :: before, rest, offset + 1, []⟩ : Place).In s := (Place.over_cons rfl []).in hp
    rw [findFrom] at h
    split at h
    · exact ih h next
    split at h
    · rename_i hm
      rcases List.mem_cons.1 h with rfl | h
      · obtain ⟨hs, ht⟩ := matchAt?_eq_some hm
        rw [hs]; exact ⟨hp, ht⟩
      · exact ih h next
    · exact ih h next

theorem mem_findAll {p : Pattern} {s : List Char} {m : Match} (h : m ∈ p.findAll s) :
    m.start.In s ∧ m.stop ∈ p.ends m.start := mem_findFrom h (Place.in_start s)

theorem le_of_mem_findFrom {p : Pattern} {before after : List Char} {offset skip : Nat} {m : Match}
    (h : m ∈ p.findFrom before offset skip after) : offset + skip ≤ m.start.offset := by
  induction after generalizing before offset skip with
  | nil =>
    rw [findFrom] at h
    split at h
    · rename_i none
      rw [(matchAt?_eq_some (Option.mem_toList.1 h)).1, eq_of_beq none]
      exact Nat.le_refl _
    · cases h
  | cons c rest ih =>
    rw [findFrom] at h
    split at h
    · have := ih h
      omega
    · rename_i none
      obtain rfl : skip = 0 := by simpa using none
      split at h
      · rename_i hm
        rcases List.mem_cons.1 h with rfl | h
        · rw [(matchAt?_eq_some hm).1]
          exact Nat.le_refl _
        · have := ih h
          omega
      · have := ih h
        omega

/-- The matches found in a text stand one after the other. -/
theorem pairwise_findFrom (p : Pattern) (before after : List Char) (offset skip : Nat) :
    (p.findFrom before offset skip after).Pairwise fun m m' => m.stop.offset ≤ m'.start.offset := by
  induction after generalizing before offset skip with
  | nil =>
    rw [findFrom]
    split
    · cases p.matchAt? ⟨before, [], offset, []⟩ <;> simp
    · exact .nil
  | cons c rest ih =>
    rw [findFrom]
    split
    · exact ih ..
    split
    · rename_i m hm
      refine .cons (fun m' hm' => ?_) (ih ..)
      have start : m.start.offset = offset := by rw [(matchAt?_eq_some hm).1]
      have := le_of_mem_findFrom hm'
      rw [Match.length] at this
      omega
    · exact ih ..

theorem pairwise_findAll (p : Pattern) (s : List Char) :
    (p.findAll s).Pairwise fun m m' => m.stop.offset ≤ m'.start.offset := pairwise_findFrom ..

end Pattern

end ModuleAudit
