import Mathlib.Data.Rat.Lemmas
import ModuleAudit.Value.Basic

/-!
# Values that stand for the same

`Value.essence?` is what a value that can be a key stands for: a truth value stands for the number it
counts as, a number for the ratio it is, and a point in time for its moment.

* `same_iff_essence`: a value that can be a key stands for the same as another value exactly if the
  two have one essence;
* `same_comm`, `same_of_same`: so which of two values is looked up among the other does not matter,
  and two values that are the same as a third one are the same.
-/

namespace ModuleAudit

/-! ## Numbers -/

namespace Binary64

/-- The ratio that a finite number is. -/
def rational (negative : Bool) (m : Nat) (e : Int) : ℚ :=
  let (n, d) := signedRatio negative m e
  n / d

theorem scaleDown_pos (base num : Nat) {den : Nat} (e : Int) (hb : 0 < base) (hd : 0 < den) :
    0 < (scaleDown base num den e).2 := by
  unfold scaleDown
  split
  · exact Nat.mul_pos hd (Nat.pow_pos hb)
  · exact hd

theorem signedRatio_pos (negative : Bool) (m : Nat) (e : Int) : 0 < (signedRatio negative m e).2 :=
  scaleDown_pos 2 m (-e) Nat.two_pos Nat.one_pos

theorem same_finite_iff {s s' : Bool} {m m' : Nat} {e e' : Int} :
    (finite s m e).same (finite s' m' e') = true ↔ rational s m e = rational s' m' e' := by
  have hd : ((signedRatio s m e).2 : ℚ) ≠ 0 := by exact_mod_cast (signedRatio_pos s m e).ne'
  have hd' : ((signedRatio s' m' e').2 : ℚ) ≠ 0 := by exact_mod_cast (signedRatio_pos s' m' e').ne'
  rw [same, rational, rational, beq_iff_eq, div_eq_div_iff hd hd']
  exact_mod_cast Iff.rfl

theorem compareInt_finite_iff {s : Bool} {m : Nat} {e k : Int} :
    (finite s m e).compareInt k = some .eq ↔ rational s m e = k := by
  have hd : ((signedRatio s m e).2 : ℚ) ≠ 0 := by exact_mod_cast (signedRatio_pos s m e).ne'
  rw [compareInt, rational, Option.some.injEq, compare_eq_iff_eq, div_eq_iff hd]
  exact_mod_cast Iff.rfl

end Binary64

namespace Value

/-! ## Agreement -/

/-- There is something, and it is the same for both. -/
def Agree {α : Type} (a b : Option α) : Prop := a.isSome = true ∧ a = b

@[simp] theorem agree_some {α : Type} {k k' : α} : Agree (some k) (some k') ↔ k = k' := by simp [Agree]

@[simp] theorem agree_none {α : Type} {o : Option α} : ¬ Agree none o := by simp [Agree]

@[simp] theorem not_agree_none {α : Type} {o : Option α} : ¬ Agree o none := by
  rintro ⟨h, rfl⟩
  exact nomatch h

theorem agree_comm {α : Type} {a b : Option α} : Agree a b ↔ Agree b a := by
  constructor
  · rintro ⟨h, rfl⟩
    exact ⟨h, rfl⟩
  · rintro ⟨h, rfl⟩
    exact ⟨h, rfl⟩

@[simp] theorem agree_some_map {α β : Type} {f : α → β} {k : β} {o : Option α} :
    Agree (some k) (o.map f) ↔ ∃ a, o = some a ∧ k = f a := by
  cases o <;> simp

@[simp] theorem agree_map_some {α β : Type} {f : α → β} {k : β} {o : Option α} :
    Agree (o.map f) (some k) ↔ ∃ a, o = some a ∧ f a = k := by
  cases o <;> simp

theorem agree_map {α β : Type} {f : α → β} (inj : Function.Injective f) {a b : Option α} :
    Agree (a.map f) (b.map f) ↔ Agree a b := by
  cases a <;> cases b <;> simp [Agree, inj.eq_iff]

theorem agree_cons {α : Type} {a b : Option α} {as bs : Option (List α)} :
    Agree (do return (← a) :: (← as)) (do return (← b) :: (← bs)) ↔ Agree a b ∧ Agree as bs := by
  cases a <;> cases b <;> cases as <;> cases bs <;> simp [Agree]

/-! ## What values stand for -/

/-- What a value that can be a key stands for. -/
inductive Essence
  | null
  | number (q : ℚ)
  | infinite (negative : Bool)
  | text (s : String)
  | tuple (items : List Essence)
  | bytes (content : List UInt8)
  | date (year month day : Nat)
  /-- A moment, told in a zone or not. -/
  | moment (zoned : Bool) (elapsed : Int)
  | nan (identity : Nat)

mutual

/-- What a value stands for, if it can be a key. -/
def essence? : Value → Option Essence
  | null => some .null
  | bool b => some (.number (boolInt b))
  | int n => some (.number n)
  | real (.finite s m e) => some (.number (Binary64.rational s m e))
  | real (.infinite s) => some (.infinite s)
  | real .nan => none
  | text s => some (.text s)
  | list _ => none
  | map _ => none
  | tuple items => (essences? items).map .tuple
  | set _ => none
  | bytes content => some (.bytes content)
  | date y m d => some (.date y m d)
  | time t => some (.moment t.zone.isSome (t.elapsed - t.zone.getD 0 * 60000000))
  | nan i => some (.nan i)
  | again _ => none

/-- What the values of a list stand for, if all of them can be keys. -/
def essences? : List Value → Option (List Essence)
  | [] => some []
  | v :: vs => do return (← essence? v) :: (← essences? vs)

end

theorem essence?_bool (b : Bool) : essence? (bool b) = some (.number (boolInt b)) := by rw [essence?]

theorem essence?_int (n : Int) : essence? (int n) = some (.number n) := by rw [essence?]

theorem boolInt_inj {a b : Bool} : boolInt a = boolInt b ↔ a = b := by
  cases a <;> cases b <;> decide

theorem realIsInt_iff {x : Binary64} {k : Int} :
    realIsInt x k = true ↔ Agree (essence? (real x)) (some (.number k)) := by
  rw [realIsInt, beq_iff_eq]
  cases x with
  | nan => simp [essence?, Binary64.compareInt]
  | infinite s => cases s <;> simp [essence?, Binary64.compareInt]
  | finite s m e => rw [Binary64.compareInt_finite_iff, essence?, agree_some, Essence.number.injEq]

theorem agree_moment {t u : TimePoint} :
    Agree (essence? (time t)) (essence? (time u)) ↔ t.same u = true := by
  rw [essence?, essence?, agree_some, TimePoint.same]
  cases t.zone <;> cases u.zone <;> simp

mutual

/-- A value that can be a key stands for the same as another one if what they stand for is equal. -/
theorem same_iff_essence (a b : Value) (h : a.isHashable = true) :
    a.same b = true ↔ Agree a.essence? b.essence? := by
  cases a with
  | null => cases b with
    | real x => cases x <;> simp [same, essence?]
    | _ => simp [same, essence?]
  | bool x => cases b with
    | bool y => simp [same, essence?, boolInt_inj]
    | int n => simp [same, essence?]
    | real y => rw [same, realIsInt_iff, agree_comm, essence?_bool]
    | _ => simp [same, essence?]
  | int m => cases b with
    | bool y => simp [same, essence?]
    | int n => simp [same, essence?]
    | real y => rw [same, realIsInt_iff, agree_comm, essence?_int]
    | _ => simp [same, essence?]
  | real x => cases b with
    | bool y => rw [same, realIsInt_iff, essence?_bool]
    | int n => rw [same, realIsInt_iff, essence?_int]
    | real y =>
      rw [same]
      cases x with
      | finite s m e => cases y with
        | finite s' m' e' => simp [essence?, Binary64.same_finite_iff]
        | _ => simp [essence?, Binary64.same]
      | _ => cases y <;> simp [essence?, Binary64.same]
    | _ => cases x <;> simp [same, essence?]
  | text s => cases b with
    | real x => cases x <;> simp [same, essence?]
    | _ => simp [same, essence?]
  | tuple items => cases b with
    | tuple items' =>
      rw [isHashable] at h
      rw [same, sameItems_iff_essences items items' h, essence?, essence?,
        agree_map fun _ _ => Essence.tuple.inj]
    | real x => cases x <;> simp [same, essence?]
    | _ => simp [same, essence?]
  | bytes content => cases b with
    | real x => cases x <;> simp [same, essence?]
    | _ => simp [same, essence?]
  | date y m d => cases b with
    | real x => cases x <;> simp [same, essence?]
    | date y' m' d' => simp [same, essence?, and_assoc]
    | _ => simp [same, essence?]
  | time t => cases b with
    | time u => rw [agree_moment, same]
    | real x => cases x <;> simp [same, essence?]
    | _ => simp [same, essence?]
  | nan i => cases b with
    | real x => cases x <;> simp [same, essence?]
    | _ => simp [same, essence?]
  | list _ | map _ | set _ | again _ => simp [isHashable] at h

/-- The same for the items of tuples. -/
theorem sameItems_iff_essences (as bs : List Value) (h : allHashable as = true) :
    sameItems as bs = true ↔ Agree (essences? as) (essences? bs) := by
  cases as with
  | nil => cases bs with
    | nil => simp [sameItems, essences?]
    | cons b bs =>
      simp only [sameItems, essences?]
      cases essence? b <;> cases essences? bs <;> simp [Agree]
  | cons a as => cases bs with
    | nil =>
      simp only [sameItems, essences?]
      cases essence? a <;> cases essences? as <;> simp [Agree]
    | cons b bs =>
      rw [allHashable, Bool.and_eq_true] at h
      rw [sameItems, Bool.and_eq_true, same_iff_essence a b h.1, sameItems_iff_essences as bs h.2,
        essences?, essences?, agree_cons]

end

/-- Which of two keys is compared with the other does not matter. -/
theorem same_comm {a b : Value} (ha : a.isHashable = true) (hb : b.isHashable = true) :
    a.same b = b.same a := by
  rw [Bool.eq_iff_iff, same_iff_essence a b ha, same_iff_essence b a hb, agree_comm]

/-- Two values that a key is the same as are the same. -/
theorem same_of_same {v a b : Value} (hv : v.isHashable = true) (ha : a.isHashable = true)
    (hva : v.same a = true) (hvb : v.same b = true) : a.same b = true := by
  obtain ⟨known, e⟩ := (same_iff_essence v a hv).1 hva
  obtain ⟨-, e'⟩ := (same_iff_essence v b hv).1 hvb
  exact (same_iff_essence a b ha).2 ⟨e ▸ known, e.symm.trans e'⟩

end Value

end ModuleAudit
