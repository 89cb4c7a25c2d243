import Mathlib.Data.List.Basic
import Mathlib.Data.List.TakeWhile
import ModuleAudit.Markup.Element
import ModuleAudit.Text.Blank

/-!
# Trees of elements

Facts about the elements of a document that need no document.

* `Text.trim_append`: blanks at both ends of a text are cut off;
* `Element.ofChildren`: an induction over the children of elements;
* `Element.all_mk`: the elements inside an element;
* `Element.child?_map`, `Element.childrenNamed_map`: a change of elements that keeps their tags does not
  matter to the search for children by their tags;
* `Element.trimmed`: the element without the blanks around its texts.
-/

namespace ModuleAudit

/-! ## Blanks -/

namespace Text

/-- Nothing but blanks. -/
def AllBlank (s : List Char) : Prop := ∀ c ∈ s, isBlank c = true

theorem allBlank_nil : AllBlank [] := fun _ h => absurd h List.not_mem_nil

variable {x s y : List Char}

theorem AllBlank.cons {c : Char} (h : isBlank c = true) (hs : AllBlank s) : AllBlank (c :: s) :=
  List.forall_mem_cons.2 ⟨h, hs⟩

theorem AllBlank.append (hx : AllBlank x) (hy : AllBlank y) : AllBlank (x ++ y) :=
  List.forall_mem_append.2 ⟨hx, hy⟩

theorem trim_blank (h : AllBlank s) : trim s = [] := by
  have cut : trimStart s = [] := by rw [trimStart, List.dropWhile_eq_nil_iff.2 h]
  rw [trim, cut]
  rfl

/-- Blanks at both ends are cut off. -/
theorem trim_append (hx : AllBlank x) (hy : AllBlank y) : trim (x ++ (s ++ y)) = trim s := by
  have start : trimStart (x ++ (s ++ y)) = trimStart (s ++ y) := List.dropWhile_append_of_pos hx
  by_cases blank : AllBlank s
  · rw [trim, start, ← trim, trim_blank blank, trim_blank (blank.append hy)]
  · have some : ¬ (s.dropWhile isBlank).isEmpty = true := by
      rwa [List.isEmpty_iff, List.dropWhile_eq_nil_iff]
    have rest : trimStart (s ++ y) = trimStart s ++ y := by
      rw [trimStart, List.dropWhile_append, if_neg some, trimStart]
    rw [trim, start, rest, trimEnd_append_blank hy, trim]

/-- Only blanks are cut off. -/
theorem exists_trim (s : List Char) : ∃ x y, AllBlank x ∧ AllBlank y ∧ s = x ++ (trim s ++ y) := by
  let t := trimStart s
  refine ⟨s.takeWhile isBlank, (t.reverse.takeWhile isBlank).reverse, fun c hc => List.mem_takeWhile_imp hc,
    fun c hc => List.mem_takeWhile_imp (List.mem_reverse.1 hc), ?_⟩
  have finish : trimEnd t ++ (t.reverse.takeWhile isBlank).reverse = t := by
    rw [trimEnd, ← List.reverse_append, List.takeWhile_append_dropWhile, List.reverse_reverse]
  rw [trim, finish]
  exact List.takeWhile_append_dropWhile.symm

theorem isEmpty_trim_iff : (trim s).isEmpty = true ↔ AllBlank s := by
  rw [List.isEmpty_iff]
  refine ⟨fun empty => ?_, trim_blank⟩
  obtain ⟨x, y, hx, hy, same⟩ := exists_trim s
  rw [same, empty]
  exact hx.append hy

theorem trim_trim (s : List Char) : trim (trim s) = trim s := by
  obtain ⟨x, y, hx, hy, same⟩ := exists_trim s
  conv_rhs => rw [same, trim_append hx hy]

/-- There is nothing to cut off. -/
theorem trim_eq_self (start : ∀ c ∈ s.head?, isBlank c = false)
    (finish : ∀ c ∈ s.getLast?, isBlank c = false) :
    trim s = s := by
  obtain ⟨x, y, hx, hy, same⟩ := exists_trim s
  have noStart : x = [] := by
    cases x with
    | nil => rfl
    | cons c x =>
      have visible := start c (by rw [same]; rfl)
      rw [hx c List.mem_cons_self] at visible
      cases visible
  have noFinish : y = [] := by
    rcases List.eq_nil_or_concat y with rfl | ⟨y, c, rfl⟩
    · rfl
    · have visible := finish c (by rw [same]; simp)
      rw [hy c (by simp)] at visible
      cases visible
  rw [noStart, noFinish, List.nil_append, List.append_nil] at same
  exact same.symm

end Text

namespace Markup.Element

variable {e : Element} {tag text : List Char} {children : List Element}

@[simp] theorem tag_mk : (mk tag text children).tag = tag := rfl
@[simp] theorem text_mk : (mk tag text children).text = text := rfl
@[simp] theorem children_mk : (mk tag text children).children = children := rfl

/-- An element with text. -/
def leaf (tag text : String) : Element := mk tag.toList text.toList []

/-- An element with children. -/
def node (tag : String) (children : List Element) : Element := mk tag.toList [] children

/-- What is true of an element whenever it is true of its children is true of all elements. -/
@[elab_as_elim] theorem ofChildren {P : Element → Prop}
    (step : ∀ tag text children, (∀ c ∈ children, P c) → P (mk tag text children)) (e : Element) : P e := by
  refine @Element.rec P (fun es => ∀ c ∈ es, P c) step ?_ ?_ e
  · exact fun _ none_here => absurd none_here List.not_mem_nil
  · exact fun _ _ first others => List.forall_mem_cons.2 ⟨first, others⟩

theorem allOf_eq (es : List Element) : allOf es = es.flatMap all := by
  induction es with
  | nil => rfl
  | cons e es ih => rw [allOf, ih, List.flatMap_cons]

theorem all_mk : (mk tag text children).all = mk tag text children :: children.flatMap all := by
  rw [all, allOf_eq]

/-! ## Children by their tags -/

variable {change : Element → Element}

theorem child?_map (keeps : ∀ c, (change c).tag = c.tag) (name : String) :
    (mk tag text (children.map change)).child? name = ((mk tag text children).child? name).map change := by
  have same : (fun c : Element => c.tag == name.toList) ∘ change = fun c => c.tag == name.toList :=
    funext fun c => congrArg (· == name.toList) (keeps c)
  rw [child?, child?, children_mk, children_mk, List.find?_map, same]

theorem childrenNamed_map (keeps : ∀ c, (change c).tag = c.tag) (name : String) :
    (mk tag text (children.map change)).childrenNamed name =
      ((mk tag text children).childrenNamed name).map change := by
  have same : (fun c : Element => c.tag == name.toList) ∘ change = fun c => c.tag == name.toList :=
    funext fun c => congrArg (· == name.toList) (keeps c)
  rw [childrenNamed, childrenNamed, children_mk, children_mk, List.filter_map, same]

theorem tag_of_child? {name : String} {c : Element} (h : e.child? name = some c) : c.tag = name.toList := by
  rw [child?] at h
  have found := List.find?_some h
  exact eq_of_beq found

theorem tag_of_mem_childrenNamed {name : String} {c : Element} (h : c ∈ e.childrenNamed name) :
    c.tag = name.toList := eq_of_beq (List.mem_filter.1 h).2

/-! ## Texts without blanks around them -/

mutual

/-- The element with all texts inside cut at both ends. -/
def trimmed (e : Element) : Element :=
  match e with
  | mk tag text children => mk tag (Text.trim text) (trimmedOf children)

/-- Some elements with all texts inside cut at both ends. -/
def trimmedOf : List Element → List Element
  | [] => []
  | e :: es => trimmed e :: trimmedOf es

end

theorem trimmed_mk : (mk tag text children).trimmed = mk tag (Text.trim text) (children.map trimmed) := by
  have each (es : List Element) : trimmedOf es = es.map trimmed := by
    induction es with
    | nil => rfl
    | cons e es ih => rw [trimmedOf, ih, List.map_cons]
  rw [trimmed, each]

@[simp] theorem tag_trimmed (e : Element) : e.trimmed.tag = e.tag := by
  obtain ⟨tag, text, children⟩ := e
  rw [trimmed_mk, tag_mk, tag_mk]

@[simp] theorem text_trimmed (e : Element) : e.trimmed.text = Text.trim e.text := by
  obtain ⟨tag, text, children⟩ := e
  rw [trimmed_mk, text_mk, text_mk]

theorem all_trimmed (e : Element) : e.trimmed.all = e.all.map trimmed := by
  induction e using ofChildren with
  | step tag text children ih =>
    rw [all_mk, trimmed_mk, all_mk, List.map_cons, trimmed_mk, List.flatMap_map, List.map_flatMap]
    exact congrArg _ (List.flatMap_congr ih)

end Markup.Element

end ModuleAudit
