import ModuleAudit.Proofs.Checks.Steady
import ModuleAudit.Proofs.Connector.Pom
import ModuleAudit.Proofs.Pattern.Fit
import ModuleAudit.Text.Printable

/-!
# Registration of modules

A pom that lists modules (`Listing`) tells by its tree which ones. Without the tag that closes it there is no
tree, and its text is searched. Both tell the same.

* `Listing.modules_whole`: the tree lists the entries;
* `found_moduleEntry_iff`: what the search finds;
* `IsPiece`: what stands between two angle brackets. In a listing these are the tags, and the entries behind
  theirs (`Listing.piece_cut`);
* `registration_agrees`: so the search finds a module exactly if it is listed.
-/

namespace ModuleAudit

open Markup
open Markup.Element (leaf)
open Text (AllBlank)
open List (forall_mem_singleton)

/-! ## Entries -/

/-- A path that may be entered as it is: it is printable, and has no blank at either end. -/
structure IsEntry (s : String) : Prop where
  printable : ∀ c ∈ s.toList, Text.isPrintable c = true
  special : ∀ c ∈ s.toList, c ∉ ['<', '>', '&']
  start : ∀ c ∈ s.toList.head?, Text.isBlank c = false
  finish : ∀ c ∈ s.toList.getLast?, Text.isBlank c = false

theorem isEntry_iff {s : String} : IsEntry s ↔
    (s.toList.all fun c => Text.isPrintable c && c != '<' && c != '>' && c != '&') = true ∧
      (s.toList.head?.all fun c => !Text.isBlank c) = true ∧
        (s.toList.getLast?.all fun c => !Text.isBlank c) = true := by
  simp only [List.all_eq_true, Option.all_eq_true, Bool.and_eq_true, bne_iff_ne, Bool.not_eq_true']
  constructor
  · rintro ⟨printable, special, start, finish⟩
    refine ⟨fun c hc => ?_, start, finish⟩
    have special := special c hc
    simp only [List.mem_cons, List.not_mem_nil, or_false, not_or] at special
    exact ⟨⟨⟨printable c hc, special.1⟩, special.2.1⟩, special.2.2⟩
  · rintro ⟨each, start, finish⟩
    refine ⟨fun c hc => (each c hc).1.1.1, fun c hc => ?_, start, finish⟩
    have each := each c hc
    simp [each]

instance (s : String) : Decidable (IsEntry s) := decidable_of_iff _ isEntry_iff.symm

theorem isPrintable_noncharacter :
    Text.isPrintable '\ufffe' = false ∧ Text.isPrintable '\uffff' = false := by
  decide +kernel

theorem isPlain_of_isPrintable {c : Char} (h : Text.isPrintable c = true) (special : c ∉ ['<', '>', '&']) :
    IsPlain c := by
  have visible : 0x20 ≤ c.toNat := by
    rw [Text.isPrintable] at h
    split at h
    · simp only [Bool.and_eq_true, decide_eq_true_eq] at h
      exact UInt32.le_iff_toNat_le.1 h.1
    next high =>
      have : 0x80 ≤ c.toNat := UInt32.le_iff_toNat_le.1 (UInt32.not_lt.1 high)
      omega
  have first : c ≠ '\ufffe' := by
    rintro rfl
    exact absurd h (Bool.eq_false_iff.1 isPrintable_noncharacter.1)
  have second : c ≠ '\uffff' := by
    rintro rfl
    exact absurd h (Bool.eq_false_iff.1 isPrintable_noncharacter.2)
  have newline : c ≠ '\n' := by rintro rfl; exact absurd visible (by decide)
  have ret : c ≠ '\r' := by rintro rfl; exact absurd visible (by decide)
  refine ⟨by simp [isChar, visible, first, second], ?_⟩
  simpa [newline, ret] using special

theorem Module.relativeDir_ne (m : Module) : m.relativeDir ≠ "" := by
  intro empty
  have length := congrArg (fun s => s.toList.length) empty
  have dir : m.relativeDir.toList = "connectors/supaflow-connector-".toList ++ m.name.toList :=
    String.toList_append
  have some : "connectors/supaflow-connector-".toList.length = 30 := by decide
  simp only [dir, List.length_append, some, String.toList_empty, List.length_nil] at length
  omega

namespace IsEntry

variable {s : String}

theorem spells (h : IsEntry s) : Spells IsPlain s.toList s.toList :=
  spells_plain fun c hc => isPlain_of_isPrintable (h.printable c hc) (h.special c hc)

theorem not_mem (h : IsEntry s) : '<' ∉ s.toList := fun mem => h.special _ mem (by decide)

theorem trim (h : IsEntry s) : Text.trim s.toList = s.toList := Text.trim_eq_self h.start h.finish

/-- A module is entered with its directory. -/
theorem relativeDir {m : Module} (h : IsEntry m.name) : IsEntry m.relativeDir := by
  have dir : m.relativeDir.toList = "connectors/supaflow-connector-".toList ++ m.name.toList :=
    String.toList_append
  have entry : IsEntry "connectors/supaflow-connector-" := by decide
  have first : "connectors/supaflow-connector-".toList.head? = some 'c' := by decide
  have last : "connectors/supaflow-connector-".toList.getLast? = some '-' := by decide
  refine ⟨?_, ?_, ?_, ?_⟩ <;> rw [dir]
  · exact List.forall_mem_append.2 ⟨entry.printable, h.printable⟩
  · exact List.forall_mem_append.2 ⟨entry.special, h.special⟩
  · rw [List.head?_append, first, Option.some_or, ← first]
    exact entry.start
  · rw [List.getLast?_append, last]
    cases hd : m.name.toList.getLast? with
    | none =>
      rw [Option.none_or, ← last]
      exact entry.finish
    | some d => exact fun c hc => h.finish c (hd ▸ hc)

end IsEntry

/-! ## Listings -/

/-- White space of markup. -/
def AllSpaced (s : List Char) : Prop := ∀ c ∈ s, isSpace c = true

instance (s : List Char) : Decidable (AllSpaced s) := decidable_of_iff (s.all isSpace = true) List.all_eq_true

/-- An entry of a module, with the white space before it and around its path. -/
structure ModuleEntry where
  gap : List Char
  before : List Char
  path : String
  after : List Char

/-- What stands between the tags of an entry. -/
def ModuleEntry.inside (e : ModuleEntry) : List Char := e.before ++ (e.path.toList ++ e.after)

/-- How an entry is written. -/
def ModuleEntry.written (e : ModuleEntry) : List Char :=
  e.gap ++ ("<module>".toList ++ (e.inside ++ "</module>".toList))

structure ModuleEntry.IsProper (e : ModuleEntry) : Prop where
  gap : AllSpaced e.gap
  before : AllSpaced e.before
  path : IsEntry e.path
  after : AllSpaced e.after

/-- A pom that lists modules and says nothing else. Its tags have no prefix. White space may stand before the
outermost tag, before the tags of the list, before the tag that closes the pom, and behind it. -/
structure Listing where
  /-- There is a declaration of the document. -/
  declared : Bool := false
  lead : List Char := []
  naming : Naming := .bare
  /-- What declares the namespace. -/
  attr : List Char := []
  start : List Char := []
  entries : List ModuleEntry
  finish : List Char := []
  close : List Char := []
  back : List Char := []

namespace Listing

/-- The paths of the modules that are listed. -/
def paths (l : Listing) : List String := l.entries.map (·.path)

/-- The list in the pom. -/
def list (l : Listing) : List Char :=
  l.start ++
    ("<modules>".toList ++ (l.entries.flatMap ModuleEntry.written ++ (l.finish ++ "</modules>".toList)))

/-- What stands before the outermost tag. -/
def front (l : Listing) : List Char := (if l.declared then xmlDeclaration else []) ++ l.lead

/-- The pom up to the tag that closes it, and what stands there. -/
def opened (l : Listing) (rest : List Char) : List Char :=
  l.front ++ ("<project".toList ++ (l.attr ++ '>' :: (l.list ++ (l.close ++ rest))))

/-- The text of the pom. -/
def whole (l : Listing) : List Char := l.opened ("</project>".toList ++ l.back)

/-- The text without the tag that closes it. -/
def cut (l : Listing) : List Char := l.opened l.back

structure IsProper (l : Listing) : Prop where
  lead : AllSpaced l.lead
  unprefixed : l.naming.qualifier? = none
  naming : l.naming.IsProper
  attr : l.naming.Declares l.attr
  start : AllSpaced l.start
  entries : ∀ e ∈ l.entries, e.IsProper
  finish : AllSpaced l.finish
  close : AllSpaced l.close
  back : AllSpaced l.back

end Listing

/-! ### The tree -/

theorem AllSpaced.isWhite {s : List Char} (h : AllSpaced s) : ∀ c ∈ s, IsWhite c := by
  intro c hc
  rcases eq_of_isSpace (h c hc) with rfl | rfl | rfl | rfl <;> decide

theorem AllSpaced.gap {s : List Char} (h : AllSpaced s) : IsGap IsWhite s := .ofBlanks h.isWhite

theorem AllSpaced.allBlank {s : List Char} (h : AllSpaced s) : AllBlank s := fun c hc => (h.isWhite c hc).1

theorem AllSpaced.not_mem {s : List Char} (h : AllSpaced s) : '<' ∉ s :=
  fun mem => absurd (h _ mem) (by decide)

/-- The element of an entry. -/
def ModuleEntry.child (e : ModuleEntry) : Child := ⟨e.gap, "module".toList, e.inside, e.path.toList, []⟩

theorem ModuleEntry.written_child (e : ModuleEntry) : e.child.written none = e.written := by
  simp [Child.written, ModuleEntry.child, ModuleEntry.written, openingTag, closingTag,
    QualifiedName.written]

theorem isName_tags : IsName "module".toList ∧ IsName "modules".toList ∧ IsName "project".toList :=
  ⟨.mk rfl (List.all_eq_true.1 rfl), .mk rfl (List.all_eq_true.1 rfl), .mk rfl (List.all_eq_true.1 rfl)⟩

namespace Listing

variable {l : Listing}

/-- The element of the list. -/
def child (l : Listing) : Child :=
  ⟨l.start, "modules".toList, l.entries.flatMap ModuleEntry.written ++ l.finish, [],
    l.paths.map (leaf "module")⟩

theorem list_eq (l : Listing) : l.list = l.child.written none := by
  simp [Child.written, child, list, openingTag, closingTag, QualifiedName.written]

theorem holds_child (h : l.IsProper) : Holds none l.child.inside l.child.text l.child.children := by
  have entries (c : Child) (hc : c ∈ l.entries.map ModuleEntry.child) :
      ∃ e : ModuleEntry, e.IsProper ∧ e.child = c := by
    obtain ⟨e, he, rfl⟩ := List.mem_map.1 hc
    exact ⟨e, h.entries e he, rfl⟩
  have holds := @Holds.children none (l.entries.map ModuleEntry.child) l.finish
    (fun c hc => by obtain ⟨e, he, rfl⟩ := entries c hc; exact isName_tags.1)
    (fun c hc => by obtain ⟨e, he, rfl⟩ := entries c hc; exact he.gap.gap) (fun c hc => by
      obtain ⟨e, he, rfl⟩ := entries c hc
      exact .text he.before.gap he.path.spells he.after.gap)
    h.finish.gap
  have written : (l.entries.map ModuleEntry.child).flatMap (Child.written none) =
      l.entries.flatMap ModuleEntry.written := by
    rw [List.flatMap_map]
    exact List.flatMap_congr fun e _ => e.written_child
  have elements : (l.entries.map ModuleEntry.child).map Child.element = l.paths.map (leaf "module") := by
    rw [paths, List.map_map, List.map_map]
    rfl
  rwa [written, elements] at holds

theorem isFront (h : l.IsProper) : IsFront l.front := by
  have gap : IsGap IsSpaced l.lead := .ofBlanks h.lead
  rw [front]
  cases l.declared with
  | false => exact .gap gap
  | true => exact .declared gap

/-- The whole text is a document of the list. -/
theorem isDocument_whole (h : l.IsProper) :
    IsDocument l.naming l.whole (({ modules := l.paths } : Pom.Content).element [.modules]) := by
  have holds : Holds l.naming.qualifier? (l.list ++ l.close) [] [l.child.element] := by
    have holds := @Holds.children none [l.child] l.close (forall_mem_singleton.2 isName_tags.2.1)
      (forall_mem_singleton.2 h.start.gap) (forall_mem_singleton.2 (holds_child h)) h.close.gap
    rw [List.flatMap_singleton, ← list_eq] at holds
    rwa [h.unprefixed]
  have document := @IsDocument.mk l.naming _ _ _ _ _ "project".toList _ isName_tags.2.2 (isFront h) h.attr
    holds (.ofBlanks h.back)
  have text : l.whole = l.front ++ '<' ::
      ((QualifiedName.mk l.naming.qualifier? "project".toList).written ++ (l.attr ++ '>' ::
        (l.list ++ l.close ++ (closingTag l.naming.qualifier? "project".toList ++ l.back)))) := by
    simp [whole, opened, closingTag, h.unprefixed, QualifiedName.written]
  rw [text]
  exact document

/-- The tree of the whole text lists the paths of the entries. -/
theorem modules_whole (h : l.IsProper) : ∃ pom, Pom.parse l.whole = .ok pom ∧
    ∀ s : String, s ≠ "" → (s ∈ pom.modules ↔ s ∈ l.paths) := by
  have covered : ({ modules := l.paths } : Pom.Content).Covered [.modules] := by
    refine ⟨by decide, ?_⟩
    rintro (_ | _ | _ | _) needed
    · exact List.mem_cons_self
    all_goals exact absurd rfl needed
  have text {m : String} (hm : m ∈ l.paths) : Pom.textOf (some (leaf "module" m)) = m := by
    obtain ⟨e, he, rfl⟩ := List.mem_map.1 hm
    exact Pom.textOf_leaf (h.entries e he).path.start (h.entries e he).path.finish
  refine ⟨_, Pom.parse_document h.naming (isDocument_whole h), fun s nonempty => ?_⟩
  rw [Pom.modules_element covered, List.mem_filterMap]
  constructor
  · rintro ⟨m, hm, found⟩
    rw [text hm, Pom.nonEmpty, Option.ite_none_left_eq_some] at found
    exact Option.some.inj found.2 ▸ hm
  · intro hs
    refine ⟨s, hs, ?_⟩
    rw [text hs, Pom.nonEmpty, if_neg (by simpa [String.isEmpty_iff] using nonempty)]

/-- Without the tag that closes it the pom has no tree. -/
theorem cut_unread (h : l.IsProper) : ∃ e, Pom.parse l.cut = .error e := by
  obtain ⟨es, fills, reaches⟩ := (holds_child h).reaches
  obtain ⟨es, -, passes⟩ := Child.passes isName_tags.2.1 h.start.gap fills reaches
  rw [← list_eq, ← h.unprefixed] at passes
  have spaced : ∀ c ∈ l.close ++ l.back, isSpace c = true := List.forall_mem_append.2 ⟨h.close, h.back⟩
  obtain ⟨e, unread⟩ := unclosed_unread h.naming isName_tags.2.2 (isFront h) h.attr passes spaced
  refine ⟨e, ?_⟩
  have text : l.cut = l.front ++ '<' ::
      ((QualifiedName.mk l.naming.qualifier? "project".toList).written ++
        (l.attr ++ '>' :: (l.list ++ (l.close ++ l.back)))) := by
    simp [cut, opened, h.unprefixed, QualifiedName.written]
  rw [Pom.parse, text, unread]
  rfl

end Listing

/-! ### The search -/

/-- A piece of a text, from one angle bracket to the next. -/
structure IsPiece (u t : List Char) : Prop where
  inner : '<' ∉ u
  stands : ∃ x y, t = x ++ '<' :: (u ++ '<' :: y)

namespace IsPiece

variable {u p s t : List Char}

theorem mem (h : IsPiece u t) : '<' ∈ t := by
  obtain ⟨x, y, rfl⟩ := h.stands
  simp

/-- No piece starts where there is no angle bracket. -/
theorem of_append (h : IsPiece u (s ++ t)) (hs : '<' ∉ s) : IsPiece u t := by
  obtain ⟨x, y, same⟩ := h.stands
  rcases List.append_eq_append_iff.1 same with ⟨z, rfl, rfl⟩ | ⟨z, rfl, rest⟩
  · exact ⟨h.inner, z, y, rfl⟩
  · cases z with
    | nil => exact ⟨h.inner, [], y, rest.symm⟩
    | cons c z =>
      obtain ⟨rfl, -⟩ := List.cons.inj rest
      exact absurd (by simp) hs

/-- The first piece is what is up to the next angle bracket. -/
theorem first_or (h : IsPiece u ('<' :: t)) : (∃ y, t = u ++ '<' :: y) ∨ IsPiece u t := by
  obtain ⟨_ | ⟨c, x⟩, y, same⟩ := h.stands
  · exact .inl ⟨y, (List.cons.inj same).2⟩
  · exact .inr ⟨h.inner, x, y, (List.cons.inj same).2⟩

/-- A piece that starts in another way is further on. -/
theorem skip (h : IsPiece u ('<' :: (p ++ t))) (hp : '<' ∉ p) (other : ¬ p <+: u) : IsPiece u t := by
  rcases h.first_or with ⟨y, same⟩ | h
  -- The piece is first, and `p` has no bracket inside: so the piece would start with `p`.
  · rcases List.append_eq_append_iff.1 same with ⟨z, rfl, -⟩ | ⟨z, rfl, rest⟩
    · exact absurd (List.prefix_append p z) other
    · cases z with
      | nil => exact absurd (by simp) other
      | cons c z =>
        obtain ⟨rfl, -⟩ := List.cons.inj rest
        exact absurd (by simp) hp
  · exact h.of_append hp

/-- A piece is the first one, or further on. -/
theorem eq_or (h : IsPiece u ('<' :: (p ++ '<' :: t))) (hp : '<' ∉ p) : u = p ∨ IsPiece u ('<' :: t) := by
  rcases h.first_or with ⟨y, same⟩ | h'
  · have run {s : List Char} (hs : '<' ∉ s) (t : List Char) :
      (s ++ '<' :: t).span (· != '<') = (s, '<' :: t) :=
      span_append (fun c hc => bne_iff_ne.2 fun e => hs (e ▸ hc)) rfl
    have same := congrArg (List.span (· != '<')) same
    rw [run hp, run h.inner] at same
    exact .inl (Prod.mk.inj same).1.symm
  · exact .inr (h'.of_append hp)

end IsPiece

/-- What is searched for where there is no tree: an entry, with blanks around its path. -/
theorem found_moduleEntry_iff {path : String} {text : List Char} :
    (Packaging.moduleEntry path).found text = true ↔ ∃ before after, AllBlank before ∧ AllBlank after ∧
      "<module>".toList ++ (before ++ (path.toList ++ after) ++ "</module>".toList) <:+: text := by
  rw [Pattern.found_iff]
  simp only [Packaging.moduleEntry, Pattern.fits_sequence_cons, Pattern.fits_sequence_nil,
    Pattern.fits_word, Pattern.fits_gap]
  constructor
  · rintro ⟨x, _, y, rfl, _, _, rfl, rfl, before, _, rfl, hb, _, _, rfl, rfl, after, _, rfl, ha, _, _,
      rfl, rfl, rfl⟩
    exact ⟨before, after, hb, ha, x, y, by simp⟩
  · rintro ⟨before, after, hb, ha, x, y, rfl⟩
    rw [List.append_assoc before, List.append_assoc path.toList]
    exact ⟨x, _, y, rfl, _, _, rfl, rfl, before, _, rfl, hb, _, _, rfl, rfl, after, _, rfl, ha, _, [],
      (List.append_nil _).symm, rfl, rfl⟩

/-- What starts like an entry is one of the entries, or behind them. -/
theorem piece_entries {entries : List ModuleEntry} (proper : ∀ e ∈ entries, e.IsProper) {v rest : List Char}
    (h : IsPiece ("module>".toList ++ v) (entries.flatMap ModuleEntry.written ++ rest)) :
    (∃ e ∈ entries, v = e.inside) ∨ IsPiece ("module>".toList ++ v) rest := by
  induction entries with
  | nil => exact .inr h
  | cons e entries ih =>
    rw [List.forall_mem_cons] at proper
    have inner : '<' ∉ "module>".toList ++ e.inside := by
      simp [ModuleEntry.inside, proper.1.before.not_mem, proper.1.path.not_mem, proper.1.after.not_mem]
    have h : IsPiece ("module>".toList ++ v) ('<' :: ("module>".toList ++ e.inside ++ '<' ::
        ("/module>".toList ++ (entries.flatMap ModuleEntry.written ++ rest)))) := by
      refine IsPiece.of_append ?_ proper.1.gap.not_mem
      simpa [ModuleEntry.written] using h
    rcases h.eq_or inner with same | h
    · exact .inl ⟨e, List.mem_cons_self, List.append_cancel_left same⟩
    · have h := h.skip (by decide) (by simp)
      rcases ih proper.2 h with ⟨e, he, same⟩ | h
      · exact .inl ⟨e, List.mem_cons_of_mem _ he, same⟩
      · exact .inr h

namespace Listing

variable {l : Listing} {v : List Char}

/-- No entry starts before the outermost tag. -/
theorem piece_front (h : l.IsProper) {rest : List Char}
    (piece : IsPiece ("module>".toList ++ v) (l.front ++ rest)) : IsPiece ("module>".toList ++ v) rest := by
  rw [front, List.append_assoc] at piece
  refine IsPiece.of_append ?_ h.lead.not_mem
  cases declared : l.declared with
  | false => rwa [declared, if_neg Bool.false_ne_true, List.nil_append] at piece
  | true =>
    let more : List Char := "?xml version=\"1.0\" encoding=\"UTF-8\"?>".toList
    have declaration : xmlDeclaration = '<' :: more := by decide
    rw [declared, if_pos rfl, declaration] at piece
    exact piece.skip (by decide) (by simp [more])

/-- What starts like an entry in the text without the tag that closes it is an entry. -/
theorem piece_cut (h : l.IsProper) (piece : IsPiece ("module>".toList ++ v) l.cut) :
    ∃ e ∈ l.entries, v = e.inside := by
  have inTag : '<' ∉ "project".toList ++ (l.attr ++ '>' :: l.start) := by
    simp [h.attr.not_mem h.naming, h.start.not_mem]
  have behind : '<' ∉ l.close ++ l.back := by simp [h.close.not_mem, h.back.not_mem]
  have inProject : IsPiece ("module>".toList ++ v)
      ('<' :: ("project".toList ++ (l.attr ++ '>' :: l.start) ++ '<' :: ("modules>".toList ++
        (l.entries.flatMap ModuleEntry.written ++ (l.finish ++ '<' :: ("/modules>".toList ++
          (l.close ++ l.back))))))) := by
    rw [cut, opened] at piece
    simpa [list] using piece_front h piece
  have inModules := (inProject.skip inTag (by simp)).skip (by decide) (by simp)
  refine (piece_entries h.entries inModules).resolve_right fun piece => ?_
  have piece := (piece.of_append h.finish.not_mem).skip (by decide) (by simp)
  exact behind piece.mem

/-- An entry is found by its path. -/
theorem found_cut (h : l.IsProper) {path : String} (entry : IsEntry path) :
    (Packaging.moduleEntry path).found l.cut = true ↔ path ∈ l.paths := by
  rw [found_moduleEntry_iff]
  constructor
  · rintro ⟨before, after, hb, ha, x, y, text⟩
    have inBlanks {s : List Char} (hs : AllBlank s) : '<' ∉ s :=
      fun mem => absurd (hs _ mem) (by decide)
    have piece : IsPiece ("module>".toList ++ (before ++ (path.toList ++ after))) l.cut :=
      ⟨by simp [inBlanks hb, inBlanks ha, entry.not_mem], x, "/module>".toList ++ y, by rw [← text]; simp⟩
    obtain ⟨e, he, same⟩ := piece_cut h piece
    have proper := h.entries e he
    have trimmed := congrArg Text.trim same
    rw [ModuleEntry.inside, Text.trim_append hb ha,
      Text.trim_append proper.before.allBlank proper.after.allBlank, entry.trim, proper.path.trim] at trimmed
    exact List.mem_map.2 ⟨e, he, (String.toList_inj.1 trimmed).symm⟩
  · intro listed
    obtain ⟨e, he, rfl⟩ := List.mem_map.1 listed
    have proper := h.entries e he
    refine ⟨e.before, e.after, proper.before.allBlank, proper.after.allBlank, ?_⟩
    have inEntry : "<module>".toList ++ (e.inside ++ "</module>".toList) <:+: e.written :=
      (List.suffix_append e.gap _).isInfix
    have inEntries : e.written <:+: l.entries.flatMap ModuleEntry.written :=
      List.infix_of_mem_flatten (List.mem_map_of_mem he)
    have inCut : l.entries.flatMap ModuleEntry.written <:+: l.cut :=
      ⟨l.front ++ ("<project".toList ++ (l.attr ++ '>' :: (l.start ++ "<modules>".toList))),
        l.finish ++ ("</modules>".toList ++ (l.close ++ l.back)), by simp [cut, opened, list]⟩
    exact (inEntry.trans inEntries).trans inCut

end Listing

/-! ## Registration -/

/-- The files with another parent pom. -/
def FileSet.withParent (f : FileSet) (m : TextFile) : FileSet := { f with parentManifest := some m }

namespace Packaging

/-- A module is registered exactly if its directory is an entry of the parent pom, whether this is told by the
tree of the pom or, where the tag is missing that closes it, by a search in its text. -/
theorem registration_agrees {l : Listing} (h : l.IsProper) {f : FileSet} (name : IsEntry f.module.name)
    (path : Path) (s : Surroundings) (j : Journal) :
    let registered : Bool := f.module.relativeDir ∈ l.paths
    (∃ pom, Pom.parse l.whole = .ok pom) ∧ (∃ e, Pom.parse l.cut = .error e) ∧
      ((readRegistration (f.withParent ⟨path, l.whole⟩)).start s j).1 = .ok (some registered) ∧
      ((readRegistration (f.withParent ⟨path, l.cut⟩)).start s j).1 = .ok (some registered) := by
  intro registered
  have entry := name.relativeDir (m := f.module)
  obtain ⟨pom, parsed, modules⟩ := l.modules_whole h
  obtain ⟨e, unread⟩ := l.cut_unread h
  have answered (text : List Char) (p : Option Pom) (parsed : (Pom.parse text).toOption = p) :
      ((readRegistration (f.withParent ⟨path, text⟩)).start s j).1 =
        .ok (some (lists f.module.relativeDir text p)) := by
    rw [(readRegistration_asks _).isSteady s j, readRegistration_answer, ← parsed]
    rfl
  refine ⟨⟨pom, parsed⟩, ⟨e, unread⟩, ?_, ?_⟩
  · have listed : pom.modules.contains f.module.relativeDir = registered := by
      rw [Bool.eq_iff_iff, List.contains_iff_mem, modules _ (Module.relativeDir_ne f.module),
        decide_eq_true_iff]
    rw [answered l.whole (some pom) (by rw [parsed]; rfl), lists, listed]
  · have found : (moduleEntry f.module.relativeDir).found l.cut = registered := by
      rw [Bool.eq_iff_iff, l.found_cut h entry, decide_eq_true_iff]
    rw [answered l.cut none (by rw [unread]; rfl), lists, found]

/-- A module is registered, and one is not whose name matches the entry only as a pattern. -/
theorem registration_agrees_dotted :
    let entry : ModuleEntry := ⟨"\n".toList, " ".toList, "connectors/supaflow-connector-abc", "\t".toList⟩
    let l : Listing := { entries := [entry] }
    let files (name : String) (text : List Char) : FileSet :=
      FileSet.withParent { module := ⟨⟨0, []⟩, name⟩, primary := .ofText ⟨0, ["A.java"]⟩ [] }
        ⟨⟨0, ["pom.xml"]⟩, text⟩
    let s : Surroundings := ⟨⟨.empty, ⟨0, []⟩⟩, fun _ => .notFound⟩
    l.cut = "<project><modules>\n<module> connectors/supaflow-connector-abc\t</module></modules>".toList ∧
      ((readRegistration (files "abc" l.whole)).start s {}).1 = .ok (some true) ∧
      ((readRegistration (files "abc" l.cut)).start s {}).1 = .ok (some true) ∧
      ((readRegistration (files "a.c" l.whole)).start s {}).1 = .ok (some false) ∧
      ((readRegistration (files "a.c" l.cut)).start s {}).1 = .ok (some false) := by
  intro entry l files s
  have path : IsEntry "connectors/supaflow-connector-abc" := by decide
  have proper : l.IsProper :=
    { lead := by decide, unprefixed := rfl, naming := trivial, attr := .nothing rfl, start := by decide,
      entries := forall_mem_singleton.2 ⟨by decide, by decide, path, by decide⟩,
      finish := by decide, close := by decide, back := by decide }
  have plain : IsEntry (files "abc" []).module.name := by decide
  have dotted : IsEntry (files "a.c" []).module.name := by decide
  obtain ⟨-, -, whole, cut⟩ := registration_agrees proper plain ⟨0, ["pom.xml"]⟩ s {}
  obtain ⟨-, -, whole', cut'⟩ := registration_agrees proper dotted ⟨0, ["pom.xml"]⟩ s {}
  exact ⟨by decide, whole, cut, whole', cut'⟩

end Packaging

end ModuleAudit
