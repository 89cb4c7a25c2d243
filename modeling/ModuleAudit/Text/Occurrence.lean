/-!
# Occurrences of a word

`occursIn` tells whether a word stands somewhere in a text.

* `occursIn_iff`: it does exactly when the text splits around it.
-/

namespace ModuleAudit.Text

/-- Whether a text holds the characters of a word in a row. -/
def occursIn (w : List Char) (s : List Char) : Bool :=
  w.isPrefixOf s ||
    match s with
    | [] => false
    | _ :: rest => occursIn w rest

theorem occursIn_iff {w s : List Char} : occursIn w s = true ↔ w <:+: s := by
  induction s with
  | nil =>
    rw [occursIn, Bool.or_false, List.isPrefixOf_iff_prefix, List.infix_nil, List.prefix_nil]
  | cons c rest ih =>
    rw [occursIn, Bool.or_eq_true, List.isPrefixOf_iff_prefix, ih, List.infix_cons_iff]

end ModuleAudit.Text
