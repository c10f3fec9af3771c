/-!
# `Text.Occurrence` — one text inside another

`occursIn needle text` asks whether `needle` is a contiguous part of `text`; the empty text is a part of every
text. The main statement is `occursIn_iff`, which ties the search to the relation `<:+:` on lists.
-/

namespace DeployBoard.Text

/-- `needle` is a contiguous part of `text`. -/
def occursInChars (needle : List Char) : List Char → Bool
  | [] => needle.isEmpty
  | c :: text => needle.isPrefixOf (c :: text) || occursInChars needle text

/-- `needle` is a contiguous part of `text`. -/
def occursIn (needle text : String) : Bool := occursInChars needle.toList text.toList

/-- **The search decides the relation "is a contiguous part of".** -/
theorem occursInChars_iff {needle text : List Char} : occursInChars needle text = true ↔ needle <:+: text := by
  induction text with
  | nil => simp [occursInChars, List.isEmpty_iff]
  | cons c text ih => simp [occursInChars, ih, List.infix_cons_iff]

theorem occursIn_iff {needle text : String} : occursIn needle text = true ↔ needle.toList <:+: text.toList :=
  occursInChars_iff

/-- ASCII letters compare without regard to case; all other characters compare as they are. -/
def equalIgnoringAsciiCase (a b : String) : Bool :=
  a.toList.map Char.toLower == b.toList.map Char.toLower

end DeployBoard.Text
