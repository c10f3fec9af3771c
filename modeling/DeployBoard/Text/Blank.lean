import DeployBoard.Text.CodeRange

/-!
# `Text.Blank` — white space, trimming and words

White space is the Unicode property `White_Space`: twenty-five characters, among them the no-break space and the
ideographic space, but neither the zero-width space nor the byte order mark. Everything that asks whether a term
is blank, trims an input or cuts a line into words uses this one class. Facts about trimming are stated on character
lists (`trimStart`, `trimEnd`).
-/

namespace DeployBoard.Text

/-- The ranges of the property `White_Space`. -/
def whiteSpace : CodeRanges :=
  [(0x9, 0xD), (0x20, 0x20), (0x85, 0x85), (0xA0, 0xA0), (0x1680, 0x1680), (0x2000, 0x200A),
   (0x2028, 0x2029), (0x202F, 0x202F), (0x205F, 0x205F), (0x3000, 0x3000)]

/-- `c` is white space. -/
def isBlank (c : Char) : Bool := whiteSpace.has c

/-! ## Trimming -/

/-- `cs` without its leading white space. -/
def trimStart (cs : List Char) : List Char := cs.dropWhile isBlank

/-- `cs` without its trailing white space. -/
def trimEnd (cs : List Char) : List Char := (cs.reverse.dropWhile isBlank).reverse

/-- `cs` without white space at either end. -/
def trimChars (cs : List Char) : List Char := trimEnd (trimStart cs)

/-- `s` without white space at either end. -/
def trim (s : String) : String := String.ofList (trimChars s.toList)

/-- **Blank** text holds nothing but white space; the empty text is blank. -/
def isBlankText (s : String) : Bool := s.toList.all isBlank

/-! ## Words -/

/-- Cuts `cs` at white space; `word` holds, in reverse, the word being read. -/
def splitWords (word : List Char) : List Char → List (List Char)
  | [] => if word.isEmpty then [] else [word.reverse]
  | c :: cs =>
    if isBlank c then
      if word.isEmpty then splitWords [] cs else word.reverse :: splitWords [] cs
    else splitWords (c :: word) cs

/-- The maximal runs of `s` that hold no white space, from left to right. -/
def words (s : String) : List String := (splitWords [] s.toList).map String.ofList

/-! ## Small facts -/

@[simp] theorem toList_trim (s : String) : (trim s).toList = trimChars s.toList := by
  simp [trim]

theorem trimStart_eq_nil_iff {cs : List Char} : trimStart cs = [] ↔ ∀ c ∈ cs, isBlank c = true := by
  induction cs with
  | nil => simp [trimStart]
  | cons c cs ih =>
    by_cases h : isBlank c = true
    · rw [show trimStart (c :: cs) = trimStart cs from List.dropWhile_cons_of_pos h, ih]
      simp [h]
    · simp [trimStart, h]

end DeployBoard.Text
