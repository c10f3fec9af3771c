import DeployBoard.Text.ClusterTable
import DeployBoard.Text.WidthTable

/-!
# `Text.Cluster` — grapheme clusters

A grapheme cluster is what a reader takes for one character: a letter with its marks, a syllable of jamo, an emoji
sequence, a flag. A cell of the screen holds one cluster. Clusters are found by the extended rules: a text is cut
everywhere except where a rule joins two neighbours, and what the rules need to know of the text before is kept in
`ClusterState`.
-/

namespace DeployBoard.Text

/-- The classes that the joining rules speak of. -/
inductive ClusterClass where
  | carriageReturn | lineFeed | control
  | extend | joiner | spacing | prepend
  | regional
  | leading | vowel | trailing | syllableOpen | syllableClosed
  | other
  deriving DecidableEq

/-- The class of a character. -/
def clusterClass (c : Char) : ClusterClass :=
  let n := c.toNat
  if c = '\r' then .carriageReturn
  else if c = '\n' then .lineFeed
  else if 0x20 ≤ n ∧ n < 0x7F then .other
  else if c = '\u200D' then .joiner
  else if controlBreak.has c then .control
  else if n < 0x300 then .other
  else if graphemeExtend.has c ∨ 0x1F3FB ≤ n ∧ n ≤ 0x1F3FF then .extend
  else if prepended.has c then .prepend
  else if 0x1F1E6 ≤ n ∧ n ≤ 0x1F1FF then .regional
  else if 0xAC00 ≤ n ∧ n ≤ 0xD7A3 then
    if (n - 0xAC00) % 28 = 0 then .syllableOpen else .syllableClosed
  else if 0x1100 ≤ n ∧ n ≤ 0x115F ∨ 0xA960 ≤ n ∧ n ≤ 0xA97C then .leading
  else if vowelJamo.has c then .vowel
  else if 0x11A8 ≤ n ∧ n ≤ 0x11FF ∨ 0xD7CB ≤ n ∧ n ≤ 0xD7FB then .trailing
  else if spacingMark.has c then .spacing
  else .other

/-- How far a conjunct of consonants has been read. -/
inductive Conjunct where
  | none | consonant | linked
  deriving DecidableEq

/-- What the joining rules need to know of the text before a position. -/
structure ClusterState where
  /-- Class of the last character. -/
  last : ClusterClass
  /-- An emoji, with any extending marks after it, ends at the last character (or before the joiner there). -/
  emoji : Bool
  /-- An odd number of regional indicators ends at the last character. -/
  oddRegional : Bool
  conjunct : Conjunct

/-- The state after one more character. -/
def ClusterState.next (st : Option ClusterState) (c : Char) : ClusterState :=
  let cls := clusterClass c
  { last := cls
    emoji :=
      match cls with
      | .extend | .joiner => st.any (·.emoji) && st.all (·.last ≠ .joiner)
      | _ => pictographic.has c
    oddRegional := cls = .regional && !(st.any (·.oddRegional))
    conjunct :=
      if conjunctConsonant.has c then .consonant
      else if conjunctLinker.has c then
        if st.any (·.conjunct ≠ .none) then .linked else .none
      else if (cls = .extend ∨ cls = .joiner) ∧ c ≠ '\u200C' then
        (st.map (·.conjunct)).getD .none
      else .none }

/-- **The joining rules**: no boundary between the text read into `st` and the character `c`. -/
def joins (st : ClusterState) (c : Char) : Bool :=
  let cls := clusterClass c
  match st.last, cls with
  | .carriageReturn, .lineFeed => true
  | .carriageReturn, _ | .lineFeed, _ | .control, _ => false
  | _, .carriageReturn | _, .lineFeed | _, .control => false
  | _, .extend | _, .joiner | _, .spacing => true
  | .prepend, _ => true
  | .leading, .leading | .leading, .vowel | .leading, .syllableOpen | .leading, .syllableClosed => true
  | .syllableOpen, .vowel | .syllableOpen, .trailing | .vowel, .vowel | .vowel, .trailing => true
  | .syllableClosed, .trailing | .trailing, .trailing => true
  | .regional, .regional => st.oddRegional
  | .joiner, _ => (st.emoji && pictographic.has c) || (st.conjunct = .linked && conjunctConsonant.has c)
  | _, _ => st.conjunct = .linked && conjunctConsonant.has c

/-- Cuts `cs` into clusters; `cluster` holds, in reverse, the cluster being read, and `st` what was read. -/
def clustersFrom (cluster : List Char) (st : Option ClusterState) : List Char → List (List Char)
  | [] => if cluster.isEmpty then [] else [cluster.reverse]
  | c :: cs =>
    let st' := ClusterState.next st c
    if cluster.isEmpty || st.any (joins · c) then clustersFrom (c :: cluster) (some st') cs
    else cluster.reverse :: clustersFrom [c] (some st') cs

/-- **The grapheme clusters of a text.** -/
def clusters (cs : List Char) : List (List Char) := clustersFrom [] none cs

end DeployBoard.Text
