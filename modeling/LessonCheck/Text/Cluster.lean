import LessonCheck.Text.BreakClass

/-!
# Clusters

The extended grapheme clusters of a text: the pieces that a reader sees as one character each. A character
joins the cluster before it or starts a new one, and which of the two it is depends on that cluster alone.
-/

namespace LessonCheck.Text

open BreakClass

/-! In what follows the characters of a cluster stand in reverse, the last one first. -/

def endsPictograph (cluster : Text) : Bool :=
  let rest := cluster.dropWhile fun c => (ofChar c).isMark && ofChar c ≠ joiner
  rest.head?.any fun c => ofChar c = pictograph

/-- Whether a cluster ends with a consonant that its marks link to a following one. -/
def endsLinked (cluster : Text) : Bool :=
  let marks := cluster.takeWhile fun c => (ofChar c).isMark && ofChar c ≠ nonJoiner
  let rest := cluster.drop marks.length
  marks.any (fun c => ofChar c = linker) && rest.head?.any fun c => ofChar c = consonant

/-- Two regional indicators make one flag. -/
def endsHalfFlag (cluster : Text) : Bool := (cluster.takeWhile fun c => ofChar c = flag).length % 2 = 1

def joins (cluster : Text) (c : Char) : Bool :=
  match cluster with
  | [] => false
  | last :: earlier =>
    let a := ofChar last
    let b := ofChar c
    if a.isBreaking || b.isBreaking then a = carriageReturn && b = lineFeed
    else
      b.isMark || b = spacing || a = preceding || a.spells b ||
      b = pictograph && a = joiner && endsPictograph earlier ||
      b = flag && endsHalfFlag cluster || b = consonant && endsLinked cluster

/-- The clusters from an open one on. -/
def clustersFrom (cluster : Text) : Text → List Text
  | [] => [cluster.reverse]
  | c :: r => if joins cluster c then clustersFrom (c :: cluster) r else cluster.reverse :: clustersFrom [c] r

def clusters : Text → List Text
  | [] => []
  | c :: r => clustersFrom [c] r

end LessonCheck.Text
