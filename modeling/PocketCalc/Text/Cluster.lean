import PocketCalc.Text.ClusterTable
import PocketCalc.Text.Upper

/-!
# Clusters

`clusters` cuts a text into what a reader takes for its characters, by the rules of extended
grapheme clusters. Whether a scalar joins the cluster before it can be told from the classes in
that cluster alone, so the text is cut from left to right with the current cluster and its
classes in hand, last first. `flatten_clusters` says that nothing is lost.
-/

namespace PocketCalc.Text

/-! ## What belongs together -/

/-- Whether nothing ever joins a scalar of the class, on either side. -/
def isBarrier : ClusterClass → Bool
  | .carriageReturn | .lineFeed | .control => true
  | _ => false

/-- Whether a class leaves the consonant before it ready to be tied. -/
def isWithinConjunct : ClusterClass → Bool
  | .extend | .linker | .joiner => true
  | _ => false

/-- Whether classes, last first, end in a consonant with a linker on it. -/
def endsTied (seen : List ClusterClass) : Bool :=
  (seen.takeWhile isWithinConjunct).contains .linker &&
    (seen.dropWhile isWithinConjunct).head? == some .consonant

/-- Whether a class is one of marks that take up no space, the joiner apart. -/
def isMark : ClusterClass → Bool
  | .extend | .linker | .nonJoiner => true
  | _ => false

/-- Whether classes, last first, end in a pictograph with marks on it. -/
def endsInPictograph (seen : List ClusterClass) : Bool :=
  (seen.dropWhile isMark).head? == some .pictograph

/-- Whether classes, last first, end in half a flag. -/
def endsInHalfFlag (seen : List ClusterClass) : Bool :=
  (seen.takeWhile (· == .regional)).length % 2 == 1

/-- Whether a scalar of class `next` joins a cluster whose classes are `seen`, last first. -/
def joins (seen : List ClusterClass) (next : ClusterClass) : Bool :=
  match seen, next with
  | [], _ => false
  | .carriageReturn :: _, .lineFeed => true
  | last :: before, next =>
    if isBarrier last || isBarrier next then false
    else
      match last, next with
      | _, .extend | _, .linker | _, .joiner | _, .nonJoiner | _, .spacing => true
      | .leader, _ => true
      | .hangulLead, .hangulLead | .hangulLead, .hangulVowel | .hangulLead, .hangulOpen
      | .hangulLead, .hangulClosed => true
      | .hangulOpen, .hangulVowel | .hangulOpen, .hangulTail | .hangulVowel, .hangulVowel
      | .hangulVowel, .hangulTail => true
      | .hangulClosed, .hangulTail | .hangulTail, .hangulTail => true
      | _, .consonant => endsTied seen
      | .joiner, .pictograph => endsInPictograph before
      | .regional, .regional => endsInHalfFlag seen
      | _, _ => false

/-! ## Cutting -/

/-- The clusters of a text, of which the scalars in `current`, of the classes in `seen`, are read
already. -/
def clustersFrom (current : List Char) (seen : List ClusterClass) : Text → List Text
  | [] => [current.reverse]
  | c :: rest =>
    let kind := ClusterClass.ofChar c
    if joins seen kind then clustersFrom (c :: current) (kind :: seen) rest
    else current.reverse :: clustersFrom [c] [kind] rest

/-- The clusters of a text. -/
def clusters : Text → List Text
  | [] => []
  | c :: rest => clustersFrom [c] [ClusterClass.ofChar c] rest

theorem flatten_clustersFrom (current : List Char) (seen : List ClusterClass) (text : Text) :
    (clustersFrom current seen text).flatten = current.reverse ++ text := by
  fun_induction clustersFrom current seen text with
  | case1 current seen => simp
  | case2 current seen c rest kind _ ih => simp [ih]
  | case3 current seen c rest kind _ ih => simp [ih]

/-- Clusters make up the text they are cut from. -/
@[simp] theorem flatten_clusters (text : Text) : (clusters text).flatten = text := by
  cases text with
  | nil => rfl
  | cons c rest => simp [clusters, flatten_clustersFrom]

end PocketCalc.Text
