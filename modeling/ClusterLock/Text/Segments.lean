/-
  Texts cut at a separator. `join_segments` says that nothing but the separators is lost.
-/
namespace ClusterLock

/-- The parts between separators; one more than there are separators. -/
def segments (sep : Char) : List Char → List (List Char)
  | [] => [[]]
  | c :: cs =>
    if c = sep then [] :: segments sep cs
    else match segments sep cs with
      | [] => [[c]]
      | w :: ws => (c :: w) :: ws

/-- Parts put together with a separator between them. -/
def joinSegments (sep : Char) : List (List Char) → List Char
  | [] => []
  | [w] => w
  | w :: v :: ws => w ++ sep :: joinSegments sep (v :: ws)

theorem segments_ne_nil (sep : Char) (cs : List Char) : segments sep cs ≠ [] := by
  cases cs with
  | nil => simp [segments]
  | cons c cs =>
    unfold segments
    split
    · simp
    · split <;> simp

theorem join_segments (sep : Char) (cs : List Char) : joinSegments sep (segments sep cs) = cs := by
  induction cs with
  | nil => rfl
  | cons c cs ih =>
    unfold segments
    cases h : segments sep cs with
    | nil => exact absurd h (segments_ne_nil sep cs)
    | cons w ws =>
      rw [h] at ih
      split
      · rename_i hc
        simp [joinSegments, ih, hc]
      · cases ws with
        | nil => simpa [joinSegments] using ih
        | cons v ws => simpa [joinSegments] using ih

/-- The parts of a text. -/
def partsOf (sep : Char) (s : String) : List String :=
  (segments sep s.toList).map String.ofList

end ClusterLock
