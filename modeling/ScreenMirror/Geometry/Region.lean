import ScreenMirror.Geometry.Rect

/-!
# Regions

A region is a list of rectangles in the order in which they were added.
Adding keeps the list free of empty rectangles and of rectangles that another
one covers.
-/

namespace ScreenMirror

/-- Pixels named by a list of rectangles. -/
abbrev Region := List Rect

namespace Region

def covers : Region → Rect → Checked Bool
  | [], _ => return false
  | head :: rest, r => do
    if ← head.covers r then return true else covers rest r

/-- The rectangles of the region that `r` does not cover. -/
def uncovered (r : Rect) : Region → Checked Region
  | [] => return []
  | head :: rest => do
    let hidden ← r.covers head
    let others ← uncovered r rest
    return if hidden then others else head :: others

/-- The region with `r` added, unless it adds nothing; what `r` covers is dropped. -/
def insert (region : Region) (r : Rect) : Checked Region := do
  if r.isEmpty then return region
  if ← covers region r then return region
  return (← uncovered r region) ++ [r]

def insertAll (region : Region) : List Rect → Checked Region
  | [] => return region
  | r :: rest => do insertAll (← insert region r) rest

end Region

end ScreenMirror
