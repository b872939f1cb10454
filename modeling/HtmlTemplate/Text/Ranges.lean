/-!
A set of characters given by the code points at the ends of its intervals, in one ascending list
`[lo, hi, lo, hi, …]` with both ends included.
-/

namespace HtmlTemplate.Text

/-- Whether `n` lies in one of the intervals of `bounds`. -/
def within : List Nat → Nat → Bool
  | lo :: hi :: rest, n => (decide (lo ≤ n) && decide (n ≤ hi)) || within rest n
  | _, _ => false

end HtmlTemplate.Text
