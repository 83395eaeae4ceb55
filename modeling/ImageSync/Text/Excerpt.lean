import ImageSync.Text.Blank
import ImageSync.Text.Split
import ImageSync.Text.Utf8

/-!
# Excerpts

Error messages quote what another program said, trimmed and limited in length. Lengths are counted
in bytes and a cut never falls inside a character.

## Main definitions

* `fitting n cs`: the longest initial part of at most `n` bytes.
* `head n s`: the text, or its beginning and a mark that it was cut.
* `tail n s`: the text, or a mark that it was cut and its end.
-/

namespace ImageSync.Text.Excerpt

/-- The longest initial part that has at most the given number of bytes. -/
def fitting : Nat → List Char → List Char
  | _, [] => []
  | n, c :: cs => if c.utf8Size ≤ n then c :: fitting (n - c.utf8Size) cs else []

/-- The longest final part that has at most the given number of bytes. -/
def fittingEnd (n : Nat) (cs : List Char) : List Char := (fitting n cs.reverse).reverse

/-- The trimmed text, cut behind `limit` bytes when it is longer. -/
def head (limit : Nat) (cs : List Char) : List Char :=
  let cs := trim isBlank cs
  if Utf8.size cs ≤ limit then cs else fitting limit cs ++ "... (truncated)".toList

/-- The trimmed text, of which the last `limit` bytes are kept when it is longer. -/
def tail (limit : Nat) (cs : List Char) : List Char :=
  let cs := trim isBlank cs
  if Utf8.size cs ≤ limit then cs else "...".toList ++ fittingEnd limit cs

theorem size_fitting_le (n : Nat) (cs : List Char) : Utf8.size (fitting n cs) ≤ n := by
  induction cs generalizing n with
  | nil => simp [fitting]
  | cons c cs ih =>
    simp only [fitting]
    split
    · have := ih (n - c.utf8Size)
      simp only [Utf8.size_cons]
      omega
    · simp

theorem fitting_isPrefix (n : Nat) (cs : List Char) : fitting n cs <+: cs := by
  induction cs generalizing n with
  | nil => simp [fitting]
  | cons c cs ih =>
    simp only [fitting]
    split
    · exact (List.prefix_cons_inj c).2 (ih _)
    · simp

end ImageSync.Text.Excerpt
