/-!
# White space

The characters with the property White_Space of the Unicode standard. The property has not changed
for many versions of the standard.
-/

namespace ImageSync.Text

/-- The runs of code points with the property White_Space. -/
private def blankRuns : List (Nat × Nat) := [
  (0x9, 0xD), (0x20, 0x20), (0x85, 0x85), (0xA0, 0xA0), (0x1680, 0x1680), (0x2000, 0x200A),
  (0x2028, 0x2029), (0x202F, 0x202F), (0x205F, 0x205F), (0x3000, 0x3000)]

/-- Whether a character is white space. -/
def isBlank (c : Char) : Bool := blankRuns.any fun r => r.1 ≤ c.toNat && c.toNat ≤ r.2

/-- The code points of white space. -/
def blankCodes : List Nat := blankRuns.flatMap fun r => List.range' r.1 (r.2 + 1 - r.1)

/-- What is true of each code point of white space is true of all white space. -/
theorem forall_of_isBlank {P : Char → Prop} (h : ∀ n ∈ blankCodes, P (Char.ofNat n)) {c : Char}
    (hc : isBlank c = true) : P c := by
  obtain ⟨r, hr, hrange⟩ := List.any_eq_true.1 hc
  simp only [Bool.and_eq_true, decide_eq_true_eq] at hrange
  have hmem : c.toNat ∈ blankCodes := by
    refine List.mem_flatMap.2 ⟨r, hr, List.mem_range'_1.2 ⟨hrange.1, ?_⟩⟩
    omega
  simpa only [Char.ofNat_toNat] using h c.toNat hmem

end ImageSync.Text
