import ImageSync.Text.Base64
import ImageSync.Text.Split
import ImageSync.Text.Utf8

/-!
# Certificates in text

Files hold certificates as text: sections of base 64 digits between a line that begins and a line
that ends them. Lines outside of sections, and sections of other things, are passed over.

## Main definitions

* `holdsCertificate bs`: whether a file looks as if it held a certificate.
* `certificates? bs`: the certificates of a file.
-/

namespace ImageSync.Certificate

open Text

/-- The bytes of a text. -/
def ascii (s : String) : List UInt8 := Utf8.encode s.toList

/-- Whether a file looks as if it held a certificate. -/
def holdsCertificate (bs : List UInt8) : Bool :=
  occurs "-----BEGIN CERTIFICATE-----".toList (Utf8.decodeLossy bs)

/-- The label of a line that begins a section. -/
def sectionLabel? (line : List UInt8) : Option (List UInt8) :=
  let mark := ascii "-----BEGIN "
  if mark.isPrefixOf line then
    (splitAround (ascii "-----") (line.drop mark.length)).map Prod.fst
  else none

/-- Whether a line ends a section with this label. -/
def endsSection (label line : List UInt8) : Bool :=
  (ascii "-----END " ++ label ++ ascii "-----").isPrefixOf line

/-- The lines of a file without line ends and blanks behind. -/
def lines (bs : List UInt8) : List (List UInt8) :=
  (splitOn 10 bs).map (trimEnd fun b => b = 13 || b = 32 || b = 9)

/-- The content of the section that is open, up to its end, and the lines behind it. -/
def splitSection (label : List UInt8) : List (List UInt8) → Option (List UInt8 × List (List UInt8))
  | [] => none
  | line :: rest =>
    if endsSection label line then some ([], rest)
    else (splitSection label rest).map fun p => (line ++ p.1, p.2)

theorem length_of_splitSection {label content : List UInt8} {ls rest : List (List UInt8)}
    (h : splitSection label ls = some (content, rest)) : rest.length < ls.length := by
  induction ls generalizing content with
  | nil => simp [splitSection] at h
  | cons l ls ih =>
    rw [splitSection] at h
    split at h
    · simp at h
      simp [h.2]
    · obtain ⟨p, hp, he⟩ := Option.map_eq_some_iff.1 h
      cases he
      have := ih hp
      simp
      omega

/-- The certificates in lines, as bytes. A section that does not end or does not decode spoils
all. -/
def certificatesIn? : List (List UInt8) → Option (List (List UInt8))
  | [] => some []
  | line :: rest =>
    match sectionLabel? line with
    | none => certificatesIn? rest
    | some label =>
      match _h : splitSection label rest with
      | none => none
      | some (content, rest) =>
        match Base64.decode? (Utf8.decodeLossy content), certificatesIn? rest with
        | some bytes, some more =>
          some (if label = ascii "CERTIFICATE" then bytes :: more else more)
        | _, _ => none
termination_by ls => ls.length
decreasing_by
  · simp
  · have := length_of_splitSection _h
    simp
    omega

/-- The certificates of a file, as bytes. -/
def certificates? (bs : List UInt8) : Option (List (List UInt8)) := certificatesIn? (lines bs)

end ImageSync.Certificate
