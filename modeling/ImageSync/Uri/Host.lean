import ImageSync.Text.Case
import ImageSync.Text.Category
import ImageSync.Text.Split
import ImageSync.Uri.Escape
import ImageSync.Uri.Punycode

/-!
# Hosts

The host of an address is a name or a number. A name whose last label is a number is read as an
IPv4 address of one to four numbers in base ten, eight or sixteen; in brackets stands an IPv6
address. Names of the known schemes are written in lower case and in ASCII.

## Main definitions

* `Uri.Error`: why a text is no address.
* `Host`: a name, an IPv4 address or an IPv6 address.
* `Host.text h`: a host as it is written.
* `Host.parse`, `Host.parseVerbatim`: the host of a known and of any other scheme.
-/

namespace ImageSync.Uri

open Text

/-- Why a text is no address. -/
inductive Error where
  | emptyHost
  | badName
  | badPort
  | badIpv4
  | badIpv6
  | badCharacter
  | noBase
  | baseWithoutPath
deriving DecidableEq, Repr

/-- The wording of a cause. -/
def Error.message : Error → String
  | emptyHost => "empty host"
  | badName => "invalid international domain name"
  | badPort => "invalid port number"
  | badIpv4 => "invalid IPv4 address"
  | badIpv6 => "invalid IPv6 address"
  | badCharacter => "invalid domain character"
  | noBase => "relative URL without a base"
  | baseWithoutPath => "relative URL with a cannot-be-a-base base"

/-- Who an address leads to. -/
inductive Host where
  /-- A name. -/
  | name (text : String)
  /-- A number of 32 bits. -/
  | ipv4 (number : Nat)
  /-- Eight numbers of 16 bits. -/
  | ipv6 (words : List Nat)
deriving DecidableEq, Repr

namespace Host

/-! ## IPv4 -/

/-- A number in a base up to sixteen; a digit beyond the base is refused. -/
def numeral? (base : Nat) (cs : List Char) : Option Nat :=
  cs.foldlM (fun n c =>
    match Json.hexDigit? c with
    | some d => if d < base then some (n * base + d) else none
    | none => none) 0

/-- One number of an IPv4 address: hexadecimal behind `0x`, octal behind `0`, else decimal. -/
def ipv4Number? : List Char → Option Nat
  | [] => none
  | '0' :: 'x' :: digits => numeral? 16 digits
  | '0' :: 'X' :: digits => numeral? 16 digits
  | '0' :: d :: digits => numeral? 8 (d :: digits)
  | digits => numeral? 10 digits

/-- The labels of a name. One dot at the end counts for nothing. -/
def labels (name : List Char) : List (List Char) :=
  match (splitOn '.' name).reverse with
  | [] :: before => before.reverse
  | _ => splitOn '.' name

/-- Whether the last label of a name is a number. -/
def endsInNumber (name : List Char) : Bool :=
  match (labels name).getLast? with
  | none => false
  | some [] => false
  | some last => last.all Char.isDigit || (ipv4Number? last).isSome

/-- The address of one to four numbers. The last fills the places that are left. -/
def ipv4OfNumbers? (numbers : List Nat) : Option Nat :=
  match numbers.reverse with
  | [] => none
  | last :: before =>
    let places := before.length
    if 3 < places || before.any (255 < ·) || 1 <<< (8 * (4 - places)) ≤ last then none
    else some (before.reverse.foldl (fun n x => n * 256 + x) 0 <<< (8 * (4 - places)) + last)

/-- The IPv4 address of a name whose last label is a number. -/
def ipv4? (name : List Char) : Option Nat :=
  ((labels name).mapM ipv4Number?).bind ipv4OfNumbers?

/-- An IPv4 address as it is written. -/
def ipv4Text (n : Nat) : String :=
  ".".intercalate ([n >>> 24, (n >>> 16) % 256, (n >>> 8) % 256, n % 256].map toString)

/-! ## IPv6 -/

/-- The number of an IPv4 address at the end of an IPv6 address: four decimal numbers without
leading zeros. -/
def plainIpv4? (cs : List Char) : Option Nat := do
  let parts := splitOn '.' cs
  let numbers ← parts.mapM fun part =>
    match part with
    | [] => none
    | ['0'] => some 0
    | '0' :: _ => none
    | digits => if digits.length ≤ 3 then numeral? 10 digits else none
  if numbers.length = 4 ∧ numbers.all (· ≤ 255) then ipv4OfNumbers? numbers else none

/-- The words of one group of an IPv6 address, and of an IPv4 address if it is the last group. -/
def group? (isLast : Bool) (cs : List Char) : Option (List Nat) :=
  if isLast && cs.contains '.' then
    (plainIpv4? cs).map fun n => [n >>> 16, n % UInt16.size]
  else if cs.isEmpty || 4 < cs.length then none
  else (numeral? 16 cs).map fun n => [n]

/-- The words of groups with colons between. -/
def groups? (isLast : Bool) (cs : List Char) : Option (List Nat) :=
  if cs.isEmpty then some []
  else
    let parts := splitOn ':' cs
    let start := parts.dropLast.mapM (group? false)
    let last := (parts.getLast?.getD []) |> group? isLast
    match start, last with
    | some ws, some w => some (ws.flatten ++ w)
    | _, _ => none

/-- The words of an IPv6 address. Two colons stand once for as many zeros as are missing. -/
def ipv6? (cs : List Char) : Option (List Nat) :=
  match splitAround "::".toList cs with
  | none =>
    match groups? true cs with
    | some ws => if ws.length = 8 then some ws else none
    | none => none
  | some (before, after) =>
    match groups? false before, groups? true after with
    | some a, some b =>
      if a.length + b.length < 8 then some (a ++ List.replicate (8 - a.length - b.length) 0 ++ b)
      else none
    | _, _ => none

/-- The number of zeros at the beginning. -/
def zeroRun (words : List Nat) : Nat := (words.takeWhile (· = 0)).length

/-- The place and the length of the first longest run of zeros. -/
def longestZeroRun (words : List Nat) : Nat × Nat :=
  (List.range words.length).foldl
    (fun best i => if best.2 < zeroRun (words.drop i) then (i, zeroRun (words.drop i)) else best)
    (0, 0)

/-- An IPv6 address as it is written: the first longest run of two zeros or more is left out. -/
def ipv6Text (words : List Nat) : String :=
  let shown (ws : List Nat) : String :=
    ":".intercalate (ws.map fun w => String.ofList (Nat.toDigits 16 w))
  let (at_, length) := longestZeroRun words
  if 2 ≤ length then shown (words.take at_) ++ "::" ++ shown (words.drop (at_ + length))
  else shown words

/-! ## Names -/

/-- What no name may contain. -/
def isForbidden (c : Char) : Bool :=
  c ≤ ' ' || c == '\x7f' || c == '#' || c == '/' || c == ':' || c == '<' || c == '>' || c == '?' ||
    c == '@' || c == '[' || c == '\\' || c == ']' || c == '^' || c == '|'

/-- A character of a name in its plain form: full stops and letters of full width become ASCII,
soft hyphens and joiners without width go, all else is written in lower case. -/
def plainForm (c : Char) : List Char :=
  if c = '\u3002' ∨ c = '\uFF0E' ∨ c = '\uFF61' then ['.']
  else if c = '\u00AD' ∨ c = '\u200B' ∨ c = '\u2060' ∨ c = '\uFEFF' then []
  else if '\uFF01' ≤ c ∧ c ≤ '\uFF5E' then [(Char.ofNat (c.toNat - 0xFEE0)).toLower]
  else if hasCategory [.upper, .title] c then (lowerChar c).map simpleFold
  else [c]

/-- Whether a label beyond ASCII is in its plain form: no character has another plain form or is
none that is shown, and no mark stands in front. -/
def isPlainLabel (label : List Char) : Bool :=
  !label.all Punycode.isAscii && !(label.head?.any isMark) &&
    label.all fun c => plainForm c = [c] && !hasCategory
      [.control, .format, .space, .lineSeparator, .paragraphSeparator, .privateUse, .unassigned] c

/-- The ASCII form of a label, unless it is a wrong one. A label beyond ASCII does not begin like the
ASCII form of another. -/
def asciiLabel? (label : List Char) : Option (List Char) :=
  let mark := "xn--".toList
  if !label.all Punycode.isAscii then
    if isPlainLabel label && !mark.isPrefixOf label then some (mark ++ Punycode.encode label)
    else none
  else if mark.isPrefixOf label then
    match Punycode.decode? (label.drop 4) with
    | some plain =>
      if isPlainLabel plain && mark ++ Punycode.encode plain = label then some label else none
    | none => none
  else some label

/-- The ASCII form of a name. -/
def asciiName? (name : List Char) : Option (List Char) :=
  match ((splitOn '.' (name.flatMap plainForm)).mapM asciiLabel?).map (joinWith '.') with
  | some ascii => if ascii.any (fun c => isForbidden c || c == '%') then none else some ascii
  | none => none

/-- The IPv6 address in brackets. -/
def parseBracketed (cs : List Char) : Except Error Host :=
  match cs.getLast?, ipv6? cs.dropLast with
  | some ']', some ws => .ok (.ipv6 ws)
  | _, _ => .error .badIpv6

/-- The host of an address with a known scheme. -/
def parse : List Char → Except Error Host
  | '[' :: rest => parseBracketed rest
  | cs =>
    match (Utf8.decode? (unescape cs)).bind asciiName? with
    | none => .error .badName
    | some [] => .error .emptyHost
    | some ascii =>
      if endsInNumber ascii then
        match ipv4? ascii with
        | some n => .ok (.ipv4 n)
        | none => .error .badIpv4
      else .ok (.name (String.ofList ascii))

/-- The host of an address with any other scheme. -/
def parseVerbatim : List Char → Except Error Host
  | '[' :: rest => parseBracketed rest
  | cs =>
    if cs.any fun c => isForbidden c && !isEscaped c || c == '\x00' then .error .badCharacter
    else .ok (.name (String.ofList (escape isEscaped cs)))

/-- A host as it is written. -/
def text : Host → String
  | name s => s
  | ipv4 n => ipv4Text n
  | ipv6 ws => "[" ++ ipv6Text ws ++ "]"

end Host

end ImageSync.Uri
