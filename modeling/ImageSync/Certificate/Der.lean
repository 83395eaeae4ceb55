/-!
# Distinguished encoding

Certificates are written as elements: a tag, a length and the content, which may again be elements.
Lengths have one spelling, the shortest.

## Main definitions

* `Element`, `split? bs`: the first element of some bytes and what follows it.
* `elements? bs`: bytes that are elements and nothing else.
* `isCertificate bs`: whether bytes are a certificate that can be trusted.
-/

namespace ImageSync.Certificate

/-- A tag with its content. -/
structure Element where
  tag : UInt8
  content : List UInt8
deriving DecidableEq, Repr

/-- The number that bytes stand for, the first byte being the highest. -/
def number (bs : List UInt8) : Nat := bs.foldl (fun n b => n * 256 + b.toNat) 0

/-- A length and what follows it. It has at most four bytes and no shorter spelling. -/
def length? : List UInt8 → Option (Nat × List UInt8)
  | [] => none
  | b :: rest =>
    if b < 0x80 then some (b.toNat, rest)
    else
      let count := b.toNat - 0x80
      let n := number (rest.take count)
      if count = 0 || 4 < count || rest.length < count || n < 0x80 ||
          n < 1 <<< (8 * (count - 1)) then none
      else some (n, rest.drop count)

/-- The first element and what follows it. -/
def split? : List UInt8 → Option (Element × List UInt8)
  | [] => none
  | tag :: rest =>
    match length? rest with
    | none => none
    | some (n, rest) =>
      if tag.toNat % 32 = 31 || rest.length < n then none
      else some (⟨tag, rest.take n⟩, rest.drop n)

/-- The elements that bytes consist of; `count` bounds their number. -/
def elementsUpTo? : (count : Nat) → List UInt8 → Option (List Element)
  | _, [] => some []
  | 0, _ => none
  | count + 1, bs =>
    match split? bs with
    | none => none
    | some (e, rest) => (elementsUpTo? count rest).map (e :: ·)

/-- The elements that bytes consist of. -/
def elements? (bs : List UInt8) : Option (List Element) := elementsUpTo? bs.length bs

/-- The elements of a sequence. -/
def Element.parts? (e : Element) : Option (List Element) :=
  if e.tag = 0x30 then elements? e.content else none

/-- Whether an element is a whole number, not negative and in its shortest spelling. -/
def Element.isNumber (e : Element) : Bool :=
  e.tag = 2 &&
    match e.content with
    | [] => false
    | [b] => b < 0x80
    | a :: b :: _ => a < 0x80 && (a ≠ 0 || 0x80 ≤ b)

/-- Whether an element is a string of whole bytes. -/
def Element.isBytes (e : Element) : Bool := e.tag = 3 && e.content.head? = some 0

/-- The number in the middle of an object identifier of a standard extension. -/
def Element.extensionNumber? (e : Element) : Option UInt8 :=
  match e.content with
  | [0x55, 0x1D, n] => if e.tag = 6 then some n else none
  | _ => none

/-- Whether an extension does no harm: it is not critical or one of those that are understood. -/
def isHarmless (extension : Element) : Bool :=
  match extension.parts? with
  | some [name, value] => name.tag = 6 && value.tag = 4
  | some [name, critical, value] =>
    name.tag = 6 && value.tag = 4 && critical = ⟨1, [0xFF]⟩ &&
      name.extensionNumber?.any [15, 17, 19, 30, 31, 37].contains
  | _ => false

/-- Whether an element holds extensions that do no harm. -/
def areExtensions (e : Element) : Bool :=
  e.tag = 0xA3 &&
    match (elements? e.content).getD [] with
    | [list] => (list.parts?.getD []).all isHarmless && list.parts?.isSome
    | _ => false

/-- Whether elements are what a certificate of the third version says. `algorithm` is the one it is
signed with. -/
def isStatement (algorithm : Element) : List Element → Bool
  | version :: serial :: signature :: issuer :: validity :: subject :: key :: rest =>
    version = ⟨0xA0, [2, 1, 2]⟩ && serial.isNumber && signature = algorithm &&
      [issuer, validity, subject, key].all (fun e => e.tag = 0x30) &&
      match rest with
      | [] => true
      | [extensions] => areExtensions extensions
      | _ => false
  | _ => false

/-- Whether elements are what a certificate of the first version says. -/
def isFirstStatement (algorithm : Element) : List Element → Bool
  | serial :: signature :: more =>
    serial.isNumber && signature = algorithm && more.length = 4 && more.all (fun e => e.tag = 0x30)
  | _ => false

/-- Whether bytes are a certificate that can be trusted: one element with a statement, an algorithm
and a signature. -/
def isCertificate (bs : List UInt8) : Bool :=
  match (elements? bs).getD [] with
  | [whole] =>
    match whole.parts?.getD [] with
    | [statement, algorithm, signature] =>
      let parts := statement.parts?.getD []
      signature.isBytes && algorithm.tag = 0x30 &&
        (isStatement algorithm parts || isFirstStatement algorithm parts)
    | _ => false
  | _ => false

end ImageSync.Certificate
