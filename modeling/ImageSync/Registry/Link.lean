import ImageSync.Text.Blank
import ImageSync.Text.Split
import ImageSync.Uri.Parser

/-!
# Links to the next page

A long list comes in pages. A page names the next one in a header with links: each has a target in
angle brackets and, behind a semicolon, its relation to the page.

## Main definitions

* `saysNext cs`: whether the text behind a target says that the target comes next.
* `nextTarget? cs`: the first target that comes next.
* `nextPage? base header`: the address of the next page.
-/

namespace ImageSync.Link

open Text

/-- Whether the text behind a target says that the target comes next. What follows the word `next`
does not count. -/
def saysNext (cs : List Char) : Bool :=
  match cs.dropWhile isBlank with
  | ';' :: rest =>
    match rest.dropWhile isBlank with
    | 'r' :: 'e' :: 'l' :: '=' :: '"' :: relation => "next".toList.isPrefixOf relation
    | 'r' :: 'e' :: 'l' :: '=' :: relation => "next".toList.isPrefixOf relation
    | _ => false
  | _ => false

/-- The first target, not empty, that comes next. -/
def nextTarget? : List Char → Option (List Char)
  | [] => none
  | c :: rest =>
    match (if c = '<' then splitFirst '>' rest else none) with
    | some (target, behind) =>
      if !target.isEmpty && saysNext behind then some target else nextTarget? rest
    | none => nextTarget? rest

/-- The address of the next page as the header with links of the page at `base` names it. -/
def nextPage? (base : Uri) (header : String) : Option Uri :=
  (nextTarget? header.toList).bind fun target => (base.join (String.ofList target)).toOption

end ImageSync.Link
