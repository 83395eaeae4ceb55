import ImageSync.Text.Split

/-!
# Durations

Durations are whole numbers of milliseconds.
-/

namespace ImageSync.Duration

open Text

/-- The digits of the thousandths behind the point, without zeros at the end. -/
private def thousandths (n : Nat) : List Char :=
  let digits := (toString (1000 + n)).toList.drop 1
  trimEnd (fun c => c == '0') digits

/-- A duration in the largest unit of which it holds one: seconds with a fraction where needed, or
milliseconds. No time at all is given in the smallest unit. -/
def text (ms : Nat) : String :=
  if ms = 0 then "0ns"
  else if ms < 1000 then toString ms ++ "ms"
  else if ms % 1000 = 0 then toString (ms / 1000) ++ "s"
  else toString (ms / 1000) ++ "." ++ String.ofList (thousandths (ms % 1000)) ++ "s"

end ImageSync.Duration
