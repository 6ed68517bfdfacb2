namespace ReferenceFeed.Text

/-!
Time spans of whole milliseconds. Below one second a span is written in milliseconds, from there on in
seconds with as many decimals as it needs.
-/

/-- The decimals of a number of thousandths, without the zeros at the end. -/
def thousandths (n : Nat) : List Char :=
  let digits := [n / 100, n / 10 % 10, n % 10]
  (digits.reverse.dropWhile (· == 0)).reverse.map Nat.digitChar

/-- A span of `ms` milliseconds. The empty span is written in the smallest unit. -/
def duration (ms : Nat) : String :=
  if ms = 0 then "0ns"
  else if ms < 1000 then s!"{ms}ms"
  else
    let decimals := String.ofList (thousandths (ms % 1000))
    if decimals.isEmpty then s!"{ms / 1000}s" else s!"{ms / 1000}.{decimals}s"

end ReferenceFeed.Text
