/-
Spans of time and their text in messages.

A span is a whole number of milliseconds.  From one second on it is written in seconds, below that in
milliseconds, with the fraction cut after its last digit that is not zero; no time at all is `0ns`.
-/
import MailPolicy.Decimal.Shortest

namespace MailPolicy

/-- A span of time in milliseconds. -/
structure Span where
  millis : Nat
deriving DecidableEq, Repr, Inhabited

namespace Span

/-- The text of a span in messages. -/
def render (d : Span) : Text :=
  if d.millis = 0 then "0ns".toList
  else if d.millis < 1000 then Text.decimal d.millis ++ "ms".toList
  else
    let fraction := Text.dropEnd (· == '0') (Decimal.padded 3 (d.millis % 1000))
    Text.decimal (d.millis / 1000) ++ (if fraction.isEmpty then [] else '.' :: fraction) ++ ['s']

end Span
end MailPolicy
