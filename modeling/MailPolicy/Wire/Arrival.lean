/-
Reading a request while its octets arrive.

A line can be judged once its line feed has come, or as many octets as a line may have, or the end of the
stream.  So of the octets that have arrived only the lines that are complete count, until the peer is done.

* `Wire.completeLines` are the octets that can be judged;
* `Wire.readArrived?` is what has been read, once that is settled.
-/
import MailPolicy.Wire.Reader

namespace MailPolicy.Wire

/-- The octets without the beginning of a line at their end. -/
def completeLines (s : List UInt8) : List UInt8 :=
  let cut := takeLine maxLine s
  if cut.1 = [] then []
  else if cut.1.getLast? = some lineFeed ∨ maxLine ≤ cut.1.length then cut.1 ++ completeLines cut.2
  else []
termination_by s.length
decreasing_by exact length_rest_lt ‹_›

/-- What is read off the octets that have arrived, if nothing that may still come can change it.  The peer is
done when `ended` holds. -/
def readArrived? (s : List UInt8) (ended : Bool) : Option (Except ReadError (Option Request)) :=
  if ended then some ((readRequest s).map (·.1))
  else
    match readRequest (completeLines s) with
    | .ok (none, _) => none
    | .ok (some r, _) => some (.ok (some r))
    | .error .cutShort => none
    | .error e => some (.error e)

end MailPolicy.Wire
