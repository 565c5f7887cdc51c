/-
Look-up of a field in a file of keys.

A line of the file holds one key, its first word; a number sign starts a comment.  Keys are compared in
lower case.  The keys are read once and read again when the modification stamp of the file has changed:
a look-up first claims the next comparison of stamps, at most one a second and none during a back-off, and
then synchronises.  Whatever goes wrong there leaves the keys as they are and counts as a failure.

Everything that touches the file takes the entry it finds as an argument, one argument for each access, so
the file may change between any two of them.

* `KeySet.load` reads the keys: the content first, then the stamp;
* `KeyFile.claim?` claims a comparison, in three sections that `isStale` and `take?` name;
* `KeyFile.sync` compares stamps and reads again if they differ;
* `KeyFile.reload` reads again in any case.
-/
import MailPolicy.Check.ValueList

namespace MailPolicy

/-- Keys and the stamp of the file that they came from. -/
structure KeySet where
  keys : List Text
  /-- The stamp; absent if the file was gone when it was asked for. -/
  stamp : Option Stamp
deriving DecidableEq, Repr

namespace KeySet

/-- What stands before the first number sign. -/
def uncommented (line : Text) : Text := line.takeWhile (· != '#')

/-- The key on a line. -/
def keyOf? (line : Text) : Option Text := ((Text.words (uncommented line)).head?).map Text.lower

/-- The keys in a text, each once. -/
def parse (content : Text) : List Text := ((Text.lines content).filterMap keyOf?).eraseDups

/-- Reads the keys from the entry `content`, then the stamp from the entry `after`. -/
def load (content after : Entry) : Except FileError KeySet :=
  content.read.map fun text => ⟨parse text, after.stamp.toOption⟩

end KeySet

/-- A file of keys that is kept up to date. -/
structure KeyFile where
  set : KeySet
  /-- When the stamps were last compared. -/
  checkedAt : Nat
  tracker : Tracker
deriving Repr

namespace KeyFile

/-- Milliseconds between two comparisons of stamps. -/
def interval : Nat := 1000

/-- Whether the last comparison of stamps is long enough ago. -/
def isStale (f : KeyFile) (now : Nat) : Bool := interval ≤ now - f.checkedAt

/-- Takes the next comparison, unless another has taken it in the meantime. -/
def take? (f : KeyFile) (now : Nat) : Option KeyFile :=
  if f.isStale now then some { f with checkedAt := now } else none

/-- Claims the next comparison of stamps. -/
def claim? (f : KeyFile) (now : Nat) : Option KeyFile :=
  if !f.isStale now then none
  else if f.tracker.omits now then none
  else f.take? now

/-- The file with a failure at the instant `now` counted. -/
def fail (f : KeyFile) (now : Nat) : KeyFile := { f with tracker := (f.tracker.record now).1 }

/-- Reads the keys again; the count of keys, or why the old ones stay. -/
def reload (f : KeyFile) (content after : Entry) : Except FileError (KeyFile × Nat) :=
  (KeySet.load content after).map fun set => ({ f with set := set }, set.keys.length)

/-- Compares the stamp of the entry `first` with the recorded one, and reads again from the entries `content`
and `after` if they differ. -/
def sync (f : KeyFile) (now : Nat) (first content after : Entry) : KeyFile :=
  match first.stamp with
  | .error _ => f.fail now
  | .ok stamp =>
    if f.set.stamp = some stamp then f
    else
      match f.reload content after with
      | .ok (g, _) => g
      | .error _ => f.fail now

/-- Brings the keys up to date with a file that does not change meanwhile. -/
def refresh (f : KeyFile) (now : Nat) (e : Entry) : KeyFile :=
  match f.claim? now with
  | some g => g.sync now e e e
  | none => f

/-- Whether a value is a key. -/
def contains (f : KeyFile) (value : Text) : Bool := f.set.keys.contains (Text.lower (Text.trim value))

/-- How many keys there are. -/
def size (f : KeyFile) : Nat := f.set.keys.length

end KeyFile

/-- A look-up in a file of keys, the file apart. -/
structure KeyCheck where
  name : Text
  field : Field
  path : Text
  weights : HitMiss Float
deriving Repr

namespace KeyCheck

/-- The check with the given settings and the keys in the entry that its path leads to at the instant
`now`; `backoff` holds unless the settings have a back-off of their own. -/
def make (s : KeyFileSettings) (backoff : BackoffSettings) (now : Nat) (e : Entry) :
    Except CheckError (KeyCheck × KeyFile) :=
  if !s.weights.isFinite then .error (.unusable s.name .weightNotFinite)
  else
    match KeySet.load e e with
    | .error err => .error (.unusable s.name (.unreadable s.path err))
    | .ok set =>
      .ok ({ name := s.name, field := s.field, path := s.path, weights := s.weights },
        { set := set, checkedAt := now, tracker := .ofSettings (s.backoff.getD backoff) })

/-- What the check adds for a request when the file holds the given keys. -/
def weight? (c : KeyCheck) (f : KeyFile) (r : Request) : Option Float :=
  (r.field? c.field).bind fun value => c.weights.pick (f.contains value)

end KeyCheck
end MailPolicy
