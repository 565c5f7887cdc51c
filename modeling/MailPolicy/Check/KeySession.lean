/-
A look-up in a file of keys from one call to the next.

Nothing goes on beside a call: the comparison of stamps that it claims, and the load that may follow, are over
before it answers.  Between two calls time passes and the file may be replaced.

* `KeySession.step` is one call, or what happens between two: the answer and the state after it;
* `KeySession.run` is the state after several, one after the other.
-/
import MailPolicy.Check.KeyFile

namespace MailPolicy

/-- A check of a file of keys, the file apart, what is under its path and the time. -/
structure KeySession where
  check : KeyCheck
  file : KeyFile
  /-- What is under the path. -/
  entry : Entry
  now : Nat
deriving Repr

/-- A call of the check, or what happens between two calls. -/
inductive KeyCall where
  /-- Asks whether a value is a key. -/
  | contains (value : Text)
  /-- Evaluates the check for a request. -/
  | evaluate (r : Request)
  /-- Asks for the keys to be read again. -/
  | reload
  /-- Time passes. -/
  | postpone (millis : Nat)
  /-- Something else is put under the path. -/
  | replace (e : Entry)
deriving Repr

/-- What a call answers. -/
inductive KeyAnswer where
  | nothing
  /-- Whether the value is a key. -/
  | found (listed : Bool)
  /-- What the check adds. -/
  | points (added : Option Float)
  /-- How many keys were read, or why the old ones stay. -/
  | reloaded (count : Except FileError Nat)
deriving Repr

namespace KeySession

/-- A check that was just made. -/
def start (check : KeyCheck) (file : KeyFile) (entry : Entry) (now : Nat) : KeySession :=
  { check := check, file := file, entry := entry, now := now }

/-- The state with the keys brought up to date, as far as a look-up does it. -/
def refreshed (s : KeySession) : KeySession := { s with file := s.file.refresh s.now s.entry }

/-- The answer to a call, and the state after it. -/
def step (s : KeySession) : KeyCall → KeyAnswer × KeySession
  | .contains value => (.found (s.refreshed.file.contains value), s.refreshed)
  | .evaluate r =>
    if (r.field? s.check.field).isSome then
      (.points (s.check.weight? s.refreshed.file r), s.refreshed)
    else (.points none, s)
  | .reload =>
    match s.file.reload s.entry s.entry with
    | .ok (file, count) => (.reloaded (.ok count), { s with file := file })
    | .error reason => (.reloaded (.error reason), s)
  | .postpone millis => (.nothing, { s with now := s.now + millis })
  | .replace e => (.nothing, { s with entry := e })

/-- The state after calls, one after the other. -/
def run (s : KeySession) (calls : List KeyCall) : KeySession :=
  calls.foldl (fun s call => (s.step call).2) s

@[simp] theorem run_nil (s : KeySession) : s.run [] = s := rfl

theorem run_concat (s : KeySession) (calls : List KeyCall) (call : KeyCall) :
    s.run (calls ++ [call]) = ((s.run calls).step call).2 := by
  rw [run, List.foldl_append, List.foldl_cons, List.foldl_nil, run]

end KeySession
end MailPolicy
