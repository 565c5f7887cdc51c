/-
Look-ups of a file of keys beside each other, one section at a time.

A look-up comes with an instant of its own and claims a comparison of stamps in three sections: it sees when
the stamps were last compared, whether the file is left alone, and then takes the comparison unless another
has taken it in the meantime.  The one that takes it goes on as a load.  Between any two sections the others
go on, loads count their failures and record their keys, and the file may be replaced.

* `KeyVisitor.advance` is the next section of a look-up or a load;
* `KeyRace.step` is what can happen: the file is replaced, a look-up or a load begins, or one goes on.
-/
import MailPolicy.Check.KeyWatch

namespace MailPolicy

/-- The instant at which a load counts a failure if its next access goes wrong with the entry `e`. -/
def KeyLoader.failure? (e : Entry) : KeyLoader → Option Nat
  | comparing now _ =>
    match e.stamp with
    | .error _ => some now
    | .ok _ => none
  | reading (.moved now) =>
    match e.read with
    | .error _ => some now
    | .ok _ => none
  | _ => none

/-- Where a look-up or a load of keys stands. -/
inductive KeyVisitor where
  /-- A look-up at the instant `now`, about to see when the stamps were last compared. -/
  | arriving (now : Nat)
  /-- It is about to see whether the file is left alone. -/
  | asking (now : Nat)
  /-- It is about to take the comparison. -/
  | taking (now : Nat)
  /-- It has not got the comparison. -/
  | refused
  /-- A load. -/
  | loading (l : KeyLoader)
  /-- A load that went wrong and is about to count it. -/
  | failing (now : Nat)
deriving DecidableEq, Repr

namespace KeyVisitor

/-- Whether nothing is left to do. -/
def isOver : KeyVisitor → Bool
  | refused | loading .done => true
  | _ => false

/-- The next section, with the entry `e` under the path: what the check has then, and where the visitor
stands. -/
def advance (f : KeyFile) (e : Entry) : KeyVisitor → KeyFile × KeyVisitor
  | arriving now => (f, if f.isStale now then asking now else refused)
  | asking now => (f, if f.tracker.omits now then refused else taking now)
  | taking now =>
    match f.take? now with
    | some g => (g, loading (.called now))
    | none => (f, refused)
  | refused => (f, refused)
  | loading l =>
    match l.failure? e with
    | some now => (f, failing now)
    | none => (((l.advance (some f) e).1).getD f, loading (l.advance (some f) e).2)
  | failing now => (f.fail now, loading .done)

/-- The claim that succeeds in the next section. -/
def claim? (f : KeyFile) : KeyVisitor → Option Nat
  | taking now => if f.isStale now then some now else none
  | _ => none

/-- The comparison of stamps in the next section, by the instant of its claim. -/
def comparison? : KeyVisitor → Option Nat
  | loading (.comparing now _) => some now
  | _ => none

/-- The sections of a visitor that nobody comes in between, so many of them. -/
def through (f : KeyFile) (e : Entry) : Nat → KeyVisitor → KeyFile × KeyVisitor
  | 0, v => (f, v)
  | count + 1, v => (v.advance f e).2.through (v.advance f e).1 e count

end KeyVisitor

/-- A file of keys with everyone who looks keys up or loads them. -/
structure KeyRace where
  /-- What is under the path. -/
  entry : Entry
  file : KeyFile
  /-- All who ever came, by number. -/
  visitors : List KeyVisitor
  /-- The instants of the claims that succeeded, in the order in which they did. -/
  claims : List Nat
  /-- The instants of the claims whose comparison was made, in the order in which it was. -/
  comparisons : List Nat
deriving Repr

/-- What can happen to a file of keys that is looked up by many. -/
inductive RaceAction where
  /-- Something else is put under the path. -/
  | replace (e : Entry)
  /-- A look-up at the instant `now` begins. -/
  | call (now : Nat)
  /-- Someone asks for a reload. -/
  | ask
  /-- A look-up or a load goes on with its next section. -/
  | advance (visitor : Nat)
deriving Repr

namespace KeyRace

/-- A check without visitors. -/
def start (e : Entry) (f : KeyFile) : KeyRace :=
  { entry := e, file := f, visitors := [], claims := [], comparisons := [] }

/-- The state after the next section of the visitor `v`, who has the given number. -/
def advance (r : KeyRace) (visitor : Nat) (v : KeyVisitor) : KeyRace :=
  { r with
    file := (v.advance r.file r.entry).1
    visitors := r.visitors.set visitor (v.advance r.file r.entry).2
    claims := r.claims ++ (v.claim? r.file).toList
    comparisons := r.comparisons ++ v.comparison?.toList }

/-- The state after an action, if the action is possible. -/
def step (r : KeyRace) : RaceAction → Option KeyRace
  | .replace e => some { r with entry := e }
  | .call now => some { r with visitors := r.visitors ++ [.arriving now] }
  | .ask => some { r with visitors := r.visitors ++ [.loading (.reading .asked)] }
  | .advance visitor =>
    match r.visitors[visitor]? with
    | some v => if v.isOver then none else some (r.advance visitor v)
    | none => none

/-- Performs actions one after the other, if each is possible in its turn. -/
def run (r : KeyRace) (as : List RaceAction) : Option KeyRace := as.foldlM step r

end KeyRace
end MailPolicy
