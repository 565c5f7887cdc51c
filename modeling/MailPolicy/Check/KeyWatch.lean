/-
The accesses of a check to its file of keys, one at a time.

A load reads the content of the file and asks for its stamp afterwards.  It comes first when the check is
made, later after a comparison of stamps, or when someone asks for it.  Between any two accesses the file may
be replaced, and several loads may be in progress.

* `KeyLoader.advance` is the next access of a load;
* `KeyWatch.step` is what can happen: the file is replaced, a load begins, or a load goes on.
-/
import MailPolicy.Check.KeyFile

namespace MailPolicy

/-- What a load of keys is for. -/
inductive LoadCause where
  /-- A check is made at the instant `now`, with `tracker` to count its failures. -/
  | first (now : Nat) (tracker : Tracker)
  /-- The stamps differed, in a comparison that was taken at the instant `now`. -/
  | moved (now : Nat)
  /-- Someone asked for it. -/
  | asked
deriving DecidableEq, Repr

namespace LoadCause

/-- What the check has after a load for this cause went wrong. -/
def fail (file : Option KeyFile) : LoadCause → Option KeyFile
  | moved now => file.map (·.fail now)
  | _ => file

/-- What the check has after a load for this cause; the first one is what makes it. -/
def record (file : Option KeyFile) (set : KeySet) : LoadCause → Option KeyFile
  | first now tracker => some { set := set, checkedAt := now, tracker := tracker }
  | _ => file.map fun f => { f with set := set }

end LoadCause

/-- Where a load of keys stands. -/
inductive KeyLoader where
  /-- Has taken a comparison at the instant `now` and is about to look up the recorded stamp. -/
  | called (now : Nat)
  /-- Has the recorded stamp and is about to ask for that of the file. -/
  | comparing (now : Nat) (known : Option Stamp)
  /-- About to read the content of the file. -/
  | reading (cause : LoadCause)
  /-- Has the keys and is about to ask for the stamp of the file. -/
  | stamping (cause : LoadCause) (keys : List Text)
  /-- Has keys and stamp and is about to record them. -/
  | recording (cause : LoadCause) (set : KeySet)
  /-- Is over. -/
  | done
deriving DecidableEq, Repr

namespace KeyLoader

/-- The next access of a load while there is the entry `e` under the path: what the check has then, and
where the load stands. -/
def advance (file : Option KeyFile) (e : Entry) : KeyLoader → Option KeyFile × KeyLoader
  | called now => (file, comparing now (file.bind (·.set.stamp)))
  | comparing now known =>
    match e.stamp with
    | .error _ => (file.map (·.fail now), done)
    | .ok stamp => (file, if known = some stamp then done else reading (.moved now))
  | reading cause =>
    match e.read with
    | .error _ => (cause.fail file, done)
    | .ok text => (file, stamping cause (KeySet.parse text))
  | stamping cause keys => (file, recording cause ⟨keys, e.stamp.toOption⟩)
  | recording cause set => (cause.record file set, done)
  | done => (file, done)

/-- The accesses of a load to the given entries, one after the other. -/
def through (file : Option KeyFile) (l : KeyLoader) : List Entry → Option KeyFile × KeyLoader
  | [] => (file, l)
  | e :: rest => (l.advance file e).2.through (l.advance file e).1 rest

end KeyLoader

/-- A file of keys and a check that keeps up with it. -/
structure KeyWatch where
  /-- What is under the path. -/
  entry : Entry
  /-- Every stamp that there ever was under the path. -/
  stamps : List Stamp
  /-- What the check has, once it is made. -/
  file : Option KeyFile
  /-- Every load that ever began, by number. -/
  loaders : List KeyLoader
deriving Repr

/-- What can happen to a file of keys and its check. -/
inductive WatchAction where
  /-- Something else is put under the path. -/
  | replace (e : Entry)
  /-- A look-up takes the next comparison of stamps at the instant `now`. -/
  | claim (now : Nat)
  /-- Someone asks for a reload. -/
  | ask
  /-- A load goes on with its next access. -/
  | advance (loader : Nat)
deriving Repr

namespace KeyWatch

/-- A check is about to be made. -/
def start (e : Entry) (now : Nat) (tracker : Tracker) : KeyWatch where
  entry := e
  stamps := e.stamp.toOption.toList
  file := none
  loaders := [.reading (.first now tracker)]

/-- Whether an entry has a stamp that there never was, or none. -/
def isFresh (w : KeyWatch) (e : Entry) : Bool := e.stamp.toOption.all (· ∉ w.stamps)

/-- The state after an action, if the action is possible. -/
def step (w : KeyWatch) : WatchAction → Option KeyWatch
  | .replace e =>
    if w.isFresh e then some { w with entry := e, stamps := e.stamp.toOption.toList ++ w.stamps } else none
  | .claim now =>
    (w.file.bind (·.take? now)).map fun f =>
      { w with file := some f, loaders := w.loaders ++ [.called now] }
  | .ask => if w.file.isSome then some { w with loaders := w.loaders ++ [.reading .asked] } else none
  | .advance loader =>
    match w.loaders[loader]? with
    | some .done => none
    | some l => some { w with
        file := (l.advance w.file w.entry).1
        loaders := w.loaders.set loader (l.advance w.file w.entry).2 }
    | none => none

/-- Performs actions one after the other, if each is possible in its turn. -/
def run (w : KeyWatch) (as : List WatchAction) : Option KeyWatch := as.foldlM step w

end KeyWatch
end MailPolicy
