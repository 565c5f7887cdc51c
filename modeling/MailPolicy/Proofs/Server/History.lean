/-
What a connection is told.

A run of a server is a list of actions, and the history of a connection are those that concern it:
octets arrive until what is read is settled or the time is up, then an engine is leased, decides if
there is a request, and words the reply.  What has been sent on the connection follows from its
history, however the actions of others and the installation of engines come in between.

* `Server.history`, `Server.readIn`, `Server.outcomes` — what happened on a connection in a run,
  what was read on it and how its request was decided;
* `Answer`, `Answer.Fits`, `Responses.Writes` — the four answers, the outcomes that call for each and
  the text of each;
* `Server.Replied` — the four ways to a reply, an empty one included;
* `Server.Recorded`, `Server.along_of_run` — where a connection stands is what its history says;
* `Server.sentIn_eq` — all that was sent on a connection is its one reply;
* `Server.Reachable.exists_reply` — every connection can come to its reply without its peer.
-/
import Mathlib.Data.List.Induction
import MailPolicy.Proofs.Server.Swap

namespace MailPolicy

namespace ServerAction

variable {α : Type}

/-- The connection that an action concerns. -/
def connection? : ServerAction α → Option Nat
  | receive c _ | finish c | expire c _ | lease c | decide c _ | answer c => some c
  | drop c | notify c | leave c => some c
  | _ => none

def octets : ServerAction α → List UInt8
  | receive _ octets => octets
  | _ => []

def isFinish : ServerAction α → Bool
  | finish _ => true
  | _ => false

/-- Whether an action is one of a peer. -/
def isPeers : ServerAction α → Bool
  | receive _ _ | finish _ => true
  | _ => false

def outcome? : ServerAction α → Option (Except Fault (Decision α))
  | decide _ outcome => some outcome
  | _ => none

def instant? : ServerAction α → Option Nat
  | accept now => some now
  | _ => none

end ServerAction

/-- How far a connection is from its reply. -/
def Connection.rank {α : Type} : Connection α → Nat
  | reading _ _ _ => 3
  | leased _ _ _ => 2
  | decided _ _ _ => 1
  | _ => 0

/-! ### Answers -/

/-- What a peer can be told. -/
inductive Answer where
  | allow
  | delay
  | block
  | error

/-- The answer that an outcome calls for: that of the verdict, and an error where there is none. -/
inductive Answer.Fits {α : Type} : Answer → Except Fault (Decision α) → Prop
  | allow (total : α) (stagesRun : Nat) : Fits .allow (.ok ⟨.allow, total, stagesRun⟩)
  | delay (total : α) (stagesRun : Nat) : Fits .delay (.ok ⟨.delay, total, stagesRun⟩)
  | block (total : α) (stagesRun : Nat) : Fits .block (.ok ⟨.block, total, stagesRun⟩)
  | error (f : Fault) : Fits .error (.error f)

/-- The text of an answer: a line with the action for it, and a blank line. -/
inductive Responses.Writes (w : Responses) : Answer → Text → Prop
  | allow : Writes w .allow ("action=".toList ++ w.allow ++ ['\n', '\n'])
  | delay : Writes w .delay ("action=".toList ++ w.delay ++ ['\n', '\n'])
  | block : Writes w .block ("action=".toList ++ w.block ++ ['\n', '\n'])
  | error : Writes w .error ("action=".toList ++ w.error ++ ['\n', '\n'])

section
variable {α : Type} {answer : Answer} {outcome : Except Fault (Decision α)} {w : Responses}
  {reply : Text}

/-- Every outcome calls for an answer. -/
theorem Answer.exists_fits (outcome : Except Fault (Decision α)) :
    ∃ answer : Answer, answer.Fits outcome := by
  rcases outcome with f | ⟨_ | _ | _, total, stagesRun⟩
  · exact ⟨_, .error f⟩
  · exact ⟨_, .allow total stagesRun⟩
  · exact ⟨_, .delay total stagesRun⟩
  · exact ⟨_, .block total stagesRun⟩

theorem Answer.Fits.eq_error_iff (h : answer.Fits outcome) :
    answer = .error ↔ ∃ f, outcome = .error f := by
  cases h <;> simp

/-- What is sent on an outcome is the text of the answer that it calls for. -/
theorem Answer.Fits.writes (h : answer.Fits outcome) (w : Responses) :
    w.Writes answer (Wire.reply (w.answer outcome)) := by
  cases h with
  | allow total stagesRun => exact .allow
  | delay total stagesRun => exact .delay
  | block total stagesRun => exact .block
  | error f => exact .error

theorem Responses.Writes.exists_action (h : w.Writes answer reply) :
    ∃ action, reply = "action=".toList ++ action ++ ['\n', '\n'] := by
  cases h with
  | allow => exact ⟨w.allow, rfl⟩
  | delay => exact ⟨w.delay, rfl⟩
  | block => exact ⟨w.block, rfl⟩
  | error => exact ⟨w.error, rfl⟩

theorem Responses.Writes.ne_nil (h : w.Writes answer reply) : reply ≠ [] := by
  obtain ⟨action, rfl⟩ := h.exists_action
  exact List.append_ne_nil_of_right_ne_nil _ nofun

end

namespace Server

variable {α : Type} {s t u : Server α} {a : ServerAction α} {as : List (ServerAction α)}
  {connection engine : Nat} {settings : ServerSettings} {responses : Responses}

/-! ### Runs -/

/-- Performs actions one after the other, if each is possible in its turn. -/
def run (s : Server α) (as : List (ServerAction α)) : Option (Server α) := as.foldlM step s

theorem run_concat_iff :
    s.run (as ++ [a]) = some u ↔ ∃ t, s.run as = some t ∧ t.step a = some u := by
  rw [run, List.foldlM_append, ← run, Option.bind_eq_bind, Option.bind_eq_some_iff]
  simp only [List.foldlM_cons, List.foldlM_nil, bind_pure]

/-- What happened on a connection, of all that happened. -/
def history (as : List (ServerAction α)) (connection : Nat) : List (ServerAction α) :=
  as.filter (·.connection? == some connection)

def received (as : List (ServerAction α)) (connection : Nat) : List UInt8 :=
  (history as connection).flatMap ServerAction.octets

def isFinished (as : List (ServerAction α)) (connection : Nat) : Bool :=
  (history as connection).any ServerAction.isFinish

/-- What was read on a connection, if that is settled. -/
def readIn (as : List (ServerAction α)) (connection : Nat) : Option Reading :=
  Wire.readArrived? (received as connection) (isFinished as connection)

/-- The outcomes that an engine came to for a connection. -/
def outcomes (as : List (ServerAction α)) (connection : Nat) : List (Except Fault (Decision α)) :=
  (history as connection).filterMap ServerAction.outcome?

/-- The instants at which connections were accepted, by number. -/
def instants (as : List (ServerAction α)) : List Nat := as.filterMap ServerAction.instant?

/-- What was sent on a connection, once that is settled. -/
def reply? (s : Server α) (connection : Nat) : Option Text :=
  s.connections[connection]?.bind (·.reply?)

/-- What an action sends on a connection when it leads to the server `t`. -/
def sentBy (t : Server α) (connection : Nat) : ServerAction α → Text
  | .answer c => if c = connection then (t.reply? c).getD [] else []
  | _ => []

/-- All that is sent on a connection while actions are performed. -/
def sentIn (connection : Nat) (s : Server α) : List (ServerAction α) → Text
  | [] => []
  | a :: rest =>
    match s.step a with
    | some t => t.sentBy connection a ++ sentIn connection t rest
    | none => []

theorem sentIn_concat (h : s.run as = some t) (hstep : t.step a = some u) :
    sentIn connection s (as ++ [a]) = sentIn connection s as ++ u.sentBy connection a := by
  induction as generalizing s with
  | nil =>
    cases h
    simp [sentIn, hstep]
  | cons b rest ih =>
    rw [run, List.foldlM_cons] at h
    obtain ⟨v, hv, hrest⟩ := Option.bind_eq_some_iff.mp h
    rw [List.cons_append, sentIn, sentIn, hv]
    dsimp only
    rw [ih hrest, List.append_assoc]

/-! ### One more action -/

theorem history_concat_of_ne (as : List (ServerAction α)) (h : a.connection? ≠ some connection) :
    history (as ++ [a]) connection = history as connection := by
  simp [history, List.filter_append, h]

theorem history_concat (as : List (ServerAction α)) (h : a.connection? = some connection) :
    history (as ++ [a]) connection = history as connection ++ [a] := by
  simp [history, List.filter_append, h]

theorem received_concat (as : List (ServerAction α)) (h : a.connection? = some connection) :
    received (as ++ [a]) connection = received as connection ++ a.octets := by
  rw [received, history_concat as h, List.flatMap_append, List.flatMap_singleton, ← received]

theorem isFinished_concat (as : List (ServerAction α)) (h : a.connection? = some connection) :
    isFinished (as ++ [a]) connection = (isFinished as connection || a.isFinish) := by
  rw [isFinished, history_concat as h, List.any_append, ← isFinished]
  simp

theorem outcomes_concat (as : List (ServerAction α)) (h : a.connection? = some connection) :
    outcomes (as ++ [a]) connection = outcomes as connection ++ a.outcome?.toList := by
  rw [outcomes, history_concat as h, List.filterMap_append, ← outcomes]
  cases ha : a.outcome? <;> simp [ha]

/-- An action that is not one of the peer changes nothing in what is read. -/
theorem readIn_concat (as : List (ServerAction α))
    (h : a.connection? = some connection → a.isPeers = false) :
    received (as ++ [a]) connection = received as connection ∧
      isFinished (as ++ [a]) connection = isFinished as connection ∧
      readIn (as ++ [a]) connection = readIn as connection := by
  have hsame : received (as ++ [a]) connection = received as connection ∧
      isFinished (as ++ [a]) connection = isFinished as connection := by
    by_cases ha : a.connection? = some connection
    · rw [received_concat as ha, isFinished_concat as ha]
      have hpeer := h ha
      cases a with
      | receive | finish => cases hpeer
      | _ => exact ⟨List.append_nil _, Bool.or_false _⟩
    · rw [received, isFinished, history_concat_of_ne as ha]
      exact ⟨rfl, rfl⟩
  refine ⟨hsame.1, hsame.2, ?_⟩
  rw [readIn, hsame.1, hsame.2, readIn]

/-- An action that decides nothing for a connection adds no outcome to it. -/
theorem outcomes_concat_of_none (as : List (ServerAction α))
    (h : a.connection? = some connection → a.outcome? = none) :
    outcomes (as ++ [a]) connection = outcomes as connection := by
  by_cases ha : a.connection? = some connection
  · rw [outcomes_concat as ha, h ha]
    exact List.append_nil _
  · rw [outcomes, history_concat_of_ne as ha, outcomes]

/-! ### The way to a reply -/

/-- Whether in a run from `start` a connection, once the given reading was settled, leased an
engine, the one installed at that time. -/
structure Leases (start : Server α) (as : List (ServerAction α)) (connection engine : Nat)
    (read : Reading) : Prop where
  readIn_eq : readIn as connection = some read
  installed : ∃ pre post u, as = pre ++ .lease connection :: post ∧
    readIn pre connection = some read ∧ start.run pre = some u ∧ u.succession.installed = engine

/-- The ways in which a connection comes to its reply in a run from `start` to `s`, each with the
answer that is given if there is one. -/
inductive Replied (start : Server α) (as : List (ServerAction α)) (s : Server α)
    (connection : Nat) : Option Answer → Text → Prop
  /-- The time for reading was up before anything was settled; instants are in milliseconds. -/
  | late (accepted now : Nat) : (instants as)[connection]? = some accepted →
      .expire connection now ∈ as → accepted + start.settings.readTimeout * 1000 ≤ now →
      readIn as connection = none → outcomes as connection = [] →
      Replied start as s connection none []
  /-- The peer was done and had sent no request. -/
  | silent (engine : Nat) : Leases start as connection engine (.ok none) →
      outcomes as connection = [] → Replied start as s connection none []
  /-- Reading failed, and nothing was decided. -/
  | unreadable (engine : Nat) (e : Wire.ReadError) (w : Responses) {reply : Text} :
      Leases start as connection engine (.error e) → outcomes as connection = [] →
      s.responses[engine]? = some w → w.Writes .error reply →
      Replied start as s connection (some .error) reply
  /-- The engine came to an outcome, and to no other. -/
  | decided (engine : Nat) (r : Request) (outcome : Except Fault (Decision α)) (w : Responses)
      {answer : Answer} {reply : Text} : Leases start as connection engine (.ok (some r)) →
      outcomes as connection = [outcome] → answer.Fits outcome → s.responses[engine]? = some w →
      w.Writes answer reply → Replied start as s connection (some answer) reply

/-- Whether a connection stands where its history says. -/
def Recorded (start : Server α) (as : List (ServerAction α)) (s : Server α) (connection : Nat) :
    Connection α → Prop
  | .reading arrived ended due => arrived = received as connection ∧
      ended = isFinished as connection ∧ outcomes as connection = [] ∧
      ∃ accepted, (instants as)[connection]? = some accepted ∧ due = accepted + start.patience
  | .leased _ engine read => Leases start as connection engine read ∧ outcomes as connection = [] ∧
      engine < s.responses.length
  | .decided _ engine outcome => (∃ r, Leases start as connection engine (.ok (some r))) ∧
      outcomes as connection = [outcome] ∧ engine < s.responses.length
  | .answered _ reply | .released _ reply | .leaving reply | .gone reply =>
      ∃ answer, Replied start as s connection answer reply

/-- What a run from `start` has led to, connection by connection. -/
structure Along (start : Server α) (as : List (ServerAction α)) (s : Server α) : Prop where
  run_eq : start.run as = some s
  settings_eq : s.settings = start.settings
  length_responses : s.responses.length = s.succession.installed + 1
  length_instants : (instants as).length = s.connections.length
  lt_length : ∀ a ∈ as, ∀ c, a.connection? = some c → c < s.connections.length
  recorded : ∀ (c : Nat) x, s.connections[c]? = some x → Recorded start as s c x

/-! ### What an action leaves alone -/

theorem Happens.settings_eq (h : Happens s a t) : t.settings = s.settings := by
  cases h <;> rfl

theorem Happens.responses_grow (h : Happens s a t) : s.responses <+: t.responses := by
  cases h with
  | install responses => exact List.prefix_append s.responses [responses]
  | _ => exact List.prefix_refl s.responses

theorem Happens.length_responses (h : Happens s a t)
    (hs : s.responses.length = s.succession.installed + 1) :
    t.responses.length = t.succession.installed + 1 := by
  cases ha : a.installs with
  | true =>
    cases h with
    | install responses =>
      show (s.responses ++ [responses]).length = s.succession.installed + 1 + 1
      rw [List.length_append, hs]
      rfl
    | _ => cases ha
  | false =>
    rw [h.installed_eq ha, ← hs]
    cases h with
    | install => cases ha
    | _ => rfl

theorem Happens.length_connections (h : Happens s a t) :
    t.connections.length = s.connections.length + a.instant?.toList.length := by
  cases h with
  | accept now gate => exact List.length_append ..
  | receive _ _ _ _ _ | finish _ _ _ _ | expire _ _ _ _ _ _ _ _ | lease _ _ _ _ _ _ _ =>
    exact List.length_set ..
  | decide _ _ _ _ _ _ | answerNone _ _ _ _ | answerError _ _ _ _ _ | answer _ _ _ _ _ =>
    exact List.length_set ..
  | drop _ _ _ _ _ _ | notify _ _ _ _ _ _ | leave _ _ _ => exact List.length_set ..
  | install _ | retire _ _ _ _ | stop _ _ | close _ _ _ | giveUp _ _ _ _ => rfl

theorem Happens.lt_length (h : Happens s a t) (ha : a.connection? = some connection) :
    connection < s.connections.length := by
  have hlt {c : Nat} {x : Connection α} (hx : s.connections[c]? = some x)
      (hc : (some c : Option Nat) = some connection) : connection < s.connections.length := by
    cases hc
    exact (List.getElem?_eq_some_iff.mp hx).1
  cases h with
  | receive _ _ _ _ hx | finish _ _ _ hx | expire _ _ _ _ _ hx => exact hlt hx ha
  | lease _ _ _ _ _ hx | decide _ _ _ _ _ hx | answerNone _ _ _ hx | answerError _ _ _ _ hx | answer _ _ _ _ hx =>
    exact hlt hx ha
  | drop _ _ _ _ hx | notify _ _ _ _ hx | leave _ _ hx => exact hlt hx ha
  | accept _ _ _ _ | install _ | retire _ _ _ _ | stop _ _ | close _ _ _ | giveUp _ _ _ _ => cases ha

theorem Happens.getElem?_eq (h : Happens s a t) (ha : a.connection? ≠ some connection)
    (hlt : connection < s.connections.length) :
    t.connections[connection]? = s.connections[connection]? := by
  have hother {c : Nat} {y : Connection α} (hc : some c ≠ some connection) :
      (s.connections.set c y)[connection]? = s.connections[connection]? :=
    List.getElem?_set_ne fun heq => hc (congrArg some heq)
  cases h with
  | accept now gate => exact List.getElem?_append_left hlt
  | receive _ _ _ _ _ | finish _ _ _ _ | expire _ _ _ _ _ _ _ _ => exact hother ha
  | lease _ _ _ _ _ _ _ | decide _ _ _ _ _ _ | answerNone _ _ _ _ | answerError _ _ _ _ _ | answer _ _ _ _ _ =>
    exact hother ha
  | drop _ _ _ _ _ _ | notify _ _ _ _ _ _ | leave _ _ _ => exact hother ha
  | install _ | retire _ _ _ _ | stop _ _ | close _ _ _ | giveUp _ _ _ _ => rfl

/-- A connection that was not there before was accepted just now. -/
theorem Happens.exists_accept (h : Happens s a t) (hge : s.connections.length ≤ connection)
    {y : Connection α} (hy : t.connections[connection]? = some y) :
    ∃ now, a = .accept now ∧ connection = s.connections.length ∧
      y = .reading [] false (now + s.patience) := by
  have hlength := h.length_connections
  have hlt := (List.getElem?_eq_some_iff.mp hy).1
  have hpos : 0 < a.instant?.toList.length := by omega
  cases h with
  | accept now gate _ _ =>
    have heq : connection = s.connections.length := by
      simp only [List.length_append, List.length_singleton] at hlt
      omega
    subst heq
    exact ⟨now, rfl, rfl, Option.some.inj (hy.symm.trans List.getElem?_concat_length)⟩
  | _ => exact absurd hpos (Nat.lt_irrefl 0)

/-! ### What a history keeps -/

variable {start : Server α} {read : Reading} {answer : Option Answer} {reply : Text}

theorem getElem?_of_grown {β : Type} {l m : List β} {i : Nat} {x : β} (h : l <+: m)
    (hx : l[i]? = some x) : m[i]? = some x := by
  obtain ⟨rest, rfl⟩ := h
  rw [List.getElem?_append_left (List.getElem?_eq_some_iff.mp hx).1]
  exact hx

theorem instants_concat (as : List (ServerAction α)) (a : ServerAction α) :
    instants (as ++ [a]) = instants as ++ a.instant?.toList := by
  unfold instants
  rw [List.filterMap_append]
  cases ha : a.instant? <;> simp [ha]

theorem instants_grow (as : List (ServerAction α)) (a : ServerAction α) :
    instants as <+: instants (as ++ [a]) := by
  rw [instants_concat]
  exact List.prefix_append ..

theorem Leases.concat (h : Leases start as connection engine read)
    (ha : a.connection? = some connection → a.isPeers = false) :
    Leases start (as ++ [a]) connection engine read where
  readIn_eq := (readIn_concat as ha).2.2.trans h.readIn_eq
  installed := by
    obtain ⟨pre, post, u, rfl, hread, hu, hengine⟩ := h.installed
    exact ⟨pre, post ++ [a], u, by simp, hread, hu, hengine⟩

theorem Replied.concat (h : Replied start as s connection answer reply)
    (ha : a.connection? = some connection → a.isPeers = false ∧ a.outcome? = none)
    (hresponses : s.responses <+: t.responses) :
    Replied start (as ++ [a]) t connection answer reply := by
  have hpeers := fun hc => (ha hc).1
  have houtcomes : outcomes (as ++ [a]) connection = outcomes as connection :=
    outcomes_concat_of_none as fun hc => (ha hc).2
  cases h with
  | late accepted now haccepted hexpire hdue hread hnone =>
    refine .late accepted now (getElem?_of_grown (instants_grow as a) haccepted)
      (List.mem_append_left _ hexpire) hdue ?_ (houtcomes.trans hnone)
    rw [(readIn_concat as hpeers).2.2]
    exact hread
  | silent engine hleased hnone =>
    exact .silent engine (hleased.concat hpeers) (houtcomes.trans hnone)
  | unreadable engine e w hleased hnone hw hwrites =>
    exact .unreadable engine e w (hleased.concat hpeers) (houtcomes.trans hnone)
      (getElem?_of_grown hresponses hw) hwrites
  | decided engine r outcome w hleased hone hfits hw hwrites =>
    exact .decided engine r outcome w (hleased.concat hpeers) (houtcomes.trans hone) hfits
      (getElem?_of_grown hresponses hw) hwrites

theorem Recorded.concat {x : Connection α} (h : Recorded start as s connection x)
    (ha : a.connection? ≠ some connection) (hresponses : s.responses <+: t.responses) :
    Recorded start (as ++ [a]) t connection x := by
  obtain ⟨hreceived, hfinished, -⟩ :=
    readIn_concat as fun hc : a.connection? = some connection => absurd hc ha
  have houtcomes : outcomes (as ++ [a]) connection = outcomes as connection :=
    outcomes_concat_of_none as fun hc => absurd hc ha
  have hlength := hresponses.length_le
  cases x with
  | reading arrived ended due =>
    obtain ⟨harrived, hended, hnone, accepted, haccepted, hdue⟩ := h
    have hkept := getElem?_of_grown (instants_grow as a) haccepted
    exact ⟨harrived.trans hreceived.symm, hended.trans hfinished.symm, houtcomes.trans hnone,
      accepted, hkept, hdue⟩
  | leased lease engine read =>
    obtain ⟨hleased, hnone, hengine⟩ := h
    exact ⟨hleased.concat fun hc => absurd hc ha, houtcomes.trans hnone,
      Nat.lt_of_lt_of_le hengine hlength⟩
  | decided lease engine outcome =>
    obtain ⟨⟨r, hleased⟩, hone, hengine⟩ := h
    exact ⟨⟨r, hleased.concat fun hc => absurd hc ha⟩, houtcomes.trans hone,
      Nat.lt_of_lt_of_le hengine hlength⟩
  | answered _ _ | released _ _ | leaving _ | gone _ =>
    obtain ⟨answer, hreplied⟩ := h
    exact ⟨answer, hreplied.concat (fun hc => absurd hc ha) hresponses⟩

/-! ### One step -/

theorem wording_eq {n : Nat} (h : n < s.responses.length) :
    s.responses[n]? = some (s.wording n) := by
  rw [wording, List.getElem?_eq_getElem h]
  rfl

/-- A connection that goes on stands where its history says. -/
theorem Along.recorded_self (h : Along start as s) (hstep : s.step a = some t)
    (ha : a.connection? = some connection) {y : Connection α}
    (hy : t.connections[connection]? = some y) :
    Recorded start (as ++ [a]) t connection y := by
  have hhappens := happens_of_step hstep
  have hgrow := hhappens.responses_grow
  have hlt := hhappens.lt_length ha
  have hundecided (hnone : outcomes as connection = []) (houtcome : a.outcome? = none) :
      outcomes (as ++ [a]) connection = [] :=
    (outcomes_concat_of_none as fun _ => houtcome).trans hnone
  -- The connection is where the step puts it.
  have hset {x z : Connection α} (hz : (s.connections.set connection z)[connection]? = some y) :
      z = y := by
    rw [List.getElem?_set_self hlt] at hz
    exact Option.some.inj hz
  cases hhappens with
  | receive c octets arrived due hx =>
    cases ha
    obtain rfl := hset (x := .reading arrived false due) hy
    obtain ⟨harrived, hended, hnone, accepted, haccepted, hdue⟩ := h.recorded connection _ hx
    refine ⟨?_, ?_, hundecided hnone rfl, accepted,
      getElem?_of_grown (instants_grow as _) haccepted, hdue⟩
    · rw [received_concat as rfl, harrived]
      rfl
    · rw [isFinished_concat as rfl, ← hended]
      rfl
  | finish c arrived due hx =>
    cases ha
    obtain rfl := hset (x := .reading arrived false due) hy
    obtain ⟨harrived, hended, hnone, accepted, haccepted, hdue⟩ := h.recorded connection _ hx
    refine ⟨?_, ?_, hundecided hnone rfl, accepted,
      getElem?_of_grown (instants_grow as _) haccepted, hdue⟩
    · rw [received_concat as rfl, harrived]
      exact (List.append_nil _).symm
    · rw [isFinished_concat as rfl]
      exact (Bool.or_true _).symm
  | expire c now arrived ended due hx hdue hread =>
    cases ha
    obtain rfl := hset (x := .reading arrived ended due) hy
    obtain ⟨harrived, hended, hnone, accepted, haccepted, heq⟩ := h.recorded connection _ hx
    refine ⟨none, .late accepted now (getElem?_of_grown (instants_grow as _) haccepted)
      (List.mem_append_right as List.mem_cons_self) (heq ▸ hdue) ?_ (hundecided hnone rfl)⟩
    rw [(readIn_concat as fun _ => rfl).2.2, readIn, ← harrived, ← hended]
    exact hread
  | lease c arrived ended due read hx hread =>
    cases ha
    obtain rfl := hset (x := .reading arrived ended due) hy
    obtain ⟨harrived, hended, hnone, -⟩ := h.recorded connection _ hx
    have hbefore : readIn as connection = some read := by
      rw [readIn, ← harrived, ← hended]
      exact hread
    refine ⟨⟨?_, as, [], s, rfl, hbefore, h.run_eq, rfl⟩, hundecided hnone rfl, ?_⟩
    · exact (readIn_concat as fun _ => rfl).2.2.trans hbefore
    · show s.succession.installed < s.responses.length
      rw [h.length_responses]
      exact Nat.lt_succ_self _
  | decide c lease engine r outcome hx =>
    cases ha
    obtain rfl := hset (x := .leased lease engine (.ok (some r))) hy
    obtain ⟨hleased, hnone, hengine⟩ := h.recorded connection _ hx
    refine ⟨⟨r, hleased.concat fun _ => rfl⟩, ?_, hengine⟩
    rw [outcomes_concat as rfl, hnone]
    rfl
  | answerNone c lease engine hx =>
    cases ha
    obtain rfl := hset (x := .leased lease engine (.ok none)) hy
    obtain ⟨hleased, hnone, -⟩ := h.recorded connection _ hx
    exact ⟨none, .silent engine (hleased.concat fun _ => rfl) (hundecided hnone rfl)⟩
  | answerError c lease engine e hx =>
    cases ha
    obtain rfl := hset (x := .leased lease engine (.error e)) hy
    obtain ⟨hleased, hnone, hengine⟩ := h.recorded connection _ hx
    have hfits : Answer.error.Fits (.error e.fault : Except Fault (Decision α)) := .error e.fault
    exact ⟨some .error, .unreadable engine e _ (hleased.concat fun _ => rfl) (hundecided hnone rfl)
      (wording_eq hengine) (hfits.writes _)⟩
  | answer c lease engine outcome hx =>
    cases ha
    obtain rfl := hset (x := .decided lease engine outcome) hy
    obtain ⟨⟨r, hleased⟩, hone, hengine⟩ := h.recorded connection _ hx
    obtain ⟨answer, hfits⟩ := Answer.exists_fits outcome
    refine ⟨some answer, .decided engine r outcome _ (hleased.concat fun _ => rfl) ?_ hfits
      (wording_eq hengine) (hfits.writes _)⟩
    rw [outcomes_concat as rfl, hone]
    rfl
  | drop c lease reply succession hx _ =>
    cases ha
    obtain rfl := hset (x := .answered lease reply) hy
    obtain ⟨answer, hreplied⟩ := h.recorded connection _ hx
    exact ⟨answer, hreplied.concat (fun _ => ⟨rfl, rfl⟩) hgrow⟩
  | notify c lease reply succession hx _ =>
    cases ha
    obtain rfl := hset (x := .released lease reply) hy
    obtain ⟨answer, hreplied⟩ := h.recorded connection _ hx
    exact ⟨answer, hreplied.concat (fun _ => ⟨rfl, rfl⟩) hgrow⟩
  | leave c reply hx =>
    cases ha
    obtain rfl := hset (x := .leaving reply) hy
    obtain ⟨answer, hreplied⟩ := h.recorded connection _ hx
    exact ⟨answer, hreplied.concat (fun _ => ⟨rfl, rfl⟩) hgrow⟩
  | accept _ _ _ _ | install _ | retire _ _ _ _ | stop _ _ | close _ _ _ | giveUp _ _ _ _ => cases ha

theorem Along.history_eq_nil (h : Along start as s) (hge : s.connections.length ≤ connection) :
    history as connection = [] := by
  refine List.filter_eq_nil_iff.mpr fun a ha hc => ?_
  exact absurd (h.lt_length a ha connection (beq_iff_eq.mp hc)) (Nat.not_lt.mpr hge)

theorem Along.recorded_new (h : Along start as s) (hstep : s.step a = some t)
    (hge : s.connections.length ≤ connection) {y : Connection α}
    (hy : t.connections[connection]? = some y) : Recorded start (as ++ [a]) t connection y := by
  obtain ⟨now, rfl, rfl, rfl⟩ := (happens_of_step hstep).exists_accept hge hy
  have hnone := h.history_eq_nil hge
  have hhistory : history (as ++ [.accept now]) s.connections.length = [] := by
    refine (history_concat_of_ne as ?_).trans hnone
    intro heq
    cases heq
  refine ⟨?_, ?_, ?_, now, ?_, ?_⟩
  · rw [received, hhistory]
    rfl
  · rw [isFinished, hhistory]
    rfl
  · rw [outcomes, hhistory]
    rfl
  · rw [instants_concat, ← h.length_instants]
    exact List.getElem?_concat_length
  · rw [patience, patience, h.settings_eq]

theorem Along.step (h : Along start as s) (hstep : s.step a = some t) :
    Along start (as ++ [a]) t := by
  have hhappens := happens_of_step hstep
  have hlength := hhappens.length_connections
  refine ⟨run_concat_iff.mpr ⟨s, h.run_eq, hstep⟩, hhappens.settings_eq.trans h.settings_eq,
    hhappens.length_responses h.length_responses, ?_, ?_, ?_⟩
  · rw [instants_concat, List.length_append, h.length_instants, hlength]
  · intro b hb c hc
    rw [hlength]
    rcases List.mem_append.mp hb with hb | hb
    · exact Nat.lt_add_right _ (h.lt_length b hb c hc)
    · obtain rfl := List.mem_singleton.mp hb
      exact Nat.lt_add_right _ (hhappens.lt_length hc)
  · intro c y hy
    by_cases ha : a.connection? = some c
    · exact h.recorded_self hstep ha hy
    · by_cases hlt : c < s.connections.length
      · rw [hhappens.getElem?_eq ha hlt] at hy
        exact (h.recorded c y hy).concat ha hhappens.responses_grow
      · exact h.recorded_new hstep (Nat.le_of_not_lt hlt) hy

/-! ### Runs from the start -/

theorem along_start (h : make? settings responses = some start) : Along start [] start := by
  obtain ⟨hsuccession, hnone⟩ := make?_eq h
  refine ⟨rfl, rfl, ?_, ?_, nofun, ?_⟩
  · obtain ⟨gate, -, rfl⟩ := Option.map_eq_some_iff.mp h
    rfl
  · rw [hnone]
    rfl
  · intro c x hx
    rw [hnone] at hx
    cases hx

/-- **Where a connection stands is what its history says.** -/
theorem along_of_run (h : make? settings responses = some start) (hrun : start.run as = some s) :
    Along start as s := by
  induction as using List.reverseRecOn generalizing s with
  | nil => exact Option.some.inj hrun ▸ along_start h
  | append_singleton as a ih =>
    obtain ⟨t, ht, hstep⟩ := run_concat_iff.mp hrun
    exact (ih ht).step hstep

theorem Along.replied (h : Along start as s) (hreply : s.reply? connection = some reply) :
    ∃ answer, Replied start as s connection answer reply := by
  obtain ⟨x, hx, hxreply⟩ := Option.bind_eq_some_iff.mp hreply
  have hrecorded := h.recorded connection x hx
  cases x with
  | answered _ _ | released _ _ | leaving _ | gone _ =>
    cases hxreply
    exact hrecorded
  | reading _ _ _ | leased _ _ _ | decided _ _ _ => cases hxreply

theorem reachable_of_run (h : make? settings responses = some start)
    (hrun : start.run as = some s) : s.Reachable settings responses := by
  induction as using List.reverseRecOn generalizing s with
  | nil => exact Option.some.inj hrun ▸ .start h
  | append_singleton as a ih =>
    obtain ⟨t, ht, hstep⟩ := run_concat_iff.mp hrun
    exact .step a (ih ht) hstep

theorem Reachable.exists_run (h : s.Reachable settings responses) :
    ∃ start as, make? settings responses = some start ∧ start.run as = some s := by
  induction h with
  | start hmake => exact ⟨_, [], hmake, rfl⟩
  | step a _ hstep ih =>
    obtain ⟨start, as, hmake, hrun⟩ := ih
    exact ⟨start, as ++ [a], hmake, run_concat_iff.mpr ⟨_, hrun, hstep⟩⟩

/-! ### What is sent -/

theorem reply?_eq {x : Connection α} (hx : s.connections[connection]? = some x) :
    s.reply? connection = x.reply? := by
  rw [reply?, hx]
  rfl

theorem sentBy_of_ne (t : Server α) (ha : a.connection? ≠ some connection) :
    t.sentBy connection a = [] := by
  cases a with
  | answer c => exact if_neg fun heq => ha (congrArg some heq)
  | _ => rfl

theorem Happens.sentBy_eq (h : Happens s a t) (connection : Nat) :
    (t.reply? connection).getD [] = (s.reply? connection).getD [] ++ t.sentBy connection a ∧
      ∀ reply, s.reply? connection = some reply → t.reply? connection = some reply := by
  by_cases ha : a.connection? = some connection
  · have hlt := h.lt_length ha
    have hset {x y : Connection α} (hx : s.connections[connection]? = some x)
        (ht : t.connections = s.connections.set connection y) :
        s.reply? connection = x.reply? ∧ t.reply? connection = y.reply? := by
      refine ⟨reply?_eq hx, reply?_eq ?_⟩
      rw [ht, List.getElem?_set_self hlt]
    cases h with
    | receive c _ _ _ hx | finish c _ _ hx | lease c _ _ _ _ hx | decide c _ _ _ _ hx =>
      cases ha
      obtain ⟨hs, ht⟩ := hset hx rfl
      rw [hs, ht]
      exact ⟨rfl, nofun⟩
    | expire c _ _ _ _ hx =>
      cases ha
      obtain ⟨hs, ht⟩ := hset hx rfl
      rw [hs, ht]
      exact ⟨rfl, nofun⟩
    | answerNone c _ _ hx | answerError c _ _ _ hx | answer c _ _ _ hx =>
      cases ha
      obtain ⟨hs, ht⟩ := hset hx rfl
      refine ⟨?_, ?_⟩
      · rw [hs, sentBy, if_pos rfl]
        rfl
      · rw [hs]
        nofun
    | drop c _ _ _ hx | notify c _ _ _ hx | leave c _ hx =>
      cases ha
      obtain ⟨hs, ht⟩ := hset hx rfl
      rw [hs, ht]
      exact ⟨(List.append_nil _).symm, fun _ => id⟩
    | accept _ _ _ _ | install _ | retire _ _ _ _ | stop _ _ | close _ _ _ | giveUp _ _ _ _ => cases ha
  · have hsame : t.reply? connection = s.reply? connection := by
      by_cases hlt : connection < s.connections.length
      · rw [reply?, h.getElem?_eq ha hlt, reply?]
      · have hge := Nat.le_of_not_lt hlt
        rw [reply?, reply?, List.getElem?_eq_none hge]
        cases hy : t.connections[connection]? with
        | none => rfl
        | some y =>
          obtain ⟨now, -, -, rfl⟩ := h.exists_accept hge hy
          rfl
    rw [sentBy_of_ne t ha, List.append_nil, hsame]
    exact ⟨rfl, fun _ => id⟩

/-- All that was sent on a connection is its reply. -/
theorem sentIn_eq (h : make? settings responses = some start) (hrun : start.run as = some s) :
    sentIn connection start as = (s.reply? connection).getD [] := by
  induction as using List.reverseRecOn generalizing s with
  | nil =>
    cases hrun
    rw [reply?, (make?_eq h).2]
    rfl
  | append_singleton as a ih =>
    obtain ⟨t, ht, hstep⟩ := run_concat_iff.mp hrun
    rw [sentIn_concat ht hstep, ih ht, ((happens_of_step hstep).sentBy_eq connection).1]

theorem Leads.reply?_eq (h : s.Leads t) (hreply : s.reply? connection = some reply) :
    t.reply? connection = some reply := by
  induction h with
  | refl => exact hreply
  | step a _ hstep ih => exact ((happens_of_step hstep).sentBy_eq connection).2 reply ih

/-- Whether an answer and its text are what the history of a connection calls for: nothing or one
block, nothing exactly if no request came, and an error exactly if reading failed or the engine. -/
structure Apt (as : List (ServerAction α)) (connection : Nat) (answer : Option Answer)
    (reply : Text) : Prop where
  block : reply = [] ∨ ∃ action, reply = "action=".toList ++ action ++ ['\n', '\n']
  none_iff : answer = none ↔ reply = []
  empty_iff : reply = [] ↔ readIn as connection = none ∨ readIn as connection = some (.ok none)
  error_iff : answer = some .error ↔ (∃ e, readIn as connection = some (.error e)) ∨
    ∃ f, outcomes as connection = [.error f]

theorem Replied.apt (h : Replied start as s connection answer reply) :
    Apt as connection answer reply := by
  cases h with
  | late accepted now _ _ _ hread hnone =>
    refine ⟨.inl rfl, iff_of_true rfl rfl, iff_of_true rfl (.inl hread), ?_⟩
    simp [hread, hnone]
  | silent engine hleased hnone =>
    refine ⟨.inl rfl, iff_of_true rfl rfl, iff_of_true rfl (.inr hleased.readIn_eq), ?_⟩
    simp [hleased.readIn_eq, hnone]
  | unreadable engine e w hleased hnone _ hwrites =>
    refine ⟨.inr hwrites.exists_action, iff_of_false nofun hwrites.ne_nil,
      iff_of_false hwrites.ne_nil ?_, iff_of_true rfl (.inl ⟨e, hleased.readIn_eq⟩)⟩
    rw [hleased.readIn_eq]
    nofun
  | decided engine r outcome w hleased hone hfits _ hwrites =>
    refine ⟨.inr hwrites.exists_action, iff_of_false nofun hwrites.ne_nil,
      iff_of_false hwrites.ne_nil ?_, ?_⟩
    · rw [hleased.readIn_eq]
      nofun
    · simp [hleased.readIn_eq, hone, hfits.eq_error_iff]

/-! ### The way that is left -/

/-- A connection that has no reply yet can go on without its peer, whatever its engine comes to. -/
theorem Reachable.exists_step (h : s.Reachable settings responses) {x : Connection α}
    (hx : s.connections[connection]? = some x) (hreply : x.reply? = none)
    (outcome : Except Fault (Decision α)) :
    ∃ a t y, a.connection? = some connection ∧ a.isPeers = false ∧
      (a.outcome? = none ∨ a.outcome? = some outcome) ∧ s.step a = some t ∧
      t.connections[connection]? = some y ∧ y.rank < x.rank := by
  suffices hone : ∃ a y, a.connection? = some connection ∧ a.isPeers = false ∧
      (a.outcome? = none ∨ a.outcome? = some outcome) ∧ y.rank < x.rank ∧
      (s.step a).map (·.connections) = some (s.connections.set connection y) by
    obtain ⟨a, y, ha, hpeers, houtcome, hrank, hstep⟩ := hone
    obtain ⟨t, ht, hset⟩ := Option.map_eq_some_iff.mp hstep
    refine ⟨a, t, y, ha, hpeers, houtcome, ht, ?_, hrank⟩
    rw [hset, List.getElem?_set_self (List.getElem?_eq_some_iff.mp hx).1]
  cases x with
  | answered _ _ | released _ _ | leaving _ | gone _ => cases hreply
  | reading arrived ended due =>
    cases hread : Wire.readArrived? arrived ended with
    | none =>
      refine ⟨.expire connection due, .leaving [], rfl, rfl, .inl rfl, Nat.zero_lt_succ 2, ?_⟩
      simp [Server.step, hx, hread, setConnection]
    | some read =>
      refine ⟨.lease connection,
        .leased s.succession.leases.length s.succession.installed read, rfl, rfl, .inl rfl,
        Nat.lt_succ_self 2, ?_⟩
      simp only [Server.step, hx, hread, Succession.step, setConnection, Option.map_some]
  | leased lease engine read =>
    cases read with
    | error e =>
      refine ⟨.answer connection, .answered lease (Wire.reply (s.wording engine).error), rfl, rfl,
        .inl rfl, Nat.zero_lt_two, ?_⟩
      simp only [Server.step, hx, setConnection, Option.map_some, Responses.answer]
    | ok found =>
      cases found with
      | none =>
        refine ⟨.answer connection, .answered lease [], rfl, rfl, .inl rfl, Nat.zero_lt_two, ?_⟩
        simp only [Server.step, hx, setConnection, Option.map_some]
      | some r =>
        have hheld := h.leasing.held connection _ lease engine hx rfl
        refine ⟨.decide connection outcome, .decided lease engine outcome, rfl, rfl, .inr rfl,
          Nat.one_lt_two, ?_⟩
        simp only [Server.step, hx, Succession.step, hheld, setConnection, Option.map_some]
  | decided lease engine outcome' =>
    refine ⟨.answer connection,
      .answered lease (Wire.reply ((s.wording engine).answer outcome')), rfl, rfl, .inl rfl,
      Nat.one_pos, ?_⟩
    simp only [Server.step, hx, setConnection, Option.map_some]

/-- Every connection can come to its reply without its peer, whatever its engine comes to. -/
theorem Reachable.exists_reply (h : s.Reachable settings responses) {x : Connection α}
    (hx : s.connections[connection]? = some x) (outcome : Except Fault (Decision α)) :
    ∃ bs t reply, s.run bs = some t ∧ t.reply? connection = some reply ∧
      ∀ b ∈ bs, b.connection? = some connection ∧ b.isPeers = false ∧
        (b.outcome? = none ∨ b.outcome? = some outcome) := by
  -- Each step takes the connection closer to its reply.
  induction hrank : x.rank using Nat.strongRecOn generalizing s x with
  | ind rank ih =>
    cases hreply : x.reply? with
    | some reply => exact ⟨[], s, reply, rfl, (reply?_eq hx).trans hreply, nofun⟩
    | none =>
      obtain ⟨a, t, y, ha, hpeers, houtcome, hstep, hy, hlt⟩ := h.exists_step hx hreply outcome
      obtain ⟨bs, u, reply, hrun, hu, hbs⟩ := ih y.rank (hrank ▸ hlt) (.step a h hstep) hy rfl
      refine ⟨a :: bs, u, reply, ?_, hu, List.forall_mem_cons.mpr ⟨⟨ha, hpeers, houtcome⟩, hbs⟩⟩
      rw [run, List.foldlM_cons, hstep]
      exact hrun

end Server
end MailPolicy
