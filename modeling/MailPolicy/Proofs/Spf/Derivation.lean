/-
How the evaluation of a sender policy goes, one rule for each way.

The rules follow the evaluation into every policy that it includes or redirects to.  One count of
terms is threaded through all of them; it is compared with the limit before each term that asks
the domain name system, and nothing else holds the evaluation back.  Beside the result a
derivation has the events on its way: look-ups, and the terms that were counted.

* `Spf.cost` — which mechanisms count;
* `Spf.Evaluates` — the rules;
* `Spf.Evaluates.agrees` — what a derivation gives is what `Spf.evaluate` gives;
* `Spf.derivable` — there is a derivation for every policy, whatever it includes;
* `Spf.Verifies`, `Spf.exists_verifies` — the same for a sender and a client.
-/
import MailPolicy.Spf.Evaluation

namespace MailPolicy

/-- Whether a mechanism is the inclusion of another policy. -/
def Mechanism.isInclusion : Mechanism → Bool
  | included _ => true
  | _ => false

namespace Spf

/-- What there is to evaluate. -/
inductive Task where
  /-- The policy of a domain. -/
  | policy (domain : Text)
  /-- What is left of the policy of a domain: directives, and the redirection behind them. -/
  | rest (domain : Text) (directives : List Directive) (redirect : Option Text)

/-- What an evaluation does; `depth` policies are under evaluation around the one that does it. -/
inductive Event where
  | lookup (l : Lookup)
  /-- A mechanism that counts is evaluated. -/
  | mechanism (m : Mechanism) (depth : Nat)
  /-- A redirection is followed, which counts as well. -/
  | redirection (target : Text) (depth : Nat)

namespace Event

def lookup? : Event → Option Lookup
  | lookup l => some l
  | _ => none

/-- Whether a policy is fetched. -/
def isFetch : Event → Bool
  | lookup l => l.kind == .txt
  | _ => false

/-- Whether a term is counted. -/
def isTerm : Event → Bool
  | lookup _ => false
  | _ => true

def depth : Event → Nat
  | lookup l => l.depth
  | mechanism _ depth => depth
  | redirection _ depth => depth

end Event

/-- The policy of a domain is fetched. -/
def fetch (domain : Text) (depth : Nat) : Event := .lookup ⟨.txt, domain, depth⟩

/-- The look-ups of a mechanism. -/
def looked (depth : Nat) (asked : List (RecordKind × Text)) : List Event :=
  asked.map fun (kind, name) => .lookup ⟨kind, name, depth⟩

/-- How much a mechanism adds to the count.  Inclusions count, and so do hosts and names that are
looked up, and the name of the client, which is not. -/
def cost : Mechanism → Nat
  | .included _ | .host _ _ | .mailHosts _ _ | .clientName | .existing _ => 1
  | .all | .ip4 _ | .ip6 _ => 0

/-- A mechanism is counted as often as it adds to the count. -/
def counted (m : Mechanism) (depth : Nat) : List Event :=
  List.replicate (cost m) (.mechanism m depth)

/-- The evaluation of a task with `depth` policies around it, when `count` terms have been counted
before: its result, the count after it, and the events. -/
inductive Evaluates (dns : Resolver) (client : IpAddress) :
    Nat → Nat → Task → SpfResult → Nat → List Event → Prop
  | failed {depth count : Nat} {domain : Text} : policy? dns domain = none →
      Evaluates dns client depth count (.policy domain) .temperror count [fetch domain depth]
  | missing {depth count : Nat} {domain : Text} : policy? dns domain = some none →
      Evaluates dns client depth count (.policy domain) .none count [fetch domain depth]
  | malformed {depth count : Nat} {domain text : Text} : policy? dns domain = some (some text) →
      SpfRecord.parse? text = none →
      Evaluates dns client depth count (.policy domain) .permerror count [fetch domain depth]
  | found {depth count after : Nat} {domain text : Text} {record : SpfRecord} {r : SpfResult}
      {events : List Event} : policy? dns domain = some (some text) →
      SpfRecord.parse? text = some record →
      Evaluates dns client depth count (.rest domain record.directives record.redirect) r after
        events →
      Evaluates dns client depth count (.policy domain) r after (fetch domain depth :: events)
  | undecided {depth count : Nat} {domain : Text} :
      Evaluates dns client depth count (.rest domain [] none) .neutral count []
  | redirectRefused {depth count : Nat} {domain target : Text} : maxTerms ≤ count →
      Evaluates dns client depth count (.rest domain [] (some target)) .permerror (count + 1) []
  | redirect {depth count after : Nat} {domain target : Text} {r : SpfResult}
      {events : List Event} : count < maxTerms →
      Evaluates dns client (depth + 1) (count + 1) (.policy target) r after events →
      Evaluates dns client depth count (.rest domain [] (some target)) (redirected r) after
        (.redirection target depth :: events)
  | refused {depth count : Nat} {domain : Text} {d : Directive} {ds : List Directive}
      {redirect : Option Text} : cost d.mechanism = 1 → maxTerms ≤ count →
      Evaluates dns client depth count (.rest domain (d :: ds) redirect) .permerror (count + 1) []
  | includeStops {depth count after : Nat} {domain other : Text} {qualifier : Qualifier}
      {ds : List Directive} {redirect : Option Text} {r r' : SpfResult} {events : List Event} :
      count < maxTerms →
      Evaluates dns client (depth + 1) (count + 1) (.policy other) r after events →
      inclusion r = .error r' →
      Evaluates dns client depth count (.rest domain (⟨qualifier, .included other⟩ :: ds) redirect)
        r' after (.mechanism (.included other) depth :: events)
  | includeMatches {depth count after : Nat} {domain other : Text} {qualifier : Qualifier}
      {ds : List Directive} {redirect : Option Text} {r : SpfResult} {events : List Event} :
      count < maxTerms →
      Evaluates dns client (depth + 1) (count + 1) (.policy other) r after events →
      inclusion r = .ok true →
      Evaluates dns client depth count (.rest domain (⟨qualifier, .included other⟩ :: ds) redirect)
        qualifier.result after (.mechanism (.included other) depth :: events)
  | includePasses {depth count between after : Nat} {domain other : Text} {qualifier : Qualifier}
      {ds : List Directive} {redirect : Option Text} {r r' : SpfResult}
      {events events' : List Event} : count < maxTerms →
      Evaluates dns client (depth + 1) (count + 1) (.policy other) r between events →
      inclusion r = .ok false →
      Evaluates dns client depth between (.rest domain ds redirect) r' after events' →
      Evaluates dns client depth count (.rest domain (⟨qualifier, .included other⟩ :: ds) redirect)
        r' after (.mechanism (.included other) depth :: (events ++ events'))
  | compareFails {depth count : Nat} {domain : Text} {qualifier : Qualifier} {m : Mechanism}
      {ds : List Directive} {redirect : Option Text} {asked : List (RecordKind × Text)} :
      m.isInclusion = false → (cost m = 1 → count < maxTerms) →
      compare dns client domain m = (none, asked) →
      Evaluates dns client depth count (.rest domain (⟨qualifier, m⟩ :: ds) redirect)
        .temperror (count + cost m) (counted m depth ++ looked depth asked)
  | compareMatches {depth count : Nat} {domain : Text} {qualifier : Qualifier} {m : Mechanism}
      {ds : List Directive} {redirect : Option Text} {asked : List (RecordKind × Text)} :
      m.isInclusion = false → (cost m = 1 → count < maxTerms) →
      compare dns client domain m = (some true, asked) →
      Evaluates dns client depth count (.rest domain (⟨qualifier, m⟩ :: ds) redirect)
        qualifier.result (count + cost m) (counted m depth ++ looked depth asked)
  | comparePasses {depth count after : Nat} {domain : Text} {qualifier : Qualifier} {m : Mechanism}
      {ds : List Directive} {redirect : Option Text} {asked : List (RecordKind × Text)}
      {r : SpfResult} {events : List Event} :
      m.isInclusion = false → (cost m = 1 → count < maxTerms) →
      compare dns client domain m = (some false, asked) →
      Evaluates dns client depth (count + cost m) (.rest domain ds redirect) r after events →
      Evaluates dns client depth count (.rest domain (⟨qualifier, m⟩ :: ds) redirect)
        r after (counted m depth ++ looked depth asked ++ events)

variable {dns : Resolver} {client : IpAddress} {depth count after : Nat} {task : Task}
  {r : SpfResult} {events : List Event}

/-! ### Derivations and the evaluation -/

/-- The evaluation of a task with `left` terms allowed. -/
def outcome (dns : Resolver) (client : IpAddress) (depth left : Nat) : Task → Outcome left
  | .policy domain => evaluate dns client depth domain left
  | .rest domain directives redirect => walk dns client depth domain redirect directives left

/-- Whether an outcome is that of a derivation. -/
structure Outcome.Agrees {limit : Nat} (o : Outcome limit) (r : SpfResult) (after : Nat)
    (events : List Event) : Prop where
  result_eq : o.result = r
  left_eq : o.left = maxTerms - after
  lookups_eq : o.lookups = events.filterMap Event.lookup?

theorem asks_eq_true_iff {m : Mechanism} : m.asks = true ↔ cost m = 1 := by
  cases m <;> simp [Mechanism.asks, cost]

theorem cost_eq_zero_or_one (m : Mechanism) : cost m = 0 ∨ cost m = 1 := by
  cases m <;> simp [cost]

theorem charge_of_free {left : Nat} {m : Mechanism} (hm : cost m = 0) :
    charge left m = some left := by
  have hasks : ¬ m.asks = true := by simp [asks_eq_true_iff, hm]
  rw [charge, if_neg hasks]

theorem charge_of_counts {left : Nat} {m : Mechanism} (hm : cost m = 1) :
    charge left m = if left = 0 then none else some (left - 1) := by
  rw [charge, if_pos (asks_eq_true_iff.mpr hm)]

theorem charge_of_left {left : Nat} {m : Mechanism} (hm : cost m = 1) (hleft : left ≠ 0) :
    charge left m = some (left - 1) := by
  rw [charge_of_counts hm, if_neg hleft]

theorem charge_of_allowed {m : Mechanism} (h : cost m = 1 → count < maxTerms) :
    charge (maxTerms - count) m = some (maxTerms - (count + cost m)) := by
  rcases cost_eq_zero_or_one m with hm | hm
  · rw [charge_of_free hm, hm, Nat.add_zero]
  · have hlt := h hm
    rw [charge_of_left hm (by omega), hm, Nat.sub_sub]

theorem walk_refused {left : Nat} {domain : Text} {redirect : Option Text} {d : Directive}
    {ds : List Directive} (hc : charge left d.mechanism = none) :
    walk dns client depth domain redirect (d :: ds) left = .stop left .permerror := by
  rw [walk]
  split
  · rfl
  · simp_all

theorem walk_included {left left' : Nat} {domain other : Text} {redirect : Option Text}
    {qualifier : Qualifier} {ds : List Directive}
    (hc : charge left (.included other) = some left') :
    walk dns client depth domain redirect (⟨qualifier, .included other⟩ :: ds) left =
      let o := evaluate dns client (depth + 1) other left'
      match inclusion o.result with
      | .error r => (o.withResult r).within (charge_le hc)
      | .ok true => (o.withResult qualifier.result).within (charge_le hc)
      | .ok false =>
        ((walk dns client depth domain redirect ds o.left).after o.lookups).within
          (Nat.le_trans o.left_le (charge_le hc)) := by
  rw [walk]
  split
  · simp_all
  · rename_i hc'
    obtain rfl := Option.some.inj (hc.symm.trans hc')
    rfl

theorem walk_compare {left left' : Nat} {domain : Text} {redirect : Option Text}
    {qualifier : Qualifier} {m : Mechanism} {ds : List Directive} (hm : m.isInclusion = false)
    (hc : charge left m = some left') :
    walk dns client depth domain redirect (⟨qualifier, m⟩ :: ds) left =
      Outcome.within (charge_le hc)
        (Outcome.after ((compare dns client domain m).2.map fun (kind, name) => ⟨kind, name, depth⟩)
          (match (compare dns client domain m).1 with
          | none => .stop left' .temperror
          | some true => .stop left' qualifier.result
          | some false => walk dns client depth domain redirect ds left')) := by
  rw [walk]
  split
  · simp_all
  · rename_i hc'
    obtain rfl := Option.some.inj (hc.symm.trans hc')
    cases m with
    | included other => cases hm
    | _ => rfl

theorem filterMap_counted (m : Mechanism) (depth : Nat) :
    (counted m depth).filterMap Event.lookup? = [] :=
  List.filterMap_replicate_of_none rfl

theorem filterMap_looked (depth : Nat) (asked : List (RecordKind × Text)) :
    (looked depth asked).filterMap Event.lookup? =
      asked.map fun (kind, name) => (⟨kind, name, depth⟩ : Lookup) := by
  induction asked with
  | nil => rfl
  | cons first rest ih => exact congrArg (_ :: ·) ih

/-- **A derivation gives what the evaluation gives**: the result, the terms left, the look-ups. -/
theorem Evaluates.agrees (h : Evaluates dns client depth count task r after events) :
    ∀ left, left = maxTerms - count → (outcome dns client depth left task).Agrees r after events := by
  induction h with
  | failed hp | missing hp =>
    rintro left rfl
    rw [outcome, evaluate, hp]
    exact ⟨rfl, rfl, rfl⟩
  | malformed hp hparse =>
    rintro left rfl
    rw [outcome, evaluate, hp]
    simp only [hparse]
    exact ⟨rfl, rfl, rfl⟩
  | found hp hparse _ ih =>
    rintro left rfl
    obtain ⟨hr, hleft, hlookups⟩ := ih _ rfl
    rw [outcome, evaluate, hp]
    simp only [hparse]
    exact ⟨hr, hleft, congrArg (_ :: ·) hlookups⟩
  | undecided =>
    rintro left rfl
    rw [outcome, walk]
    exact ⟨rfl, rfl, rfl⟩
  | redirectRefused hfull =>
    intro left hleft
    obtain rfl : left = 0 := by omega
    rw [outcome, walk]
    refine ⟨rfl, ?_, rfl⟩
    show 0 = _
    omega
  | redirect hlt _ ih =>
    intro left hleft
    obtain ⟨hr, hleft', hlookups⟩ := ih (left - 1) (by omega)
    have hpos : left ≠ 0 := by omega
    rw [outcome, walk]
    simp only [hpos, if_false]
    exact ⟨congrArg redirected hr, hleft', hlookups⟩
  | refused hcounts hfull =>
    intro left hleft
    obtain rfl : left = 0 := by omega
    rw [outcome, walk_refused (by rw [charge_of_counts hcounts, if_pos rfl])]
    refine ⟨rfl, ?_, rfl⟩
    show 0 = _
    omega
  | includeStops hlt _ hinclusion ih | includeMatches hlt _ hinclusion ih =>
    intro left hleft
    obtain ⟨hr, hleft', hlookups⟩ := ih (left - 1) (by omega)
    rw [outcome, walk_included (charge_of_left rfl (by omega))]
    rw [outcome] at hr hleft' hlookups
    simp only [hr, hinclusion]
    exact ⟨rfl, hleft', hlookups⟩
  | includePasses hlt _ hinclusion _ ih ih' =>
    -- The directives behind the inclusion go on with the terms that it left.
    intro left hleft
    obtain ⟨hr, hleft', hlookups⟩ := ih (left - 1) (by omega)
    obtain ⟨hr', hleft'', hlookups'⟩ := ih' _ hleft'
    rw [outcome, walk_included (charge_of_left rfl (by omega))]
    rw [outcome] at hr hlookups
    simp only [hr, hinclusion]
    refine ⟨hr', hleft'', ?_⟩
    rw [List.filterMap_cons, List.filterMap_append]
    exact congr (congrArg (· ++ ·) hlookups) hlookups'
  | compareFails hm hallowed hcompare | compareMatches hm hallowed hcompare =>
    rintro left rfl
    rw [outcome, walk_compare hm (charge_of_allowed hallowed), hcompare]
    refine ⟨rfl, rfl, ?_⟩
    rw [List.filterMap_append, filterMap_counted, filterMap_looked]
    exact List.append_nil _
  | comparePasses hm hallowed hcompare _ ih =>
    rintro left rfl
    obtain ⟨hr, hleft, hlookups⟩ := ih _ rfl
    rw [outcome, walk_compare hm (charge_of_allowed hallowed), hcompare]
    refine ⟨hr, hleft, ?_⟩
    rw [List.filterMap_append, List.filterMap_append, filterMap_counted, filterMap_looked]
    exact congrArg (_ ++ ·) hlookups

/-! ### Every evaluation ends -/

theorem Evaluates.count_le (h : Evaluates dns client depth count task r after events) :
    count ≤ after := by
  induction h <;> omega

/-- Whether there is a derivation for a task. -/
def Derivable (dns : Resolver) (client : IpAddress) (depth count : Nat) (task : Task) : Prop :=
  ∃ r after events, Evaluates dns client depth count task r after events

theorem derivable_included {domain other : Text} {qualifier : Qualifier} {ds : List Directive}
    {redirect : Option Text} (hlt : count < maxTerms)
    (hother : Derivable dns client (depth + 1) (count + 1) (.policy other))
    (hrest : ∀ between, count < between →
      Derivable dns client depth between (.rest domain ds redirect)) :
    Derivable dns client depth count
      (.rest domain (⟨qualifier, .included other⟩ :: ds) redirect) := by
  obtain ⟨r, between, events, h⟩ := hother
  cases hinclusion : inclusion r with
  | error r' => exact ⟨_, _, _, .includeStops hlt h hinclusion⟩
  | ok matched =>
    cases matched with
    | true => exact ⟨_, _, _, .includeMatches hlt h hinclusion⟩
    | false =>
      obtain ⟨r', after, events', h'⟩ := hrest between h.count_le
      exact ⟨_, _, _, .includePasses hlt h hinclusion h'⟩

theorem derivable_compared {domain : Text} {qualifier : Qualifier} {m : Mechanism}
    {ds : List Directive} {redirect : Option Text} (hm : m.isInclusion = false)
    (hallowed : cost m = 1 → count < maxTerms)
    (hrest : Derivable dns client depth (count + cost m) (.rest domain ds redirect)) :
    Derivable dns client depth count (.rest domain (⟨qualifier, m⟩ :: ds) redirect) := by
  rcases hcompare : compare dns client domain m with ⟨answer, asked⟩
  cases answer with
  | none => exact ⟨_, _, _, .compareFails hm hallowed hcompare⟩
  | some matched =>
    cases matched with
    | true => exact ⟨_, _, _, .compareMatches hm hallowed hcompare⟩
    | false =>
      obtain ⟨r, after, events, h⟩ := hrest
      exact ⟨_, _, _, .comparePasses hm hallowed hcompare h⟩

/-- What is left of a policy has a derivation if all has that comes after one more term. -/
theorem derivable_rest (domain : Text) (redirect : Option Text) (ds : List Directive)
    (hnext : count < maxTerms → ∀ depth count' task, count < count' →
      Derivable dns client depth count' task) :
    Derivable dns client depth count (.rest domain ds redirect) := by
  induction ds with
  | nil =>
    cases redirect with
    | none => exact ⟨_, _, _, .undecided⟩
    | some target =>
      by_cases hlt : count < maxTerms
      · obtain ⟨r, after, events, h⟩ := hnext hlt (depth + 1) _ (.policy target) (Nat.lt_succ_self _)
        exact ⟨_, _, _, .redirect hlt h⟩
      · exact ⟨_, _, _, .redirectRefused (by omega)⟩
  | cons d ds ih =>
    obtain ⟨qualifier, m⟩ := d
    by_cases hrefused : cost m = 1 ∧ maxTerms ≤ count
    · exact ⟨_, _, _, .refused hrefused.1 hrefused.2⟩
    have hallowed (hcounts : cost m = 1) : count < maxTerms :=
      Nat.lt_of_not_le fun hfull => hrefused ⟨hcounts, hfull⟩
    cases hm : m.isInclusion with
    | true =>
      cases m with
      | included other =>
        have hlt := hallowed rfl
        exact derivable_included hlt (hnext hlt _ _ _ (Nat.lt_succ_self count))
          fun between hbetween => hnext hlt _ _ _ hbetween
      | _ => cases hm
    | false =>
      refine derivable_compared hm hallowed ?_
      rcases cost_eq_zero_or_one m with hfree | hcounts
      · rwa [hfree, Nat.add_zero]
      · exact hnext (hallowed hcounts) _ _ _ (by omega)

/-- **There is a derivation for every task.**  The count grows with each step into another policy,
so the terms left fall; the directives of one policy come to an end. -/
theorem derivable (dns : Resolver) (client : IpAddress) (depth count : Nat) (task : Task) :
    Derivable dns client depth count task := by
  induction hleft : maxTerms - count using Nat.strongRecOn generalizing depth count task with
  | _ left ih =>
    have hrest (domain : Text) (redirect : Option Text) (ds : List Directive) :
        Derivable dns client depth count (.rest domain ds redirect) := by
      refine derivable_rest domain redirect ds fun hlt depth count' task hcount => ?_
      exact ih (maxTerms - count') (by omega) depth count' task rfl
    cases task with
    | rest domain ds redirect => exact hrest domain redirect ds
    | policy domain =>
      rcases hp : policy? dns domain with _ | _ | text
      · exact ⟨_, _, _, .failed hp⟩
      · exact ⟨_, _, _, .missing hp⟩
      · cases hparse : SpfRecord.parse? text with
        | none => exact ⟨_, _, _, .malformed hp hparse⟩
        | some record =>
          obtain ⟨r, after, events, h⟩ := hrest domain record.redirect record.directives
          exact ⟨_, _, _, .found hp hparse h⟩

/-! ### A sender and a client -/

/-- How the policy for a sender and a client is evaluated, from a count of zero. -/
inductive Verifies (dns : Resolver) (sender helo : Option Text) (client : IpAddress) :
    SpfResult → List Event → Prop
  | noDomain : domain? sender helo = none → Verifies dns sender helo client .none []
  | domain {domain : Text} {r : SpfResult} {after : Nat} {events : List Event} :
      domain? sender helo = some domain →
      Evaluates dns client 0 0 (.policy domain) r after events →
      Verifies dns sender helo client r events

variable {sender helo : Option Text}

theorem Verifies.verify_eq (h : Verifies dns sender helo client r events) :
    verify dns sender helo client = r := by
  cases h with
  | noDomain hd => rw [verify, hd]
  | domain hd h =>
    rw [verify, hd]
    exact (h.agrees maxTerms rfl).result_eq

/-- The look-ups among the events are those that the evaluation makes. -/
theorem Verifies.lookups_eq {domain : Text} (h : Verifies dns sender helo client r events)
    (hdomain : domain? sender helo = some domain) :
    (evaluate dns client 0 domain maxTerms).lookups = events.filterMap Event.lookup? := by
  cases h with
  | noDomain hd => simp [hd] at hdomain
  | domain hd h =>
    obtain rfl := Option.some.inj (hd.symm.trans hdomain)
    exact (h.agrees maxTerms rfl).lookups_eq

theorem exists_verifies (dns : Resolver) (sender helo : Option Text) (client : IpAddress) :
    ∃ events, Verifies dns sender helo client (verify dns sender helo client) events := by
  cases hd : domain? sender helo with
  | none =>
    rw [verify, hd]
    exact ⟨[], .noDomain hd⟩
  | some domain =>
    obtain ⟨r, after, events, h⟩ := derivable dns client 0 0 (.policy domain)
    have hverifies : Verifies dns sender helo client r events := .domain hd h
    exact ⟨events, hverifies.verify_eq ▸ hverifies⟩

end Spf
end MailPolicy
