/-
Evaluation of sender policies.

The policy of a domain is its first text record that counts as one.  Directives are compared with the client
in order, the first that matches decides; if none does, the policy of the redirect target holds, and without
one the policy has no opinion.  At most `Spf.maxTerms` terms that ask the domain name system are evaluated
over all policies together, and a failed look-up ends everything.

Policies may include and redirect to each other without end.  Every inclusion and every redirection is such a
term, so the terms left fall with each step into another policy, and the evaluation ends.

* `Spf.evaluate` evaluates the policy of a domain;
* `Spf.verify` chooses the domain from a sender or the name that the client gave itself.
-/
import MailPolicy.Dns.Zone
import MailPolicy.Request
import MailPolicy.Spf.Record

namespace MailPolicy.Spf

/-- How many terms that ask the domain name system are evaluated at most. -/
def maxTerms : Nat := 10

/-- A look-up of an evaluation. -/
structure Lookup where
  kind : RecordKind
  name : Text
  /-- How many policies are under evaluation around the one that makes it. -/
  depth : Nat
deriving DecidableEq, Repr

/-- What an evaluation with a limit on terms came to. -/
structure Outcome (limit : Nat) where
  result : SpfResult
  /-- The terms that it left over. -/
  left : Nat
  left_le : left ≤ limit := by omega
  /-- The look-ups it made, in order. -/
  lookups : List Lookup := []

namespace Outcome

variable {limit : Nat}

/-- A result with nothing more to do. -/
def stop (limit : Nat) (r : SpfResult) : Outcome limit := { result := r, left := limit }

/-- The outcome within a greater limit. -/
def within {limit' : Nat} (h : limit ≤ limit') (o : Outcome limit) : Outcome limit' :=
  { result := o.result, left := o.left, left_le := Nat.le_trans o.left_le h, lookups := o.lookups }

/-- The outcome with another result. -/
def withResult (o : Outcome limit) (r : SpfResult) : Outcome limit := { o with result := r }

/-- The outcome after some look-ups have been made before. -/
def after (lookups : List Lookup) (o : Outcome limit) : Outcome limit :=
  { o with lookups := lookups ++ o.lookups }

end Outcome

/-! ### Mechanisms -/

/-- Whether the client lies in the network of an address of a host; nothing if the look-up failed. -/
def hostMatches (dns : Resolver) (client : IpAddress) (lengths : DualLength) (name : Text) : Option Bool :=
  match client with
  | .v4 c => (dns.a name).map fun found =>
      found.any fun a => (Prefix.mk a lengths.v4.1 lengths.v4.2).contains c
  | .v6 c => (dns.aaaa name).map fun found =>
      found.any fun a => (Prefix.mk a lengths.v6.1 lengths.v6.2).contains c

/-- The kind of address records that a client is compared with. -/
def addressKind : IpAddress → RecordKind
  | .v4 _ => .a
  | .v6 _ => .aaaa

/-- Whether one of several hosts matches, and which of them were looked up: all up to the first that does or
fails. -/
def anyHostMatches (dns : Resolver) (client : IpAddress) (lengths : DualLength) :
    List Text → Option Bool × List (RecordKind × Text)
  | [] => (some false, [])
  | name :: rest =>
    match hostMatches dns client lengths name with
    | some false =>
      let (r, lookups) := anyHostMatches dns client lengths rest
      (r, (addressKind client, name) :: lookups)
    | r => (r, [(addressKind client, name)])

/-- Whether a mechanism matches in the policy of a domain, other policies apart; nothing if a look-up
failed.  The second part lists the look-ups. -/
def compare (dns : Resolver) (client : IpAddress) (domain : Text) :
    Mechanism → Option Bool × List (RecordKind × Text)
  | .all => (some true, [])
  | .included _ => (some false, [])
  | .ip4 network =>
    (some (match client with | .v4 c => network.contains c | .v6 _ => false), [])
  | .ip6 network =>
    (some (match client with | .v6 c => network.contains c | .v4 _ => false), [])
  | .clientName => (some false, [])
  | .host target lengths =>
    let name := target.getD domain
    (hostMatches dns client lengths name, [(addressKind client, name)])
  | .mailHosts target lengths =>
    let name := target.getD domain
    match dns.mx name with
    | none => (none, [(.mx, name)])
    | some hosts =>
      let (r, lookups) := anyHostMatches dns client lengths hosts
      (r, (.mx, name) :: lookups)
  | .existing name => ((dns.a name).map fun found => !found.isEmpty, [(.a, name)])

/-! ### Policies -/

/-- The terms left after one more, if it is allowed. -/
def charge (left : Nat) (m : Mechanism) : Option Nat :=
  if m.asks then if left = 0 then none else some (left - 1) else some left

theorem charge_le {left left' : Nat} {m : Mechanism} (h : charge left m = some left') : left' ≤ left := by
  unfold charge at h
  split at h
  · split at h
    · exact absurd h (by simp)
    · simp only [Option.some.injEq] at h
      omega
  · simp only [Option.some.injEq] at h
    omega

theorem charge_lt {left left' : Nat} {m : Mechanism} (ha : m.asks = true)
    (h : charge left m = some left') : left' < left := by
  simp only [charge, ha, if_true, Option.ite_none_left_eq_some, Option.some.injEq] at h
  omega

/-- The policy of a domain; nothing if the look-up failed. -/
def policy? (dns : Resolver) (domain : Text) : Option (Option Text) :=
  (dns.txt domain).map fun found => found.find? SpfRecord.isPolicy

/-- The result of a redirection to a policy with the given result. -/
def redirected (r : SpfResult) : SpfResult := if r = .none then .permerror else r

/-- Whether the inclusion of a policy with the given result matches, or the result that it ends with. -/
def inclusion : SpfResult → Except SpfResult Bool
  | .pass => .ok true
  | .fail => .ok false
  | .softfail => .ok false
  | .neutral => .ok false
  | .none => .error .permerror
  | .permerror => .error .permerror
  | .temperror => .error .temperror

mutual

/-- Evaluates the policy of a domain, `depth` others being under evaluation, with `left` terms allowed. -/
def evaluate (dns : Resolver) (client : IpAddress) (depth : Nat) (domain : Text) (left : Nat) :
    Outcome left :=
  Outcome.after [⟨.txt, domain, depth⟩] <|
    match policy? dns domain with
    | none => .stop left .temperror
    | some none => .stop left .none
    | some (some text) =>
      match SpfRecord.parse? text with
      | none => .stop left .permerror
      | some record => walk dns client depth domain record.redirect record.directives left
termination_by (left, 1, 0)

/-- Evaluates directives in order, and at their end the redirection. -/
def walk (dns : Resolver) (client : IpAddress) (depth : Nat) (domain : Text) (redirect : Option Text)
    (directives : List Directive) (left : Nat) : Outcome left :=
  match directives with
  | [] =>
    match redirect with
    | none => .stop left .neutral
    | some target =>
      if left = 0 then .stop left .permerror
      else
        let o := evaluate dns client (depth + 1) target (left - 1)
        (o.withResult (redirected o.result)).within (Nat.sub_le left 1)
  | ⟨qualifier, mechanism⟩ :: rest =>
    match hc : charge left mechanism with
    | none => .stop left .permerror
    | some left' =>
      match mechanism with
      | .included other =>
        let o := evaluate dns client (depth + 1) other left'
        match inclusion o.result with
        | .error r => (o.withResult r).within (charge_le hc)
        | .ok true => (o.withResult qualifier.result).within (charge_le hc)
        | .ok false =>
          ((walk dns client depth domain redirect rest o.left).after o.lookups).within
            (Nat.le_trans o.left_le (charge_le hc))
      | m =>
        let (answer, asked) := compare dns client domain m
        Outcome.within (charge_le hc) <|
          Outcome.after (asked.map fun (kind, name) => ⟨kind, name, depth⟩) <|
            match answer with
            | none => .stop left' .temperror
            | some true => .stop left' qualifier.result
            | some false => walk dns client depth domain redirect rest left'
termination_by (left, 0, directives.length)
decreasing_by
  all_goals simp_wf
  · exact Prod.Lex.left _ _ (by omega)
  · exact Prod.Lex.left _ _ (charge_lt rfl hc)
  · exact Prod.Lex.left _ _ (Nat.lt_of_le_of_lt o.left_le (charge_lt rfl hc))
  · rcases Nat.lt_or_eq_of_le (charge_le hc) with h | h
    · exact Prod.Lex.left _ _ h
    · subst h
      exact Prod.Lex.right _ (Prod.Lex.right _ (by simp))

end

/-! ### The domain -/

/-- The domain whose policy counts: that of the sender, or the name that the client gave itself. -/
def domain? (sender helo : Option Text) : Option Text :=
  match sender.bind Request.domainOf? with
  | some domain => some domain
  | none =>
    helo.bind fun name =>
      let name := Text.trim name
      if name.isEmpty then none else some (Text.lower (Text.dropEnd (· == '.') name))

/-- Evaluates the policy for a sender and a client; without a domain there is none. -/
def verify (dns : Resolver) (sender helo : Option Text) (client : IpAddress) : SpfResult :=
  match domain? sender helo with
  | none => .none
  | some domain => (evaluate dns client 0 domain maxTerms).result

end MailPolicy.Spf
