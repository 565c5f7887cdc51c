/-
The fields of a request.

* `Request.trim_of_field?` — all fields but the domains of mail addresses are free of blanks at their ends;
* `Request.Encloses`, `Request.domainOf?_eq_some_iff` — the domain of a mail address is what follows the last
  at sign, without the closing brackets at the end;
* `Request.field?_address` — where the domain fields are taken from.
-/
import MailPolicy.Proofs.Text.Cuts
import MailPolicy.Request

namespace MailPolicy

/-- The field of the mail address that a domain field is taken from. -/
def Field.address? : Field → Option Field
  | senderDomain => some sender
  | recipientDomain => some recipient
  | _ => none

namespace Request

variable {r : Request} {value address domain : Text} {whole part : Field}

theorem trim_of_nonEmpty? {v : Option Text} (h : nonEmpty? v = some value) :
    Text.trim value = value := by
  obtain ⟨hmap, -⟩ := Option.filter_eq_some_iff.mp h
  obtain ⟨raw, -, rfl⟩ := Option.map_eq_some_iff.mp hmap
  exact Text.dropEnds_dropEnds Text.isBlank raw

theorem trim_of_hostName? {name : String} (h : r.hostName? name = some value) :
    Text.trim value = value :=
  trim_of_nonEmpty? (Option.filter_eq_some_iff.mp h).1

/-- Only domains of mail addresses can have blanks at their ends. -/
theorem trim_of_field? {field : Field} (h : r.field? field = some value)
    (hsender : field ≠ .senderDomain) (hrecipient : field ≠ .recipientDomain) :
    Text.trim value = value := by
  cases field with
  | senderDomain => exact absurd rfl hsender
  | recipientDomain => exact absurd rfl hrecipient
  | clientAddress | sender | recipient => exact trim_of_nonEmpty? h
  | heloName | clientName | reverseClientName => exact trim_of_hostName? h

theorem field?_address (h : part.address? = some whole) (r : Request) :
    r.field? part = (r.field? whole).bind domainOf? := by
  cases part <;> cases h <;> rfl

theorem trim_of_address (h : part.address? = some whole) (haddress : r.field? whole = some address) :
    Text.trim address = address := by
  cases part <;> cases h <;> exact trim_of_nonEmpty? haddress

/-- Whether a domain follows the last at sign of an address, with closing brackets behind it. -/
structure Encloses (address domain brackets : Text) : Prop where
  follows : ∃ front, address = front ++ '@' :: (domain ++ brackets)
  last : '@' ∉ domain
  nonempty : domain ≠ []
  closed : domain.getLast? ≠ some '>'
  brackets : ∀ x ∈ brackets, x = '>'

/-- An address has a domain if one follows its last at sign, and it is given in lower case. -/
theorem domainOf?_eq_some_iff : domainOf? address = some value ↔
    ∃ domain brackets, Encloses address domain brackets ∧ Text.lower domain = value := by
  have hclosing : ∀ {x : Char}, (x == '>') = true ↔ x = '>' := beq_iff_eq
  constructor
  · intro h
    unfold domainOf? at h
    dsimp only at h
    split at h
    next front domain hcut =>
      obtain ⟨hne, hvalue⟩ := Option.ite_none_left_eq_some.mp h
      obtain ⟨c, hbare, hc, hlast⟩ := Text.splitLast_eq_some_iff.mp hcut
      obtain rfl := eq_of_beq hc
      obtain ⟨brackets, haddress, hbrackets, hclosed⟩ := Text.dropEnd_eq_iff.mp hbare
      have hne : domain ≠ [] := by simpa using hne
      refine ⟨domain, brackets, ⟨⟨address.takeWhile (· == '<') ++ front, ?_⟩, ?_, hne, ?_, ?_⟩,
        Option.some.inj hvalue⟩
      · rw [List.append_assoc, ← List.cons_append, ← List.append_assoc front, ← haddress,
          List.takeWhile_append_dropWhile]
      · exact fun hat => by simpa using hlast '@' hat
      · intro hend
        have hbareEnd : (front ++ '@' :: domain).getLast? = some '>' := by
          rw [List.append_cons, List.getLast?_append, hend]
          rfl
        simpa using hclosed '>' hbareEnd
      · exact fun x hx => hclosing.mp (hbrackets x hx)
    next => cases h
  · rintro ⟨domain, brackets, ⟨⟨front, rfl⟩, hlast, hne, hclosed, hbrackets⟩, rfl⟩
    have hbare : Text.dropEnd (· == '>')
        ((front ++ '@' :: (domain ++ brackets)).dropWhile (· == '<')) =
          front.dropWhile (· == '<') ++ '@' :: domain := by
      rw [Text.dropWhile_append_cons (by decide), Text.dropEnd_append_cons (by decide),
        Text.dropEnd_append _ fun x hx => hclosing.mpr (hbrackets x hx)]
      congr 2
      refine Text.dropEnd_eq_iff.mpr ⟨[], (List.append_nil domain).symm, nofun, fun x hx => ?_⟩
      exact Bool.eq_false_iff.mpr fun hx' => hclosed (hclosing.mp hx' ▸ hx)
    have hcut : Text.splitLast (· == '@') (front.dropWhile (· == '<') ++ '@' :: domain) =
        some (front.dropWhile (· == '<'), domain) :=
      Text.splitLast_append _ rfl fun x hx => beq_eq_false_iff_ne.mpr fun hat => hlast (hat ▸ hx)
    rw [domainOf?, hbare, hcut]
    simp [hne]

end Request
end MailPolicy
