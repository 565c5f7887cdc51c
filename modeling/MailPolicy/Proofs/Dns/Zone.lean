/-
What a table of names answers.

* `Resolver.Fails`, `Resolver.RefusesMalformed` — failed look-ups, and resolvers that know a name
  when they see one;
* `Zone.refusesMalformed_resolver` — no malformed name can be looked up in a table;
* `Zone.txt_resolver_up` — a name has the texts that its entry lists.
-/
import MailPolicy.Dns.Zone
import MailPolicy.Proofs.Text.Utf8

namespace MailPolicy

/-- Whether a look-up fails. -/
def Resolver.Fails (dns : Resolver) (kind : RecordKind) (name : Text) : Prop :=
  match kind with
  | .txt => dns.txt name = none
  | .a => dns.a name = none
  | .aaaa => dns.aaaa name = none
  | .mx => dns.mx name = none

/-- Whether no malformed name can be looked up. -/
def Resolver.RefusesMalformed (dns : Resolver) : Prop :=
  ∀ kind name, Dns.isName name = false → dns.Fails kind name

theorem Zone.refusesMalformed_resolver (z : Zone) (link : Link) :
    (z.resolver link).RefusesMalformed := by
  intro kind name hname
  have hsource : Zone.source name = .nowhere := by simp [Zone.source, Dns.labels?, hname]
  cases kind <;> simp [Resolver.Fails, Zone.resolver, Zone.ask, hsource]

/-- The record that holds a text in one chunk. -/
def TextRecord.ofText (t : Text) : TextRecord := ⟨[Utf8.encode t]⟩

@[simp] theorem TextRecord.text_ofText (t : Text) : (TextRecord.ofText t).text = t := by
  simp [TextRecord.ofText, TextRecord.text, Utf8.decodeLossy_encode]

/-- The texts of a name whose entry answers. -/
theorem Zone.txt_resolver_up {z : Zone} {name : Text} {labels texts : List Text} {e : ZoneEntry}
    (hsource : Zone.source name = .servers labels) (hentry : z.entries.lookup labels = some e)
    (htxt : e.txt = texts.map .ofText) (hstatus : e.status = .answers) (hfailing : e.failing = []) :
    (z.resolver .up).txt name = some texts := by
  have hfind : z.find .txt (fun e => e.txt.map TextRecord.text) labels = some texts := by
    simp [Zone.find, hentry, hstatus, hfailing, htxt, Function.comp_def]
  simp only [Zone.resolver, Zone.ask, hsource, hfind]

end MailPolicy
