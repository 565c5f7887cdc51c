/-
What can be read off the octets that have arrived.

Octets may come in any pieces.  A request is read, or the reading fails, as soon as the lines that
are complete settle it, and what comes later changes nothing.

* `Wire.takeLine_complete` — a line that is complete is cut off whatever follows;
* `Wire.readFrom_completeLines` — what the complete lines settle is settled;
* `Wire.Settles`, `Wire.settles_of_arrived` — **what is read off the octets so far is what would be
  read off any stream that begins with them**, and nothing but the end of the stream settles that no
  request comes.
-/
import MailPolicy.Proofs.Wire.Grammar
import MailPolicy.Wire.Arrival

namespace MailPolicy.Wire

/-- Whether octets cut off a stream have a line feed, or are as many as they may be. -/
def IsComplete (limit : Nat) (line : List UInt8) : Prop :=
  line.getLast? = some lineFeed ∨ limit ≤ line.length

/-- A complete line is cut off whatever follows. -/
theorem takeLine_complete {limit : Nat} {s : List UInt8}
    (h : IsComplete limit (takeLine limit s).1) (later : List UInt8) :
    takeLine limit ((takeLine limit s).1 ++ later) = ((takeLine limit s).1, later) := by
  fun_induction takeLine limit s with
  | case1 s => rw [List.nil_append, takeLine]
  | case2 limit hlimit =>
    rcases h with h | h
    · cases h
    · exact absurd (Nat.le_zero.mp h) hlimit
  | case3 limit s => simp [takeLine]
  | case4 limit b s hb line rest hcut ih =>
    have hline : IsComplete limit line := by
      rcases h with h | h
      · left
        cases hlast : line.getLast? with
        | none => simp_all
        | some c => simp_all [List.getLast?_cons]
      · exact .inr (Nat.le_of_succ_le_succ h)
    rw [hcut] at ih
    simp [takeLine, hb, ih hline]

theorem takeLine_append_of_complete {limit : Nat} {s : List UInt8}
    (h : IsComplete limit (takeLine limit s).1) (later : List UInt8) :
    takeLine limit (s ++ later) = ((takeLine limit s).1, (takeLine limit s).2 ++ later) := by
  have hwhole := takeLine_complete h ((takeLine limit s).2 ++ later)
  rw [← List.append_assoc, takeLine_append] at hwhole
  exact hwhole

/-- Whether more octets make no difference: there is a request, or an error that is not for want of
more. -/
def IsSettled (result : Except ReadError (Option Request × List UInt8)) : Prop :=
  result ≠ .error .cutShort ∧ ∀ rest, result ≠ .ok (none, rest)

theorem not_isSettled_of_nil (r : Request) (count : Nat) : ¬IsSettled (readFrom r count []) := by
  rw [readFrom_nil]
  rintro ⟨hcut, hnone⟩
  split at hcut
  · exact hnone [] (if_pos ‹_›)
  · exact hcut rfl

theorem readFrom_completeLines (r : Request) (count : Nat) (s later : List UInt8)
    (h : IsSettled (readFrom r count (completeLines s))) :
    (readFrom r count (s ++ later)).map (·.1) =
      (readFrom r count (completeLines s)).map (·.1) := by
  fun_induction completeLines s generalizing r count with
  | case1 s cut hcut => exact absurd h (not_isSettled_of_nil r count)
  | case3 s cut hne hpartial => exact absurd h (not_isSettled_of_nil r count)
  | case2 s cut hne hcomplete ih =>
    -- The same line is cut off, and what follows differs only in what comes later.
    have hlong := takeLine_append_of_complete hcomplete later
    have hshort := takeLine_complete hcomplete (completeLines cut.2)
    rw [readFrom.eq_def r count (cut.1 ++ completeLines cut.2), hshort] at h ⊢
    rw [readFrom.eq_def r count (s ++ later), hlong]
    simp only [show (takeLine maxLine s).1 ≠ [] from hne, if_false] at h ⊢
    generalize Line.ofOctets (takeLine maxLine s).1 = line at h ⊢
    cases line with
    | none | unended | notUtf8 => rfl
    | whole content =>
      dsimp only at h ⊢
      by_cases hblank : content.isEmpty = true
      · simp only [hblank, if_true] at h ⊢
        by_cases hcount : count = 0
        · simp only [hcount, if_true] at h ⊢
          exact ih r 0 h
        · simp only [hcount, if_false]
          rfl
      · simp only [hblank] at h ⊢
        by_cases hmany : maxAttributes ≤ count
        · simp only [hmany, if_true]
          rfl
        · simp only [hmany, if_false] at h ⊢
          cases hparse : parseLine content with
          | error e => rfl
          | ok pair =>
            rw [hparse] at h
            exact ih _ _ h

/-- Whether what is read off a stream is settled by octets at its start: it is read off all of them
at the end of the stream, and before that off any stream that begins with them. -/
structure Settles (s : List UInt8) (ended : Bool) (read : Except ReadError (Option Request)) :
    Prop where
  whole : ended = true → (readRequest s).map (·.1) = read
  begins : ended = false → ∀ later, (readRequest (s ++ later)).map (·.1) = read
  /-- Before the end it is open whether no request comes. -/
  ne_none : ended = false → read ≠ .ok none

/-- **What is read off the octets that have arrived is settled by them.** -/
theorem settles_of_arrived {s : List UInt8} {ended : Bool}
    {read : Except ReadError (Option Request)} (h : readArrived? s ended = some read) :
    Settles s ended read := by
  cases ended with
  | true => exact ⟨fun _ => Option.some.inj h, nofun, nofun⟩
  | false =>
    have hsettled := readFrom_completeLines .empty 0 s
    simp only [readArrived?, Bool.false_eq_true, if_false, readRequest] at h
    cases hread : readFrom .empty 0 (completeLines s) with
    | error e =>
      rw [hread] at h hsettled
      cases e with
      | cutShort => cases h
      | _ =>
        cases h
        exact ⟨nofun, fun _ later => hsettled later ⟨nofun, nofun⟩, fun _ => nofun⟩
    | ok result =>
      obtain ⟨found, rest⟩ := result
      rw [hread] at h hsettled
      cases found with
      | none => cases h
      | some r =>
        cases h
        exact ⟨nofun, fun _ later => hsettled later ⟨nofun, nofun⟩, fun _ => nofun⟩

end MailPolicy.Wire
