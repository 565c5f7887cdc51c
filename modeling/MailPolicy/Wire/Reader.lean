/-
Reading requests from a connection.

A request is a block of `name=value` lines ended by a blank line; blank lines before it are skipped.  A line
is taken from the stream as at most `maxLine` octets ending with the first line feed; these octets must be
UTF-8 before anything else is asked of them.

* `Wire.takeLine` cuts one line off a stream;
* `Wire.readRequest` reads one request and gives back the rest of the stream;
* `Wire.readAll` reads one request after another.
-/
import MailPolicy.Fault
import MailPolicy.Request
import MailPolicy.Text.Quoted
import MailPolicy.Text.Utf8

namespace MailPolicy.Wire

/-- The most octets of a line, line feed included. -/
def maxLine : Nat := 8192

/-- The most attributes of a request. -/
def maxAttributes : Nat := 256

/-- Why no request could be read. -/
inductive ReadError where
  /-- The octets of a line are not UTF-8. -/
  | notUtf8 (flaw : Utf8.Flaw)
  /-- The stream ended inside a request. -/
  | cutShort
  /-- A line has no line feed within the limit. -/
  | lineTooLong
  /-- A request has more attributes than the limit. -/
  | tooManyAttributes
  /-- Nothing but blanks stands before the first equals sign. -/
  | namelessAttribute
  /-- A line has no equals sign; its content is kept. -/
  | noSeparator (content : Text)
deriving DecidableEq, Repr

/-- How much of a malformed line a message shows. -/
def shownLength : Nat := 64

namespace ReadError

/-- The text of the error. -/
def detail : ReadError → String
  | notUtf8 flaw => flaw.message
  | cutShort => "connection closed mid-request"
  | lineTooLong => "line too long"
  | tooManyAttributes => "too many attributes"
  | namelessAttribute => "attribute without a name"
  | noSeparator content => "malformed line " ++ Text.quoted (content.take shownLength)

/-- The kind of the error: octets that are not text fail the reading, all else breaks the format. -/
def kind : ReadError → FaultKind
  | notUtf8 _ => .io
  | _ => .protocol

/-- The fault that the error is. -/
def fault (e : ReadError) : Fault := ⟨e.kind, e.detail⟩

end ReadError

/-- Splits a line into the trimmed name before its first equals sign and everything after the sign. -/
def parseLine (content : Text) : Except ReadError (Text × Text) :=
  match Text.splitFirst (· == '=') content with
  | some (name, value) =>
    let name := Text.trim name
    if name.isEmpty then .error .namelessAttribute else .ok (name, value)
  | none => .error (.noSeparator content)

/-- The octet that ends a line. -/
def lineFeed : UInt8 := 0x0A

/-- Cuts off the octets up to the first line feed, that one included, but no more than `limit`. -/
def takeLine : Nat → List UInt8 → List UInt8 × List UInt8
  | 0, s => ([], s)
  | _, [] => ([], [])
  | limit + 1, b :: s =>
    if b = lineFeed then ([b], s)
    else
      let (line, rest) := takeLine limit s
      (b :: line, rest)

/-- A line without the carriage returns and line feeds at its end. -/
def contentOf (line : Text) : Text := Text.dropEnd (fun c => c == '\r' || c == '\n') line

/-- One line of a stream. -/
inductive Line where
  /-- The stream is at its end. -/
  | none
  /-- A line with a line feed, and its content. -/
  | whole (content : Text)
  /-- Octets without a line feed at their end, and whether they are as many as a line may have. -/
  | unended (full : Bool)
  /-- Octets that are not UTF-8. -/
  | notUtf8 (flaw : Utf8.Flaw)
deriving DecidableEq, Repr

/-- What the octets cut off a stream are. -/
def Line.ofOctets (octets : List UInt8) : Line :=
  if octets.isEmpty then .none
  else
    match Utf8.decode octets with
    | .error flaw => .notUtf8 flaw
    | .ok text =>
      if octets.getLast? = some lineFeed then .whole (contentOf text)
      else .unended (maxLine ≤ octets.length)

theorem length_takeLine (limit : Nat) (s : List UInt8) :
    (takeLine limit s).1.length + (takeLine limit s).2.length = s.length := by
  fun_induction takeLine limit s <;> simp_all <;> omega

theorem length_rest_lt {limit : Nat} {s : List UInt8} (h : (takeLine limit s).1 ≠ []) :
    (takeLine limit s).2.length < s.length := by
  have hl := length_takeLine limit s
  have : 0 < (takeLine limit s).1.length := List.length_pos_iff.mpr h
  omega

/-- Reads on with the attributes found on `count` lines so far.  `ok none` says that the stream ended
between requests. -/
def readFrom (r : Request) (count : Nat) (s : List UInt8) :
    Except ReadError (Option Request × List UInt8) :=
  let cut := takeLine maxLine s
  if cut.1 = [] then
    if count = 0 then .ok (none, cut.2) else .error .cutShort
  else
    match Line.ofOctets cut.1 with
    | .none => .error .cutShort
    | .notUtf8 flaw => .error (.notUtf8 flaw)
    | .unended full => .error (if full then .lineTooLong else .cutShort)
    | .whole content =>
      if content.isEmpty then
        if count = 0 then readFrom r count cut.2 else .ok (some r, cut.2)
      else if maxAttributes ≤ count then .error .tooManyAttributes
      else
        match parseLine content with
        | .error e => .error e
        | .ok (name, value) => readFrom (r.insert name value) (count + 1) cut.2
termination_by s.length
decreasing_by all_goals exact length_rest_lt ‹_›

/-- Reads one request off a stream; none if the stream ends before a request starts. -/
def readRequest (s : List UInt8) : Except ReadError (Option Request × List UInt8) :=
  readFrom .empty 0 s

theorem length_rest_lt_of_readFrom {r q : Request} {count : Nat} {s rest : List UInt8}
    (h : readFrom r count s = .ok (some q, rest)) : rest.length < s.length := by
  fun_induction readFrom r count s with
  | case1 => simp at h
  | case2 => simp at h
  | case3 => simp at h
  | case4 => simp at h
  | case5 => simp at h
  | case6 _ _ cut hne _ _ _ ih => exact Nat.lt_trans (ih h) (length_rest_lt hne)
  | case7 _ _ _ cut hne =>
    simp only [Except.ok.injEq, Prod.mk.injEq] at h
    exact h.2 ▸ length_rest_lt hne
  | case8 => simp at h
  | case9 => simp at h
  | case10 _ _ _ cut hne _ _ _ _ _ _ _ ih => exact Nat.lt_trans (ih h) (length_rest_lt hne)

/-- What reading one request after another gives, up to the end of the stream or the first error. -/
def readAll (s : List UInt8) : List (Except ReadError (Option Request)) :=
  match _hr : readRequest s with
  | .error e => [.error e]
  | .ok (none, _) => [.ok none]
  | .ok (some r, rest) => .ok (some r) :: readAll rest
termination_by s.length
decreasing_by exact length_rest_lt_of_readFrom _hr

/-- The reply block for an action. -/
def reply (action : Text) : Text := "action=".toList ++ action ++ ['\n', '\n']

end MailPolicy.Wire
