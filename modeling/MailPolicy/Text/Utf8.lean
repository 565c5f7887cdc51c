/-
UTF-8, the octet form of text.

`Utf8.decode` reads a whole octet sequence and refuses any that is not well formed: overlong forms,
surrogates, numbers beyond the last character and cut sequences; it says where.  `Utf8.decodeLossy` writes one
replacement character for each maximal ill-formed part instead.  `Utf8.encode` is the other direction.
-/
import MailPolicy.Text.Basic

namespace MailPolicy.Utf8

/-- Octets that continue a character. -/
def isTail (b : UInt8) : Bool := 0x80 ≤ b && b ≤ 0xBF

/-- Lower bound of the second octet after the first octet `a` of a longer character. -/
def secondLow (a : UInt8) : UInt8 :=
  if a = 0xE0 then 0xA0 else if a = 0xF0 then 0x90 else 0x80

/-- Upper bound of the second octet after the first octet `a` of a longer character. -/
def secondHigh (a : UInt8) : UInt8 :=
  if a = 0xED then 0x9F else if a = 0xF4 then 0x8F else 0xBF

/-- Whether `b` may follow the first octet `a`. -/
def isSecond (a b : UInt8) : Bool := secondLow a ≤ b && b ≤ secondHigh a

/-- How many octets a character takes whose first octet is `a`; zero if none starts so. -/
def width (a : UInt8) : Nat :=
  if a < 0x80 then 1
  else if 0xC2 ≤ a && a ≤ 0xDF then 2
  else if 0xE0 ≤ a && a ≤ 0xEF then 3
  else if 0xF0 ≤ a && a ≤ 0xF4 then 4
  else 0

/-- The character of a two-octet form. -/
def char2 (a b : UInt8) : Char := Char.ofNat ((a.toNat - 0xC0) * 64 + (b.toNat - 0x80))

/-- The character of a three-octet form. -/
def char3 (a b c : UInt8) : Char :=
  Char.ofNat (((a.toNat - 0xE0) * 64 + (b.toNat - 0x80)) * 64 + (c.toNat - 0x80))

/-- The character of a four-octet form. -/
def char4 (a b c d : UInt8) : Char :=
  Char.ofNat ((((a.toNat - 0xF0) * 64 + (b.toNat - 0x80)) * 64 + (c.toNat - 0x80)) * 64 + (d.toNat - 0x80))

/-- The first place at which octets write no character. -/
structure Flaw where
  /-- How many octets stand before it. -/
  index : Nat
  /-- How many octets are ill formed; absent if the octets end inside a character. -/
  length : Option Nat
deriving DecidableEq, Repr

/-- The text of a flaw. -/
def Flaw.message (f : Flaw) : String :=
  match f.length with
  | some n =>
    "invalid utf-8 sequence of " ++ String.ofList (Text.decimal n) ++ " bytes from index " ++
      String.ofList (Text.decimal f.index)
  | none => "incomplete utf-8 byte sequence from index " ++ String.ofList (Text.decimal f.index)

/-- The text that octets write, `index` octets having gone before, or their first flaw. -/
def decodeFrom (index : Nat) : List UInt8 → Except Flaw Text
  | [] => .ok []
  | a :: s =>
    match width a, s with
    | 1, s => (decodeFrom (index + 1) s).map (Char.ofNat a.toNat :: ·)
    | 2, b :: s =>
      if isTail b then (decodeFrom (index + 2) s).map (char2 a b :: ·) else .error ⟨index, some 1⟩
    | 3, b :: s =>
      if isSecond a b then
        match s with
        | c :: s =>
          if isTail c then (decodeFrom (index + 3) s).map (char3 a b c :: ·) else .error ⟨index, some 2⟩
        | [] => .error ⟨index, none⟩
      else .error ⟨index, some 1⟩
    | 4, b :: s =>
      if isSecond a b then
        match s with
        | c :: s =>
          if isTail c then
            match s with
            | d :: s =>
              if isTail d then (decodeFrom (index + 4) s).map (char4 a b c d :: ·)
              else .error ⟨index, some 3⟩
            | [] => .error ⟨index, none⟩
          else .error ⟨index, some 2⟩
        | [] => .error ⟨index, none⟩
      else .error ⟨index, some 1⟩
    | 0, _ => .error ⟨index, some 1⟩
    | _, _ => .error ⟨index, none⟩
termination_by s => s.length

/-- The text that octets write, or their first flaw. -/
def decode (s : List UInt8) : Except Flaw Text := decodeFrom 0 s

/-- The text that the octets write, unless some part of them is ill formed. -/
def decode? (s : List UInt8) : Option Text := (decode s).toOption

/-- The sign that stands for octets which write no character. -/
def replacement : Char := '\uFFFD'

/-- The text that the octets write, each maximal ill-formed part as one replacement character. -/
def decodeLossy : List UInt8 → Text
  | [] => []
  | a :: s =>
    match width a, s with
    | 1, s => Char.ofNat a.toNat :: decodeLossy s
    | 2, b :: s => if isTail b then char2 a b :: decodeLossy s else replacement :: decodeLossy (b :: s)
    | 3, b :: s =>
      if isSecond a b then
        match s with
        | c :: s => if isTail c then char3 a b c :: decodeLossy s else replacement :: decodeLossy (c :: s)
        | [] => [replacement]
      else replacement :: decodeLossy (b :: s)
    | 4, b :: s =>
      if isSecond a b then
        match s with
        | c :: s =>
          if isTail c then
            match s with
            | d :: s =>
              if isTail d then char4 a b c d :: decodeLossy s else replacement :: decodeLossy (d :: s)
            | [] => [replacement]
          else replacement :: decodeLossy (c :: s)
        | [] => [replacement]
      else replacement :: decodeLossy (b :: s)
    | _, s => replacement :: decodeLossy s
termination_by s => s.length

/-- The octets of a text. -/
def encode (s : Text) : List UInt8 := s.flatMap String.utf8EncodeChar

end MailPolicy.Utf8
