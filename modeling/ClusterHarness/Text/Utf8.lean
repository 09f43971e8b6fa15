/-!
# Text as bytes

UTF-8 with its malformed sequences. Decoding takes one step at a time: either a whole character,
or the longest part of a sequence that no character can complete. Strict reading refuses any
malformed part, lossy reading puts the replacement character in its place.
-/

namespace ClusterHarness

/-- What files hold and processes write. -/
abbrev Bytes := List UInt8

namespace Text

/-- The bytes of a text. -/
def encode (cs : List Char) : Bytes := cs.flatMap String.utf8EncodeChar

/-- The bytes that may follow the first byte of a character: how many, and the least and greatest
value of the first of them. -/
def tailsAfter (b : UInt8) : Option (Nat × UInt8 × UInt8) :=
  if b < 0x80 then some (0, 0x80, 0xbf)
  else if 0xc2 ≤ b && b ≤ 0xdf then some (1, 0x80, 0xbf)
  else if b == 0xe0 then some (2, 0xa0, 0xbf)
  else if b == 0xed then some (2, 0x80, 0x9f)
  else if 0xe1 ≤ b && b ≤ 0xef then some (2, 0x80, 0xbf)
  else if b == 0xf0 then some (3, 0x90, 0xbf)
  else if b == 0xf4 then some (3, 0x80, 0x8f)
  else if 0xf1 ≤ b && b ≤ 0xf3 then some (3, 0x80, 0xbf)
  else none

/-- The leading bits of a character that its first byte holds. -/
def headBits (b : UInt8) : Nat :=
  if b < 0x80 then b.toNat
  else if b < 0xe0 then b.toNat % 32
  else if b < 0xf0 then b.toNat % 16
  else b.toNat % 8

/-- Read `owed` more bytes of a character, the first of them between `low` and `high`. -/
def decodeTails : Nat → UInt8 → UInt8 → Nat → Bytes → Option Char × Bytes
  | 0, _, _, value, bs => (some (Char.ofNat value), bs)
  | _ + 1, _, _, _, [] => (none, [])
  | owed + 1, low, high, value, b :: bs =>
    if low ≤ b && b ≤ high then decodeTails owed 0x80 0xbf (value * 64 + b.toNat % 64) bs
    else (none, b :: bs)

/-- The first character of a byte sequence, or nothing for a malformed part, and the bytes
after it. -/
def decodeFirst (b : UInt8) (bs : Bytes) : Option Char × Bytes :=
  match tailsAfter b with
  | none => (none, bs)
  | some (owed, low, high) => decodeTails owed low high (headBits b) bs

/-- Reading the rest of a character never lengthens the input. -/
theorem length_decodeTails_le (owed : Nat) (low high : UInt8) (value : Nat) (bs : Bytes) :
    (decodeTails owed low high value bs).2.length ≤ bs.length := by
  induction owed generalizing low high value bs with
  | zero => simp [decodeTails]
  | succ owed ih =>
    cases bs with
    | nil => simp [decodeTails]
    | cons b bs =>
      simp only [decodeTails]
      split
      · exact Nat.le_trans (ih _ _ _ _) (by simp)
      · simp

/-- A decoding step consumes at least its first byte. -/
theorem length_decodeFirst_le (b : UInt8) (bs : Bytes) :
    (decodeFirst b bs).2.length ≤ bs.length := by
  unfold decodeFirst
  split
  · simp
  · exact length_decodeTails_le _ _ _ _ _

/-- The characters of a byte sequence, with nothing in the place of each malformed part. -/
def decode : Bytes → List (Option Char)
  | [] => []
  | b :: bs => (decodeFirst b bs).1 :: decode (decodeFirst b bs).2
termination_by bs => bs.length
decreasing_by simpa using Nat.lt_succ_of_le (length_decodeFirst_le b bs)

/-- The text of well-formed bytes. -/
def decodeStrict (bs : Bytes) : Option (List Char) := (decode bs).mapM id

/-- The text of any bytes, with U+FFFD for each malformed part. -/
def decodeLossy (bs : Bytes) : List Char := (decode bs).map (·.getD '\ufffd')

/-- A part of a byte sequence that is no character. -/
structure Malformed where
  /-- How many bytes are before it. -/
  start : Nat
  /-- How many bytes it has, unless the end of the input cuts a character short. -/
  length : Option Nat
deriving DecidableEq, Repr, Inhabited

/-- The first malformed part of bytes that stand after `start` others. -/
def malformed? (start : Nat) : Bytes → Option Malformed
  | [] => none
  | b :: bs =>
    match _h : decodeFirst b bs with
    | (some c, rest) => malformed? (start + c.utf8Size) rest
    | (none, rest) =>
      if rest.isEmpty && (tailsAfter b).isSome then some ⟨start, none⟩
      else some ⟨start, some (bs.length + 1 - rest.length)⟩
termination_by bs => bs.length
decreasing_by
  have := length_decodeFirst_le b bs
  rw [_h] at this
  exact Nat.lt_succ_of_le this

/-- The bytes of a string. -/
def toBytes (s : String) : Bytes := encode s.toList

/-- The string of well-formed bytes. -/
def ofBytes? (bs : Bytes) : Option String := (decodeStrict bs).map String.ofList

end Text
end ClusterHarness
