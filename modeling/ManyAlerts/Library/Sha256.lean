import Mathlib.Tactic
import ManyAlerts.Library.Json

/-!
# SHA-256

The hash function of FIPS 180-4 over byte strings, written on natural-number
words, and its lower-case hexadecimal text.  The words are arguments of their own
and the operations those that the kernel computes on literals, so that a digest
can be evaluated.  General results never compute with it: they use that a digest
text has sixty-four hexadecimal digits, and name the messages on which they
assume that it does not collide.
-/

namespace ManyAlerts

namespace Sha256

def roundConstants : List Nat :=
  [0x428a2f98, 0x71374491, 0xb5c0fbcf, 0xe9b5dba5, 0x3956c25b, 0x59f111f1, 0x923f82a4,
    0xab1c5ed5, 0xd807aa98, 0x12835b01, 0x243185be, 0x550c7dc3, 0x72be5d74, 0x80deb1fe,
    0x9bdc06a7, 0xc19bf174, 0xe49b69c1, 0xefbe4786, 0x0fc19dc6, 0x240ca1cc, 0x2de92c6f,
    0x4a7484aa, 0x5cb0a9dc, 0x76f988da, 0x983e5152, 0xa831c66d, 0xb00327c8, 0xbf597fc7,
    0xc6e00bf3, 0xd5a79147, 0x06ca6351, 0x14292967, 0x27b70a85, 0x2e1b2138, 0x4d2c6dfc,
    0x53380d13, 0x650a7354, 0x766a0abb, 0x81c2c92e, 0x92722c85, 0xa2bfe8a1, 0xa81a664b,
    0xc24b8b70, 0xc76c51a3, 0xd192e819, 0xd6990624, 0xf40e3585, 0x106aa070, 0x19a4c116,
    0x1e376c08, 0x2748774c, 0x34b0bcb5, 0x391c0cb3, 0x4ed8aa4a, 0x5b9cca4f, 0x682e6ff3,
    0x748f82ee, 0x78a5636f, 0x84c87814, 0x8cc70208, 0x90befffa, 0xa4506ceb, 0xbef9a3f7,
    0xc67178f2]

def wordMask : Nat := 0xffffffff

/-- A word written twice: shifted to the right, its low half is the rotated word. -/
def twice (word : Nat) : Nat := word.mul 0x100000001

def addWords (left right : Nat) : Nat := (left.add right).land wordMask

structure State where
  a : Nat
  b : Nat
  c : Nat
  d : Nat
  e : Nat
  f : Nat
  g : Nat
  h : Nat

def initial : State :=
  ⟨0x6a09e667, 0xbb67ae85, 0x3c6ef372, 0xa54ff53a, 0x510e527f, 0x9b05688c, 0x1f83d9ab,
    0x5be0cd19⟩

def bigSigma0 (word : Nat) : Nat :=
  ((((twice word).shiftRight 2).xor ((twice word).shiftRight 13)).xor
    ((twice word).shiftRight 22)).land wordMask

def bigSigma1 (word : Nat) : Nat :=
  ((((twice word).shiftRight 6).xor ((twice word).shiftRight 11)).xor
    ((twice word).shiftRight 25)).land wordMask

def smallSigma0 (word : Nat) : Nat :=
  ((((twice word).shiftRight 7).xor ((twice word).shiftRight 18)).land wordMask).xor
    (word.shiftRight 3)

def smallSigma1 (word : Nat) : Nat :=
  ((((twice word).shiftRight 17).xor ((twice word).shiftRight 19)).land wordMask).xor
    (word.shiftRight 10)

def choice (e f g : Nat) : Nat := (e.land f).xor ((wordMask.xor e).land g)

def majority (a b c : Nat) : Nat := ((a.land b).xor (a.land c)).xor (b.land c)

/-- The rounds of one block on the last sixteen schedule words, oldest first, and
the working variables. -/
def rounds : List Nat →
    Nat → Nat → Nat → Nat → Nat → Nat → Nat → Nat →
    Nat → Nat → Nat → Nat → Nat → Nat → Nat → Nat →
    Nat → Nat → Nat → Nat → Nat → Nat → Nat → Nat → State
  | [], _, _, _, _, _, _, _, _, _, _, _, _, _, _, _, _, a, b, c, d, e, f, g, h =>
      ⟨a, b, c, d, e, f, g, h⟩
  | constant :: constants, w0, w1, w2, w3, w4, w5, w6, w7, w8, w9, w10, w11, w12, w13, w14, w15,
      a, b, c, d, e, f, g, h =>
      let first := (((h.add (bigSigma1 e)).add (choice e f g)).add constant).add w0
      let second := (bigSigma0 a).add (majority a b c)
      let next := addWords (smallSigma1 w14) ((w9.add (smallSigma0 w1)).add w0)
      rounds constants w1 w2 w3 w4 w5 w6 w7 w8 w9 w10 w11 w12 w13 w14 w15 next
        (addWords first second) a b c (addWords d first) e f g

/-- One block; a block always has sixteen words. -/
def block (state : State) : List Nat → State
  | [w0, w1, w2, w3, w4, w5, w6, w7, w8, w9, w10, w11, w12, w13, w14, w15] =>
      let last := rounds roundConstants w0 w1 w2 w3 w4 w5 w6 w7 w8 w9 w10 w11 w12 w13 w14 w15
        state.a state.b state.c state.d state.e state.f state.g state.h
      ⟨addWords state.a last.a, addWords state.b last.b, addWords state.c last.c,
        addWords state.d last.d, addWords state.e last.e, addWords state.f last.f,
        addWords state.g last.g, addWords state.h last.h⟩
  | _ => state

def words : Bytes → List Nat
  | a :: b :: c :: d :: rest =>
      (((a.toNat.mul 16777216).add (b.toNat.mul 65536)).add (c.toNat.mul 256)).add d.toNat ::
        words rest
  | _ => []

def blocks : Nat → List Nat → List (List Nat)
  | 0, _ => []
  | count + 1, words => words.take 16 :: blocks count (words.drop 16)

/-- The message, one set bit, zeros to the block boundary and the bit length. -/
def pad (message : Bytes) : Bytes :=
  message ++ (0x80 : UInt8) :: (List.replicate ((119 - message.length % 64) % 64) (0 : UInt8) ++
    (List.range 8).map fun index =>
      UInt8.ofNat ((8 * message.length) >>> (8 * (7 - index)) % 256))

def digest (message : Bytes) : State :=
  let words := words (pad message)
  (blocks (words.length / 16) words).foldl block initial

def wordBytes (word : Nat) : Bytes :=
  (List.range 4).map fun index => UInt8.ofNat (word >>> (8 * (3 - index)) % 256)

def hexChar (digit : Nat) : Char :=
  if digit < 10 then Char.ofNat (48 + digit) else Char.ofNat (87 + digit)

def hexWord (word : Nat) : List Char :=
  (List.range 8).map fun index => hexChar ((word >>> (4 * (7 - index))) % 16)

def hexChars (state : State) : List Char :=
  hexWord state.a ++ hexWord state.b ++ hexWord state.c ++ hexWord state.d ++
    hexWord state.e ++ hexWord state.f ++ hexWord state.g ++ hexWord state.h

end Sha256

/-- The SHA-256 digest of a message. -/
def sha256 (message : Bytes) : Bytes :=
  let state := Sha256.digest message
  [state.a, state.b, state.c, state.d, state.e, state.f, state.g, state.h].flatMap
    Sha256.wordBytes

/-- The lower-case hexadecimal SHA-256 digest of a message. -/
def sha256Hex (message : Bytes) : String :=
  String.ofList (Sha256.hexChars (Sha256.digest message))

def isHexChar (character : Char) : Bool :=
  ('0' ≤ character && character ≤ '9') || ('a' ≤ character && character ≤ 'f')

theorem Sha256.isHexChar_hexChar {digit : Nat} (bound : digit < 16) :
    isHexChar (Sha256.hexChar digit) = true := by
  interval_cases digit <;> decide

theorem Sha256.isHexChar_of_mem_hexWord {word : Nat} {character : Char}
    (member : character ∈ Sha256.hexWord word) : isHexChar character = true := by
  obtain ⟨index, _, rfl⟩ := List.mem_map.mp member
  exact isHexChar_hexChar (Nat.mod_lt _ (by decide))

theorem length_sha256 (message : Bytes) : (sha256 message).length = 32 := by
  simp [sha256, Sha256.wordBytes]

theorem length_sha256Hex (message : Bytes) : (sha256Hex message).length = 64 := by
  simp [sha256Hex, Sha256.hexChars, Sha256.hexWord]

theorem isHexChar_of_mem_sha256Hex {message : Bytes} {character : Char}
    (member : character ∈ (sha256Hex message).toList) : isHexChar character = true := by
  simp only [sha256Hex, String.toList_ofList, Sha256.hexChars, List.mem_append] at member
  rcases member with ((((((member | member) | member) | member) | member) | member) |
    member) | member <;> exact Sha256.isHexChar_of_mem_hexWord member

end ManyAlerts
