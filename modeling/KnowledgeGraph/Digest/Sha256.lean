/-!
# The SHA-256 digest

The digest of a text is the SHA-256 hash of its UTF-8 bytes, written as hexadecimal digits.
It serves as an identity and not as a protection.

The message is padded to whole blocks of 64 bytes.  Each block is expanded to 64 words, and
one round per word mixes it into a chain of eight words.  The digest is the chain after the
last block.  `length_digestChars` says that a digest has 64 characters and
`isHexDigit_of_mem_digestChars` that all of them are hexadecimal digits.
-/

namespace KnowledgeGraph.Digest

/-! ## Rounds -/

/-- The round constants. -/
def roundConstants : List UInt32 :=
  [0x428A2F98, 0x71374491, 0xB5C0FBCF, 0xE9B5DBA5, 0x3956C25B, 0x59F111F1,
   0x923F82A4, 0xAB1C5ED5, 0xD807AA98, 0x12835B01, 0x243185BE, 0x550C7DC3,
   0x72BE5D74, 0x80DEB1FE, 0x9BDC06A7, 0xC19BF174, 0xE49B69C1, 0xEFBE4786,
   0x0FC19DC6, 0x240CA1CC, 0x2DE92C6F, 0x4A7484AA, 0x5CB0A9DC, 0x76F988DA,
   0x983E5152, 0xA831C66D, 0xB00327C8, 0xBF597FC7, 0xC6E00BF3, 0xD5A79147,
   0x06CA6351, 0x14292967, 0x27B70A85, 0x2E1B2138, 0x4D2C6DFC, 0x53380D13,
   0x650A7354, 0x766A0ABB, 0x81C2C92E, 0x92722C85, 0xA2BFE8A1, 0xA81A664B,
   0xC24B8B70, 0xC76C51A3, 0xD192E819, 0xD6990624, 0xF40E3585, 0x106AA070,
   0x19A4C116, 0x1E376C08, 0x2748774C, 0x34B0BCB5, 0x391C0CB3, 0x4ED8AA4A,
   0x5B9CCA4F, 0x682E6FF3, 0x748F82EE, 0x78A5636F, 0x84C87814, 0x8CC70208,
   0x90BEFFFA, 0xA4506CEB, 0xBEF9A3F7, 0xC67178F2]

/-- The eight words that go from block to block. -/
structure Chain where
  /-- The first word. -/
  a : UInt32
  /-- The second word. -/
  b : UInt32
  /-- The third word. -/
  c : UInt32
  /-- The fourth word. -/
  d : UInt32
  /-- The fifth word. -/
  e : UInt32
  /-- The sixth word. -/
  f : UInt32
  /-- The seventh word. -/
  g : UInt32
  /-- The eighth word. -/
  h : UInt32

/-- The chain before the first block. -/
def Chain.start : Chain :=
  ⟨0x6A09E667, 0xBB67AE85, 0x3C6EF372, 0xA54FF53A,
   0x510E527F, 0x9B05688C, 0x1F83D9AB, 0x5BE0CD19⟩

/-- The words of a chain, in order. -/
def Chain.words (s : Chain) : List UInt32 := [s.a, s.b, s.c, s.d, s.e, s.f, s.g, s.h]

/-- The word-wise sum of two chains. -/
def Chain.add (s t : Chain) : Chain :=
  ⟨s.a + t.a, s.b + t.b, s.c + t.c, s.d + t.d, s.e + t.e, s.f + t.f, s.g + t.g, s.h + t.h⟩

/-- A word turned right by `n` bits, for `0 < n < 32`. -/
def rotateRight (x n : UInt32) : UInt32 := (x >>> n) ||| (x <<< (32 - n))

/-- One round with a round constant and a word of the block. -/
def Chain.round (s : Chain) (k w : UInt32) : Chain :=
  let mixedE := rotateRight s.e 6 ^^^ rotateRight s.e 11 ^^^ rotateRight s.e 25
  let choice := (s.e &&& s.f) ^^^ (~~~s.e &&& s.g)
  let t := s.h + mixedE + choice + k + w
  let mixedA := rotateRight s.a 2 ^^^ rotateRight s.a 13 ^^^ rotateRight s.a 22
  let majority := (s.a &&& s.b) ^^^ (s.a &&& s.c) ^^^ (s.b &&& s.c)
  ⟨t + (mixedA + majority), s.a, s.b, s.c, s.d + t, s.e, s.f, s.g⟩

/-! ## Blocks -/

/-- The next word of a block's expansion.  The words so far come with the last one first. -/
def nextWord (latest : List UInt32) : UInt32 :=
  let x := latest.getD 14 0
  let y := latest.getD 1 0
  (rotateRight y 17 ^^^ rotateRight y 19 ^^^ (y >>> 10)) + latest.getD 6 0 +
    (rotateRight x 7 ^^^ rotateRight x 18 ^^^ (x >>> 3)) + latest.getD 15 0

/-- The words so far, the last one first, with `n` more words. -/
def expand : Nat → List UInt32 → List UInt32
  | 0, latest => latest
  | n + 1, latest => expand n (nextWord latest :: latest)

/-- The chain after a block, given as its sixteen words. -/
def Chain.absorb (s : Chain) (block : List UInt32) : Chain :=
  let expanded := (expand 48 block.reverse).reverse
  s.add ((roundConstants.zip expanded).foldl (fun s kw => s.round kw.1 kw.2) s)

/-- The big-endian word that starts at a place of a message. -/
def wordAt (bytes : Array UInt8) (i : Nat) : UInt32 :=
  [0, 1, 2, 3].foldl (fun w k => (w <<< 8) ||| (bytes.getD (i + k) 0).toUInt32) 0

/-- The sixteen words of a block. -/
def blockAt (bytes : Array UInt8) (block : Nat) : List UInt32 :=
  (List.range 16).map fun i => wordAt bytes (64 * block + 4 * i)

/-- A message with one set bit, zeros up to eight bytes before a block's end, and its length
in bits. -/
def pad (bytes : Array UInt8) : Array UInt8 :=
  let zeros := (119 - bytes.size % 64) % 64
  let length := (List.range 8).map fun i => UInt8.ofNat ((bytes.size * 8) >>> (8 * (7 - i)))
  bytes.push 0x80 ++ Array.replicate zeros 0 ++ length.toArray

/-- The chain after a whole message. -/
def chainOf (message : Array UInt8) : Chain :=
  let bytes := pad message
  (List.range (bytes.size / 64)).foldl (fun s i => s.absorb (blockAt bytes i)) Chain.start

/-! ## Hexadecimal digits -/

/-- The digit of a number below 16. -/
def hexDigit (n : Nat) : Char :=
  if n < 10 then Char.ofNat (48 + n) else Char.ofNat (87 + n)

/-- The eight digits of a word. -/
def hexWord (w : UInt32) : List Char :=
  (List.range 8).map fun i => hexDigit ((w.toNat >>> (4 * (7 - i))) % 16)

/-- The digest of a text, as characters. -/
def digestChars (s : String) : List Char :=
  (chainOf s.toUTF8.data).words.flatMap hexWord

/-- The digest of a text. -/
def digest (s : String) : String := String.ofList (digestChars s)

/-- A digest has 64 characters. -/
theorem length_digestChars (s : String) : (digestChars s).length = 64 := by
  simp [digestChars, Chain.words, hexWord]

/-- Whether a character is a hexadecimal digit in lower case. -/
def isHexDigit (c : Char) : Bool := ('0' ≤ c && c ≤ '9') || ('a' ≤ c && c ≤ 'f')

/-- The digit of a number below 16 is a hexadecimal digit. -/
theorem isHexDigit_hexDigit {n : Nat} (h : n < 16) : isHexDigit (hexDigit n) = true := by
  have all : ∀ m : Fin 16, isHexDigit (hexDigit m) = true := by decide
  exact all ⟨n, h⟩

/-- The characters of a digest are hexadecimal digits. -/
theorem isHexDigit_of_mem_digestChars {s : String} {c : Char} (h : c ∈ digestChars s) :
    isHexDigit c = true := by
  obtain ⟨w, -, hw⟩ := List.mem_flatMap.1 h
  obtain ⟨i, -, rfl⟩ := List.mem_map.1 hw
  exact isHexDigit_hexDigit (Nat.mod_lt _ (by decide))

end KnowledgeGraph.Digest
