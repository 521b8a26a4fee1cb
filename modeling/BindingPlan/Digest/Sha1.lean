/-! # SHA-1

The message digest of FIPS 180-4, as a fold of the message's blocks over five words. All words
have thirty-two bits, so their addition is modulo `2 ^ 32`. -/

namespace BindingPlan.Digest

/-- The five words that a digest consists of. -/
structure Words where
  a : UInt32
  b : UInt32
  c : UInt32
  d : UInt32
  e : UInt32

/-- The words before the first block. -/
def Words.start : Words :=
  ⟨0x67452301, 0xEFCDAB89, 0x98BADCFE, 0x10325476, 0xC3D2E1F0⟩

/-- The word with its bits turned to the left; `n` is between 1 and 31. -/
def rotateLeft (w : UInt32) (n : UInt32) : UInt32 :=
  (w <<< n) ||| (w >>> (32 - n))

/-- The four bytes of a word, the highest first. -/
def bytesOfWord (w : UInt32) : List UInt8 :=
  [(w >>> 24).toUInt8, (w >>> 16).toUInt8, (w >>> 8).toUInt8, w.toUInt8]

/-- The words that a list of bytes spells, four bytes each, the highest first. -/
def wordsOfBytes : List UInt8 → List UInt32
  | a :: b :: c :: d :: rest =>
    ((a.toUInt32 <<< 24) ||| (b.toUInt32 <<< 16) ||| (c.toUInt32 <<< 8) ||| d.toUInt32) ::
      wordsOfBytes rest
  | _ => []

/-- The message with a one bit, zeros, and its length in bits in eight bytes: a multiple of
sixty-four bytes. -/
def padded (message : List UInt8) : List UInt8 :=
  let bits := message.length * 8
  let zeros := (119 - message.length % 64) % 64
  message ++ [0x80] ++ List.replicate zeros 0 ++
    bytesOfWord (bits / UInt32.size).toUInt32 ++ bytesOfWord bits.toUInt32

/-- The words of a block followed by as many more as asked for; the words are kept newest first. -/
def expand : Nat → List UInt32 → List UInt32
  | 0, newest => newest
  | count + 1, newest =>
    let mix := newest.getD 2 0 ^^^ newest.getD 7 0 ^^^ newest.getD 13 0 ^^^ newest.getD 15 0
    expand count (rotateLeft mix 1 :: newest)

/-- The mixing function and the constant of a round. -/
def mixing (round : Nat) (b c d : UInt32) : UInt32 × UInt32 :=
  if round < 20 then ((b &&& c) ||| (~~~b &&& d), 0x5A827999)
  else if round < 40 then (b ^^^ c ^^^ d, 0x6ED9EBA1)
  else if round < 60 then ((b &&& c) ||| (b &&& d) ||| (c &&& d), 0x8F1BBCDC)
  else (b ^^^ c ^^^ d, 0xCA62C1D6)

/-- One round, with one word of the expanded block. -/
def Words.round (s : Words) (round : Nat) (word : UInt32) : Words :=
  let (f, k) := mixing round s.b s.c s.d
  ⟨rotateLeft s.a 5 + f + s.e + k + word, s.a, rotateLeft s.b 30, s.c, s.d⟩

/-- The eighty rounds over one block of sixteen words, added to the words before it. -/
def Words.absorb (s : Words) (block : List UInt32) : Words :=
  let words := (expand 64 block.reverse).reverse
  let t := words.zipIdx.foldl (fun t (word, round) => t.round round word) s
  ⟨s.a + t.a, s.b + t.b, s.c + t.c, s.d + t.d, s.e + t.e⟩

/-- A list cut into pieces of sixteen; `count` bounds their number. -/
def blocks : Nat → List UInt32 → List (List UInt32)
  | 0, _ => []
  | _, [] => []
  | count + 1, words => words.take 16 :: blocks count (words.drop 16)

/-- The twenty bytes of a message's digest. -/
def sha1 (message : List UInt8) : List UInt8 :=
  let words := wordsOfBytes (padded message)
  let s := (blocks words.length words).foldl Words.absorb Words.start
  [s.a, s.b, s.c, s.d, s.e].flatMap bytesOfWord

end BindingPlan.Digest
