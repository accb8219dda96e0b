import DbFree.Chars

/- The copy of SHA-256 that hashes the statements of a ledger (integrations/qldb.rs). -/
namespace DbFree.Sha256

def K : List UInt32 :=
  [0x428a2f98, 0x71374491, 0xb5c0fbcf, 0xe9b5dba5, 0x3956c25b, 0x59f111f1, 0x923f82a4, 0xab1c5ed5,
    0xd807aa98, 0x12835b01, 0x243185be, 0x550c7dc3, 0x72be5d74, 0x80deb1fe, 0x9bdc06a7, 0xc19bf174,
    0xe49b69c1, 0xefbe4786, 0x0fc19dc6, 0x240ca1cc, 0x2de92c6f, 0x4a7484aa, 0x5cb0a9dc, 0x76f988da,
    0x983e5152, 0xa831c66d, 0xb00327c8, 0xbf597fc7, 0xc6e00bf3, 0xd5a79147, 0x06ca6351, 0x14292967,
    0x27b70a85, 0x2e1b2138, 0x4d2c6dfc, 0x53380d13, 0x650a7354, 0x766a0abb, 0x81c2c92e, 0x92722c85,
    0xa2bfe8a1, 0xa81a664b, 0xc24b8b70, 0xc76c51a3, 0xd192e819, 0xd6990624, 0xf40e3585, 0x106aa070,
    0x19a4c116, 0x1e376c08, 0x2748774c, 0x34b0bcb5, 0x391c0cb3, 0x4ed8aa4a, 0x5b9cca4f, 0x682e6ff3,
    0x748f82ee, 0x78a5636f, 0x84c87814, 0x8cc70208, 0x90befffa, 0xa4506ceb, 0xbef9a3f7, 0xc67178f2]

def rotateRight (x : UInt32) (n : Nat) : UInt32 :=
  (x >>> UInt32.ofNat n) ||| (x <<< UInt32.ofNat (32 - n))

def ofBeBytes (bytes : List UInt8) : UInt32 :=
  bytes.foldl (fun word byte => (word <<< 8) ||| byte.toUInt32) 0

def toBeBytes (word : UInt32) : Vector UInt8 4 :=
  #v[(word >>> 24).toUInt8, (word >>> 16).toUInt8, (word >>> 8).toUInt8, word.toUInt8]

/-- `chunks(size)`, of a list that has `count` of them. -/
def chunks {α : Type} (size : Nat) : Nat → List α → List (List α)
  | 0, _ => []
  | count + 1, list => list.take size :: chunks size count (list.drop size)

/-- The message, its closing bit, zeros up to 56 bytes behind a whole chunk, and its length
in bits. -/
def padded (data : List UInt8) : List UInt8 :=
  let bitLen := UInt64.ofNat data.length * 8
  let lenBytes := (toBeBytes (bitLen >>> 32).toUInt32).toList ++ (toBeBytes bitLen.toUInt32).toList
  data ++ [0x80] ++ List.replicate ((119 - data.length % 64) % 64) 0 ++ lenBytes

/-- The words of a chunk from the last to the first, and `count` more that follow from them. -/
def schedule : Nat → List UInt32 → List UInt32
  | 0, words => words
  | count + 1, words =>
    let w := fun back => words.getD (back - 1) 0
    let s0 := rotateRight (w 15) 7 ^^^ rotateRight (w 15) 18 ^^^ (w 15 >>> 3)
    let s1 := rotateRight (w 2) 17 ^^^ rotateRight (w 2) 19 ^^^ (w 2 >>> 10)
    schedule count ((w 16 + s0 + w 7 + s1) :: words)

/-- The state `h`, and the variables `a` to `hh` of a chunk. -/
structure Words where
  a : UInt32
  b : UInt32
  c : UInt32
  d : UInt32
  e : UInt32
  f : UInt32
  g : UInt32
  hh : UInt32

def Words.round (state : Words) (k w : UInt32) : Words :=
  let ⟨a, b, c, d, e, f, g, hh⟩ := state
  let s1 := rotateRight e 6 ^^^ rotateRight e 11 ^^^ rotateRight e 25
  let ch := (e &&& f) ^^^ (~~~e &&& g)
  let t1 := hh + s1 + ch + k + w
  let s0 := rotateRight a 2 ^^^ rotateRight a 13 ^^^ rotateRight a 22
  let maj := (a &&& b) ^^^ (a &&& c) ^^^ (b &&& c)
  ⟨t1 + (s0 + maj), a, b, c, d + t1, e, f, g⟩

def Words.add (x y : Words) : Words :=
  ⟨x.a + y.a, x.b + y.b, x.c + y.c, x.d + y.d, x.e + y.e, x.f + y.f, x.g + y.g, x.hh + y.hh⟩

def compress (h : Words) (chunk : List UInt8) : Words :=
  let words := schedule 48 ((chunks 4 16 chunk).map ofBeBytes).reverse
  h.add ((K.zip words.reverse).foldl (fun state kw => state.round kw.1 kw.2) h)

def start : Words :=
  ⟨0x6a09e667, 0xbb67ae85, 0x3c6ef372, 0xa54ff53a, 0x510e527f, 0x9b05688c, 0x1f83d9ab, 0x5be0cd19⟩

def sha256 (data : List UInt8) : Vector UInt8 32 :=
  let msg := padded data
  let ⟨a, b, c, d, e, f, g, hh⟩ := (chunks 64 (msg.length / 64) msg).foldl compress start
  (#v[a, b, c, d, e, f, g, hh].map toBeBytes).flatten

-- "abc"
example : (sha256 [0x61, 0x62, 0x63]).toList =
    [0xba, 0x78, 0x16, 0xbf, 0x8f, 0x01, 0xcf, 0xea, 0x41, 0x41, 0x40, 0xde, 0x5d, 0xae, 0x22, 0x23,
      0xb0, 0x03, 0x61, 0xa3, 0x96, 0x17, 0x7a, 0x9c, 0xb4, 0x10, 0xff, 0x61, 0xf2, 0x00, 0x15,
      0xad] := by
  decide +kernel

end DbFree.Sha256
