import SelectiveDisclosure.Bytes.Fixed

/-!
Blake2b with an output of 32 bytes and no key. A message is taken in blocks of 128 bytes, the last
one filled up with zero bytes; each block is mixed into eight words by twelve rounds.
-/

namespace SelectiveDisclosure.Blake2b

abbrev Chain := Vector UInt64 8

abbrev Work := Vector UInt64 16

def initial : Chain :=
  #v[0x6a09e667f3bcc908, 0xbb67ae8584caa73b, 0x3c6ef372fe94f82b, 0xa54ff53a5f1d36f1,
    0x510e527fade682d1, 0x9b05688c2b3e6c1f, 0x1f83d9abfb41bd6b, 0x5be0cd19137e2179]

def schedule : List (Vector (Fin 16) 16) :=
  [#v[0, 1, 2, 3, 4, 5, 6, 7, 8, 9, 10, 11, 12, 13, 14, 15],
   #v[14, 10, 4, 8, 9, 15, 13, 6, 1, 12, 0, 2, 11, 7, 5, 3],
   #v[11, 8, 12, 0, 5, 2, 15, 13, 10, 14, 3, 6, 7, 1, 9, 4],
   #v[7, 9, 3, 1, 13, 12, 11, 14, 2, 6, 5, 10, 4, 0, 15, 8],
   #v[9, 0, 5, 7, 2, 4, 10, 15, 14, 1, 11, 12, 6, 8, 3, 13],
   #v[2, 12, 6, 10, 0, 11, 8, 3, 4, 13, 7, 5, 15, 14, 1, 9],
   #v[12, 5, 1, 15, 14, 13, 4, 10, 0, 7, 6, 3, 9, 2, 8, 11],
   #v[13, 11, 7, 14, 12, 1, 3, 9, 5, 0, 15, 4, 8, 6, 2, 10],
   #v[6, 15, 14, 9, 11, 3, 0, 8, 12, 2, 13, 7, 1, 4, 10, 5],
   #v[10, 2, 8, 4, 7, 6, 1, 5, 15, 11, 9, 14, 3, 12, 13, 0],
   #v[0, 1, 2, 3, 4, 5, 6, 7, 8, 9, 10, 11, 12, 13, 14, 15],
   #v[14, 10, 4, 8, 9, 15, 13, 6, 1, 12, 0, 2, 11, 7, 5, 3]]

def rotateRight (x : UInt64) (k : UInt64) : UInt64 := (x >>> k) ||| (x <<< (64 - k))

def mix (v : Work) (a b c d : Fin 16) (x y : UInt64) : Work :=
  let va := v[a] + v[b] + x
  let vd := rotateRight (v[d] ^^^ va) 32
  let vc := v[c] + vd
  let vb := rotateRight (v[b] ^^^ vc) 24
  let va := va + vb + y
  let vd := rotateRight (vd ^^^ va) 16
  let vc := vc + vd
  let vb := rotateRight (vb ^^^ vc) 63
  (((v.set a va).set b vb).set c vc).set d vd

def round (m : Work) (v : Work) (s : Vector (Fin 16) 16) : Work :=
  let v := mix v 0 4 8 12 m[s[0]] m[s[1]]
  let v := mix v 1 5 9 13 m[s[2]] m[s[3]]
  let v := mix v 2 6 10 14 m[s[4]] m[s[5]]
  let v := mix v 3 7 11 15 m[s[6]] m[s[7]]
  let v := mix v 0 5 10 15 m[s[8]] m[s[9]]
  let v := mix v 1 6 11 12 m[s[10]] m[s[11]]
  let v := mix v 2 7 8 13 m[s[12]] m[s[13]]
  mix v 3 4 9 14 m[s[14]] m[s[15]]

/-- Mixes a block into the chain. `count` is the number of message bytes up to its end. -/
def compress (h : Chain) (m : Work) (count : Nat) (last : Bool) : Chain :=
  let final : UInt64 := if last then 0xffffffffffffffff else 0
  let start : Work := #v[h[0], h[1], h[2], h[3], h[4], h[5], h[6], h[7],
    initial[0], initial[1], initial[2], initial[3],
    initial[4] ^^^ UInt64.ofNat count, initial[5] ^^^ UInt64.ofNat (count / Nat.pow 2 64),
    initial[6] ^^^ final, initial[7]]
  let v := schedule.foldl (round m) start
  Vector.ofFn fun i => h[i] ^^^ v[i.val] ^^^ v[i.val + 8]

def wordAt (message : Array UInt8) (position : Nat) : UInt64 :=
  (List.range 8).foldr (fun i w => (w <<< 8) ||| (message.getD (position + i) 0).toUInt64) 0

def blockAt (message : Array UInt8) (index : Nat) : Work :=
  Vector.ofFn fun i => wordAt message (128 * index + 8 * i.val)

def absorb (message : Array UInt8) : Chain :=
  let lastIndex := (message.size - 1) / 128
  let start := initial.set 0 (initial[0] ^^^ 0x01010020)
  let h := (List.range lastIndex).foldl
    (fun h i => compress h (blockAt message i) (128 * (i + 1)) false) start
  compress h (blockAt message lastIndex) message.size true

def byteOf (h : Chain) (i : Fin 32) : UInt8 :=
  (h[i.val / 8] >>> UInt64.ofNat (8 * (i.val % 8))).toUInt8

def digest (message : List UInt8) : FixedBytes 32 :=
  let h := absorb message.toArray
  ⟨List.ofFn (byteOf h), List.length_ofFn⟩

end SelectiveDisclosure.Blake2b
