set_option autoImplicit false

/-! # The Mersenne twister

The 32-bit Mersenne twister with a period of `2 ^ 19937 - 1`. Its state is an array of 624 words;
`Twister.ofSeed` fills it from the words of a seed, and `Twister.next` gives the next word. When all
words of the state have been used, the state is renewed as a whole.

A number from a range is drawn by taking as many leading bits as the size of the range has, and
again until the value lies in the range (`Twister.below`).
-/

namespace Questbook

/-- **The state of the generator:** its words, and how many of them have been used. -/
structure Twister where
  words : Array UInt32
  used : Nat

namespace Twister

/-- The number of words of the state. -/
def size : Nat := 624

/-- The distance between words that are combined. -/
def shift : Nat := 397

/-- A word of the state. -/
def word (a : Array UInt32) (i : Nat) : UInt32 := a.getD i 0

/-- A word mixed with its own leading bits. -/
def blend (w : UInt32) : UInt32 := w ^^^ (w >>> 30)

/-! ## Filling the state -/

/-- Appends words that are each derived from the one before; `i` is the place of the next one. -/
def extend (i : Nat) : (count : Nat) → Array UInt32 → Array UInt32
  | 0, a => a
  | count + 1, a =>
    extend (i + 1) count (a.push (1812433253 * blend (word a (i - 1)) + UInt32.ofNat i))

/-- The state that a single word gives. -/
def ofWord (w : UInt32) : Array UInt32 :=
  extend 1 (size - 1) #[w]

/-- The place after `i`; after the last place the first word takes the value of the last, and the
place is 1. -/
def advance (a : Array UInt32) (i : Nat) : Array UInt32 × Nat :=
  if size ≤ i + 1 then (a.setIfInBounds 0 (word a (size - 1)), 1) else (a, i + 1)

/-- Mixes the words of a key into the state, from place `i` and the key word `j` on. -/
def mixKey (key : Array UInt32) : (count i j : Nat) → Array UInt32 → Array UInt32 × Nat
  | 0, i, _, a => (a, i)
  | count + 1, i, j, a =>
    let w := (word a i ^^^ (blend (word a (i - 1)) * 1664525)) + word key j + UInt32.ofNat j
    let (a, i) := advance (a.setIfInBounds i w) i
    mixKey key count i (if key.size ≤ j + 1 then 0 else j + 1) a

/-- Mixes the places into the state, from place `i` on. -/
def mixPlaces : (count i : Nat) → Array UInt32 → Array UInt32
  | 0, _, a => a
  | count + 1, i, a =>
    let w := (word a i ^^^ (blend (word a (i - 1)) * 1566083941)) - UInt32.ofNat i
    let (a, i) := advance (a.setIfInBounds i w) i
    mixPlaces count i a

/-- The state that the words of a key give. -/
def ofKey (key : Array UInt32) : Twister :=
  let (a, i) := mixKey key (max size key.size) 1 0 (ofWord 19650218)
  let a := mixPlaces (size - 1) i a
  -- the first word is fixed, so that no key leaves a state of zeros
  { words := a.setIfInBounds 0 0x80000000, used := size }

/-- The 32-bit words of a number, the lowest first; `count` bounds their number. -/
def wordsOf : (count : Nat) → Nat → List UInt32
  | 0, _ => []
  | count + 1, n => if n = 0 then [] else UInt32.ofNat n :: wordsOf count (n / 2 ^ 32)

/-- **The generator of a seed.** The sign of the seed does not matter; zero is a key of one word. -/
def ofSeed (seed : Int) : Twister :=
  let n := seed.natAbs
  ofKey (if n = 0 then #[0] else (wordsOf (n.log2 / 32 + 1) n).toArray)

/-! ## Drawing -/

/-- The word at a place of the renewed state. -/
def renewed (a : Array UInt32) (i : Nat) : UInt32 :=
  let y := (word a i &&& 0x80000000) ||| (word a ((i + 1) % size) &&& 0x7fffffff)
  let half := y >>> 1
  word a ((i + shift) % size) ^^^ (if y &&& 1 = 1 then half ^^^ 0x9908b0df else half)

/-- Renews the words from place `i` on. -/
def renewFrom : (count i : Nat) → Array UInt32 → Array UInt32
  | 0, _, a => a
  | count + 1, i, a => renewFrom count (i + 1) (a.setIfInBounds i (renewed a i))

/-- A word of the state in the form in which it is given out. -/
def temper (w : UInt32) : UInt32 :=
  let w := w ^^^ (w >>> 11)
  let w := w ^^^ ((w <<< 7) &&& 0x9d2c5680)
  let w := w ^^^ ((w <<< 15) &&& 0xefc60000)
  w ^^^ (w >>> 18)

/-- **The next word,** and the state after it. -/
def next (t : Twister) : UInt32 × Twister :=
  let t := if t.used < size then t else { words := renewFrom size 0 t.words, used := 0 }
  (temper (word t.words t.used), { t with used := t.used + 1 })

/-- A number of `bits` bits from as many words as it takes, the lowest word first. The last word
gives its leading bits. -/
def drawBits : (words bits : Nat) → Twister → Nat × Twister
  | 0, _, t => (0, t)
  | words + 1, bits, t =>
    let (w, t) := t.next
    -- the last word has more bits than are left: the leading ones are taken
    if bits ≤ 32 then (w.toNat / 2 ^ (32 - bits), t)
    else
      let (high, t) := drawBits words (bits - 32) t
      (high * 2 ^ 32 + w.toNat, t)

/-- How many times a value outside of the range is drawn anew. A value lies in the range with a
probability of more than one half, so that this many failures in a row are not met. -/
def patience : Nat := 4096

/-- Draws values of `bits` bits until one is below `n`. -/
def drawUntil (n bits : Nat) : (tries : Nat) → Twister → Nat × Twister
  | 0, t => (0, t)
  | tries + 1, t =>
    let (v, t) := drawBits (bits / 32 + 1) bits t
    if v < n then (v, t) else drawUntil n bits tries t

/-- **A number below** a positive bound. -/
def below (n : Nat) (t : Twister) : Nat × Twister :=
  drawUntil n (n.log2 + 1) patience t

end Twister

end Questbook
