import NarrativeScript.Dice.Source

/-!
# The Mersenne twister

A seeded source: the generator MT19937 over a table of 624 words, seeded from
the 32-bit words of an integer of any size. A die of `sides` faces takes the
leading binary digits of the next words, as many as `sides` has, until they
form a number below `sides`.
-/

namespace NarrativeScript.Dice

abbrev Table : Type := Vector UInt32 624

structure Twister where
  table : Table
  position : Nat
  deriving DecidableEq, Repr

namespace Twister

def mix (word : UInt32) : UInt32 :=
  word ^^^ (word >>> 30)

def write (table : Table) (place : Fin 624) (word : UInt32) : Table :=
  table.set place.val word place.isLt

def initialTable : Table :=
  (List.finRange 624).foldl
    (fun table place =>
      if place = 0 then table
      else write table place (1812433253 * mix table[place - 1] + UInt32.ofNat place.val))
    (Vector.replicate 624 19650218)

/-- Step `count` of a pass over the places 1 to 623, which takes up again at place 1; the last
place is copied to place 0. -/
def visit (change : UInt32 → UInt32 → Fin 624 → UInt32) (table : Table) (count : Nat) : Table :=
  let place : Fin 624 := Fin.ofNat 624 (1 + count % 623)
  let word := change table[place] (mix table[place - 1]) place
  let written := write table place word
  if place = 623 then write written 0 word else written

def keyLength (key : Nat) : Nat :=
  key.log2 / 32 + 1

def keyWord (key place : Nat) : UInt32 :=
  UInt32.ofNat (key >>> (32 * place))

def absorbKey (key : Nat) (table : Table) : Table :=
  (List.range (max 624 (keyLength key))).foldl
    (fun table count =>
      let place := count % keyLength key
      visit (fun word before _ =>
        (word ^^^ (before * 1664525)) + keyWord key place + UInt32.ofNat place) table count)
    table

def stir (key : Nat) (table : Table) : Table :=
  (List.range 623).foldl
    (fun table count =>
      visit (fun word before place => (word ^^^ (before * 1566083941)) - UInt32.ofNat place.val)
        table (max 624 (keyLength key) + count))
    table

/-- The sign of a seed has no effect. -/
def ofSeed (seed : Int) : Twister :=
  let key := seed.natAbs
  ⟨write (stir key (absorbKey key initialTable)) 0 0x80000000, 624⟩

/-! ### Drawing -/

def twist (table : Table) (place : Fin 624) : Table :=
  let joined := (table[place] &&& 0x80000000) ||| (table[place + 1] &&& 0x7fffffff)
  let mask : UInt32 := if joined &&& 1 = 1 then 0x9908b0df else 0
  write table place (table[place + 397] ^^^ (joined >>> 1) ^^^ mask)

def refill (table : Table) : Table :=
  (List.finRange 624).foldl twist table

def temper (word : UInt32) : UInt32 :=
  let word := word ^^^ (word >>> 11)
  let word := word ^^^ ((word <<< 7) &&& 0x9d2c5680)
  let word := word ^^^ ((word <<< 15) &&& 0xefc60000)
  word ^^^ (word >>> 18)

def next (twister : Twister) : UInt32 × Twister :=
  if h : twister.position < 624 then
    (temper (twister.table.get ⟨twister.position, h⟩), ⟨twister.table, twister.position + 1⟩)
  else
    let table := refill twister.table
    (temper (table.get 0), ⟨table, 1⟩)

/-- A word offers its leading digits; one that offers too large a number is passed over. Each
word is taken with a chance of one half at least, so the number of attempts is never used up. -/
def drawWithin (sides : Nat) (positive : 0 < sides) : Nat → Twister → Fin sides × Twister
  | attempts, twister =>
      let (word, later) := twister.next
      let offered := word.toNat >>> (32 - (sides.log2 + 1))
      if h : offered < sides then (⟨offered, h⟩, later)
      else
        match attempts with
        | 0 => (⟨offered % sides, Nat.mod_lt _ positive⟩, later)
        | attempts + 1 => drawWithin sides positive attempts later

def draw (sides : Nat) (positive : 0 < sides) (twister : Twister) : Fin sides × Twister :=
  drawWithin sides positive 10000 twister

instance : Source Twister := ⟨draw⟩

end Twister

end NarrativeScript.Dice
