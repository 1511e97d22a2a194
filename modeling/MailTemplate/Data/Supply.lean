/-
Module: MailTemplate.Data.Supply
Purpose: A concrete state to produce values from: a random number generator and numbered counters.
Main exports: Supply, Supply.ofSeed, Generator.counting
-/
import MailTemplate.Data.Value
import MailTemplate.Text.Numeral

/-!
A supply holds a 64-bit seed, from which it makes numbers by mixing the bits of an arithmetic sequence, and
counters that generators may own, each known by its number.
-/

namespace MailTemplate

/-- A source of chance with counters. -/
structure Supply where
  seed : UInt64
  counts : List Nat
deriving Repr, Inhabited, DecidableEq

namespace Supply

/-- A supply whose counters all stand at zero. -/
def ofSeed (seed : UInt64) : Supply := ⟨seed, []⟩

/-- The next 64 random bits. -/
def bits (supply : Supply) : UInt64 × Supply :=
  let seed := supply.seed + 0x9E3779B97F4A7C15
  let z := (seed ^^^ (seed >>> 30)) * 0xBF58476D1CE4E5B9
  let z := (z ^^^ (z >>> 27)) * 0x94D049BB133111EB
  (z ^^^ (z >>> 31), { supply with seed })

instance : Chance Supply where
  upTo bound supply :=
    let (bits, supply) := supply.bits
    (Fin.ofNat (bound + 1) bits.toNat, supply)

/-- Adds one to a counter; the counter's new value and all counters. -/
def bump : Nat → List Nat → Nat × List Nat
  | 0, [] => (1, [1])
  | 0, count :: counts => (count + 1, (count + 1) :: counts)
  | slot + 1, [] =>
      let (value, counts) := bump slot []
      (value, 0 :: counts)
  | slot + 1, count :: counts =>
      let (value, counts) := bump slot counts
      (value, count :: counts)

end Supply

/-- A generator that numbers its calls: the label and then one, two, three and so on. -/
def Generator.counting (slot : Nat) (label : Text) : Generator Supply :=
  fun supply =>
    let (value, counts) := Supply.bump slot supply.counts
    (.ok (label ++ Text.ofNat value), { supply with counts })

end MailTemplate
