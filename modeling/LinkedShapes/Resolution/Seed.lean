import LinkedShapes.Resolution.Program

/-!
# Names from a seed

A source of names that is determined by one number. The numbers of the source are spread over all 64
bits, so that names of one source do not repeat in practice and tell nothing of each other.
-/

namespace LinkedShapes.Resolution

/-- Spreads a number over 64 bits; different numbers stay different. -/
def mix (n : UInt64) : UInt64 :=
  let n := (n ^^^ (n >>> 30)) * 0xBF58476D1CE4E5B9
  let n := (n ^^^ (n >>> 27)) * 0x94D049BB133111EB
  n ^^^ (n >>> 31)

/-- The source of names of a seed. -/
def Names.ofSeed (seed : UInt64) : Names where
  draw n := mix (seed + 0x9E3779B97F4A7C15 * (UInt64.ofNat n + 1))

end LinkedShapes.Resolution
