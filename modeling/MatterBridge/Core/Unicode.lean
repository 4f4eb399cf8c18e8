/-!
# The character tables behind the standard library

`char::is_alphanumeric` follows the Unicode tables of the toolchain, which the
repository does not pin. Any table is allowed here as long as it agrees with
ASCII on the first 128 code points.
-/
namespace MatterBridge.Core

class UnicodeTables where
  isAlphanumeric : Char → Bool
  ascii : ∀ c : Char, c.toNat < 128 → isAlphanumeric c = c.isAlphanum

/-- The smallest table: nothing outside ASCII is alphanumeric. -/
abbrev asciiTables : UnicodeTables where
  isAlphanumeric c := decide (c.toNat < 128) && c.isAlphanum
  ascii c h := by simp [h]

end MatterBridge.Core
