import Mathlib.Data.List.Basic

/-! Internet addresses as the Poco library hands them to the framework. -/

namespace Fms

namespace Net

/-- `Poco::Net::IPAddress::Family`. -/
inductive Family where
  | IPv4 | IPv6
  deriving DecidableEq, Repr

/-- The bits of an address of a family. -/
def Family.width : Family → Nat
  | .IPv4 => 32
  | .IPv6 => 128

/-- `Poco::Net::IPAddress`; the words of an address stand in network order. -/
inductive IPAddress where
  | IPv4 (addr : BitVec 32)
  | IPv6 (addr : Vector (BitVec 32) 4) (scope : BitVec 32)
  deriving DecidableEq, Repr

namespace IPAddress

/-- `IPAddress()`, the wildcard address. -/
def default_ : IPAddress := .IPv4 0

/-- `family`. -/
def family : IPAddress → Family
  | .IPv4 _ => .IPv4
  | .IPv6 _ _ => .IPv6

/-- The words that `addr` points to. -/
def words : IPAddress → List (BitVec 32)
  | .IPv4 addr => [addr]
  | .IPv6 addr _ => addr.toList

/-- The number that the words of an address write. -/
def number (address : IPAddress) : Nat :=
  address.words.foldl (fun number word => number * 4294967296 + word.toNat) 0

/-- An address has as many bits as its family says. -/
theorem length_words (address : IPAddress) : address.words.length * 32 = address.family.width := by
  cases address with
  | IPv4 _ => rfl
  | IPv6 addr _ => simp [words, family, Family.width]

end IPAddress

/-- What the framework takes from `Poco::Net::IPAddress`. -/
structure IPAddresses where
  /-- `IPAddress::tryParse`; none where it returns false. -/
  tryParse : String → Option IPAddress
  /-- `operator <=`. -/
  le : IPAddress → IPAddress → Bool
  /-- `operator >=`. -/
  ge : IPAddress → IPAddress → Bool
  /-- Addresses of the older family are compared as numbers. -/
  le_IPv4 : ∀ a b, le (.IPv4 a) (.IPv4 b) = decide (a.toNat ≤ b.toNat)
  /-- The same holds of the other comparison. -/
  ge_IPv4 : ∀ a b, ge (.IPv4 a) (.IPv4 b) = decide (b.toNat ≤ a.toNat)

end Net

end Fms
