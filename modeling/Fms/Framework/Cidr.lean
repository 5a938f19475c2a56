import Fms.Poco.Net
import Fms.Framework.Numbers
import Fms.Relation.LeadingBits

/-! Ranges of addresses: how they are validated, and how an address is looked up in them. -/

namespace Fms

namespace CIDR

open Net

/-- What may come of a call besides its result. -/
inductive Fault where
  /-- `Poco::Net::InvalidAddressException`. -/
  | invalidAddress
  /-- `Poco::RangeException`. -/
  | outOfRange
  /-- No exception: a shift by a negative number, or a read behind the end of an address. -/
  | undefined
  deriving DecidableEq, Repr

/-- `cidr_match`. -/
def cidr_match (addr net : BitVec 32) (bits : UInt8) : Except Fault Bool :=
  if bits = 0 then .ok true
  else if 32 < bits.toNat then .error .undefined
  else .ok ((addr ^^^ net) &&& (BitVec.allOnes 32 <<< (32 - bits.toNat)) == 0#32)

/-- `cidr6_match`, whose pointers may lead to an address of four bytes only. -/
def cidr6_match (address network : List (BitVec 32)) (bits : UInt8) : Except Fault Bool := do
  let bits_whole := (bits >>> 5).toNat
  let bits_incomplete := (bits &&& 0x1F).toNat
  if address.length < bits_whole ∨ network.length < bits_whole then throw .undefined
  if address.take bits_whole ≠ network.take bits_whole then return false
  if bits_incomplete = 0 then return true
  match address[bits_whole]?, network[bits_whole]? with
  | some a, some n => return (a ^^^ n) &&& (BitVec.allOnes 32 <<< (32 - bits_incomplete)) == 0#32
  | _, _ => throw .undefined

variable (net : IPAddresses)

/-- `CidrIPinRange`. -/
def cidrIPinRange (ip : IPAddress) (range : String) : Except Fault Bool :=
  let timeTokens := trimmedTokens '/' range
  match timeTokens with
  | [] => .error .outOfRange
  | first :: _ =>
    match net.tryParse first, timeTokens with
    | some rangeIP, [_, length] =>
      match strtol length with
      | none => .ok false
      | some maskLength =>
        -- The unsigned length is cut to the eight bits of the parameter.
        let bits := UInt8.ofInt maskLength
        match rangeIP with
        | .IPv4 addr => cidr_match addr (ip.words.headD 0#32) bits
        | .IPv6 _ _ => cidr6_match rangeIP.words ip.words bits
    | _, _ => .ok false

/-- `IPAddress::tryParse` with the address it leaves in its argument. -/
def tryParseInto (text : String) (address : IPAddress) : Bool × IPAddress :=
  match net.tryParse text with
  | some parsed => (true, parsed)
  | none => (false, address)

/-- `ValidateRange`. -/
def validateRange (R : String) : Bool :=
  match stringTokens '-' R with
  | [low, high] =>
    let (parsed, a) := tryParseInto net low .default_
    -- The second half is parsed only where the first one is no address.
    let (refused, b) := if parsed then (false, .default_) else tryParseInto net high .default_
    if refused then false else a.family == b.family
  | _ =>
    let tokens := stringTokens ',' R
    if 1 < tokens.length then tokens.all fun token => (net.tryParse token).isSome
    else
      match stringTokens '/' R with
      | [address, length] => (net.tryParse address).isSome && atoi length ≠ 0
      | _ => (net.tryParse R).isSome

/-- `IPAddress::parse`, which throws where `tryParse` returns false. -/
def parse (text : String) : Except Fault IPAddress :=
  match net.tryParse text with
  | some address => .ok address
  | none => .error .invalidAddress

/-- `IpInRange`. -/
def ipInRange (target : IPAddress) (R : String) : Except Fault Bool :=
  match stringTokens '-' R with
  | [low, high] => do
    let a ← parse net low
    let b ← parse net high
    if target.family ≠ a.family then return false
    return net.le a target && net.ge b target
  | _ =>
    let tokens := stringTokens ',' R
    if 1 < tokens.length then
      tokens.anyM fun token => do return (← parse net token) == target
    else
      match stringTokens '/' R with
      | [_, _] => cidrIPinRange net target R
      | _ => do return (← parse net R) == target

/-- `IpInRanges`. -/
def ipInRanges (IP : String) (R : List String) : Except Fault Bool :=
  match net.tryParse IP with
  | none => .ok false
  | some target => R.anyM (ipInRange net target)

/-- `ValidateIpRanges`. -/
def validateIpRanges (ranges : List String) : Bool := ranges.all (validateRange net)

end CIDR

end Fms
