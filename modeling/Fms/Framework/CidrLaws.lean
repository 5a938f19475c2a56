import Fms.Framework.Cidr
import Fms.Poco.TextLaws
import Fms.Relation.Searches

/-! What a text says as a range of addresses, and which addresses the lookup takes for its own. -/

namespace Fms

namespace CIDR

open Net LeadingBits

/-- A range of addresses. -/
inductive AddressRange where
  | single (address : IPAddress)
  | between (low high : IPAddress)
  | oneOf (addresses : List IPAddress)
  | masked (network : IPAddress) (len : Nat)
  deriving DecidableEq

/-- An address lies in a range. -/
def AddressRange.Has (target : IPAddress) : AddressRange → Prop
  | .single address => target = address
  | .between low high => low.family = high.family ∧ target.family = low.family ∧
    low.number ≤ target.number ∧ target.number ≤ high.number
  | .oneOf addresses => target ∈ addresses
  | .masked network len => len ≤ network.family.width ∧ target.family = network.family ∧
    Agree len network.words target.words

/-- The syntax of a range, by its marks. -/
inductive Form where
  | dash (low high : String)
  | commas (tokens : List String)
  | slash (address length : String)
  | plain

/-- The marks of a text; a dash goes before commas, and commas before a slash. -/
def form (R : String) : Form :=
  match stringTokens '-' R with
  | [low, high] => .dash low high
  | _ =>
    if 1 < (stringTokens ',' R).length then .commas (stringTokens ',' R)
    else
      match stringTokens '/' R with
      | [address, length] => .slash address length
      | _ => .plain

/-- The number a text of decimal digits writes. -/
def decimal (text : String) : Option Nat :=
  match digitsOf 10 text with
  | some (digit :: digits) => some (Numerals.read 10 (digit :: digits))
  | _ => none

variable (net : IPAddresses)

/-- The range a text writes. -/
def readRange (R : String) : Option AddressRange :=
  match form R with
  | .dash low high => do return .between (← net.tryParse low) (← net.tryParse high)
  | .commas tokens => do return .oneOf (← tokens.mapM net.tryParse)
  | .slash address length => do
    return .masked (← net.tryParse (trimText address)) (← decimal (trimText length))
  | .plain => do return .single (← net.tryParse R)

/-- An address lies in the range that a text writes. -/
def Lies (target : IPAddress) (R : String) : Prop := ∃ range, readRange net R = some range ∧ range.Has target

/-- The bits that a mask length leaves in the parameter of the comparison. -/
def maskBits (length : Int) : Nat := (UInt8.ofInt length).toNat

/-- The bits that two addresses both have. -/
def commonBits (a b : IPAddress) : Nat := min a.family.width b.family.width

/-- One half of a range between two addresses is none. -/
def Unparsable (R : String) : Prop :=
  match form R with
  | .dash low high => net.tryParse low = none ∨ net.tryParse high = none
  | _ => False

/-- The comparison of the leading bits leaves the addresses, or shifts by a negative number. -/
def LeavesBits (network target : IPAddress) (bits : Nat) : Prop :=
  match network.family with
  | .IPv4 => 32 < bits
  | .IPv6 => commonBits network target < bits ∧
    (commonBits network target + 32 ≤ bits ∨ Agree (commonBits network target) network.words target.words)

/-- The lookup of an address in a range with a mask is undefined. -/
def Outside (target : IPAddress) (R : String) : Prop :=
  match form R with
  | .slash address length => ∃ network mask, net.tryParse (trimText address) = some network ∧
    strtol (trimText length) = some mask ∧ LeavesBits network target (maskBits mask)
  | _ => False

/-- The lookup takes an address for one of the range. -/
def Taken (target : IPAddress) (R : String) : Prop :=
  match form R with
  | .dash low high => ∃ a b, net.tryParse low = some a ∧ net.tryParse high = some b ∧
    target.family = a.family ∧ net.le a target = true ∧ net.ge b target = true
  | .commas tokens => ∃ token ∈ tokens, net.tryParse token = some target
  | .slash address length => ∃ network mask, net.tryParse (trimText address) = some network ∧
    strtol (trimText length) = some mask ∧ maskBits mask ≤ commonBits network target ∧
    Agree (maskBits mask) network.words target.words
  | .plain => net.tryParse R = some target

variable {net} {target : IPAddress} {R : String}

/-- What the validation does, by the marks of a range. -/
theorem validateRange_form : validateRange net R =
    match form R with
    | .dash low high =>
      let (parsed, a) := tryParseInto net low .default_
      let (refused, b) := if parsed then (false, .default_) else tryParseInto net high .default_
      if refused then false else a.family == b.family
    | .commas tokens => tokens.all fun token => (net.tryParse token).isSome
    | .slash address length => (net.tryParse address).isSome && atoi length ≠ 0
    | .plain => (net.tryParse R).isSome := by
  -- Only lists of two tokens are marked by a dash or a slash.
  unfold validateRange form
  rcases stringTokens '-' R with - | ⟨low, - | ⟨high, - | ⟨_, _⟩⟩⟩ <;> try rfl
  all_goals
    by_cases several : 1 < (stringTokens ',' R).length
    · simp only [several, if_true]
    · simp only [several, if_false]
      rcases stringTokens '/' R with - | ⟨address, - | ⟨length, - | ⟨_, _⟩⟩⟩ <;> rfl

/-- What the lookup does, by the marks of a range. -/
theorem ipInRange_form : ipInRange net target R =
    match form R with
    | .dash low high => do
      let a ← parse net low
      let b ← parse net high
      if target.family ≠ a.family then return false
      return net.le a target && net.ge b target
    | .commas tokens => tokens.anyM fun token => do return (← parse net token) == target
    | .slash _ _ => cidrIPinRange net target R
    | .plain => do return (← parse net R) == target := by
  -- By the tokens again.
  unfold ipInRange form
  rcases stringTokens '-' R with - | ⟨low, - | ⟨high, - | ⟨_, _⟩⟩⟩ <;> try rfl
  all_goals
    by_cases several : 1 < (stringTokens ',' R).length
    · simp only [several, if_true]
    · simp only [several, if_false]
      rcases stringTokens '/' R with - | ⟨address, - | ⟨length, - | ⟨_, _⟩⟩⟩ <;> rfl

/-- A validated range between two addresses begins with one of the older family, or neither half is one. -/
theorem validateRange_dash {low high : String} (marks : form R = .dash low high)
    (valid : validateRange net R = true) :
    (∃ addr, net.tryParse low = some (.IPv4 addr)) ∨ net.tryParse low = none ∧ net.tryParse high = none := by
  -- A first half that is no address leaves the default of the older family, and the second is not read then.
  rw [validateRange_form, marks] at valid
  cases first : net.tryParse low with
  | none =>
    cases second : net.tryParse high with
    | none => exact .inr ⟨rfl, rfl⟩
    | some b => simp [tryParseInto, first, second] at valid
  | some a =>
    cases a with
    | IPv4 addr => exact .inl ⟨addr, rfl⟩
    | IPv6 addr scope => simp [tryParseInto, first, IPAddress.default_, IPAddress.family] at valid

/-- A comparison of two words within their bits compares the leading ones. -/
theorem cidr_match_within {addr word : BitVec 32} {bits : UInt8} (within : bits.toNat ≤ 32)
    (others : List (BitVec 32)) :
    ∃ found, cidr_match addr word bits = .ok found ∧
      (found = true ↔ Agree bits.toNat [addr] (word :: others)) := by
  -- Without bits there is nothing to compare.
  unfold cidr_match
  by_cases none : bits = 0
  · subst none
    exact ⟨true, by simp, by simp [Agree]⟩
  · rw [if_neg none, if_neg (by omega)]
    refine ⟨_, rfl, ?_⟩
    rw [beq_iff_eq, masked_xor_iff addr word within, agree_first within]
    simp

/-- The two parts of a mask length are its quotient and its remainder by the bits of a word. -/
theorem toNat_maskParts (bits : UInt8) :
    (bits >>> 5).toNat = bits.toNat / 32 ∧ (bits &&& 0x1F).toNat = bits.toNat % 32 := by
  constructor
  · simp [Nat.shiftRight_eq_div_pow]
  · simpa using Nat.and_two_pow_sub_one_eq_mod bits.toNat 5

/-- The comparison of longer addresses, by the whole words of the mask and the bits behind them. -/
theorem cidr6_match_eq (address network : List (BitVec 32)) (bits : UInt8) : cidr6_match address network bits =
    if address.length < bits.toNat / 32 ∨ network.length < bits.toNat / 32 then .error .undefined
    else if address.take (bits.toNat / 32) ≠ network.take (bits.toNat / 32) then .ok false
    else if bits.toNat % 32 = 0 then .ok true
    else
      match address[bits.toNat / 32]?, network[bits.toNat / 32]? with
      | some a, some n => .ok ((a ^^^ n) &&& (BitVec.allOnes 32 <<< (32 - bits.toNat % 32)) == 0#32)
      | _, _ => .error .undefined := by
  -- The branches are those of the source, once the shift and the mask are read as numbers.
  obtain ⟨whole, part⟩ := toNat_maskParts bits
  simp only [cidr6_match, whole, part]
  split
  · rfl
  · split
    · rfl
    · split
      · rfl
      · rfl

/-- A comparison within the bits of both numbers compares the leading ones. -/
theorem cidr6_match_within {address network : List (BitVec 32)} {bits : UInt8}
    (within : bits.toNat ≤ address.length * 32 ∧ bits.toNat ≤ network.length * 32) :
    ∃ found, cidr6_match address network bits = .ok found ∧
      (found = true ↔ Agree bits.toNat address network) := by
  -- The whole words are there, and so is the word behind them if some of its bits are compared.
  have split := Nat.div_add_mod bits.toNat 32
  have parts : bits.toNat / 32 * 32 + bits.toNat % 32 = bits.toNat := by omega
  have agree : Agree (bits.toNat / 32 * 32 + bits.toNat % 32) address network ↔ _ :=
    agree_iff (by omega) ⟨by omega, by omega⟩
  rw [parts] at agree
  rw [cidr6_match_eq, if_neg (by omega), agree]
  by_cases words : address.take (bits.toNat / 32) = network.take (bits.toNat / 32)
  · rw [if_neg (not_not.mpr words)]
    by_cases exact_ : bits.toNat % 32 = 0
    · rw [if_pos exact_]
      exact ⟨true, rfl, by simp [words, exact_]⟩
    · rw [if_neg exact_]
      have inside : bits.toNat / 32 < address.length ∧ bits.toNat / 32 < network.length := by omega
      rw [List.getElem?_eq_getElem inside.1, List.getElem?_eq_getElem inside.2]
      refine ⟨_, rfl, ?_⟩
      rw [beq_iff_eq, masked_xor_iff _ _ (by omega)]
      simp [words, inside]
  · rw [if_pos words]
    exact ⟨false, rfl, by simp [words]⟩

/-- A comparison that leaves the bits of a number is undefined, unless the whole words before differ. -/
theorem cidr6_match_outside {address network : List (BitVec 32)} {bits : UInt8} {common : Nat}
    (shorter : common = min address.length network.length) (outside : common * 32 < bits.toNat) :
    (common * 32 + 32 ≤ bits.toNat ∨ address.take common = network.take common →
      cidr6_match address network bits = .error .undefined) ∧
      (¬ (common * 32 + 32 ≤ bits.toNat ∨ address.take common = network.take common) →
        cidr6_match address network bits = .ok false) := by
  rw [cidr6_match_eq]
  by_cases far : common * 32 + 32 ≤ bits.toNat
  · rw [if_pos (by omega)]
    simp [far]
  · -- The last word is compared in part, and one of the numbers does not have it.
    have place : bits.toNat / 32 = common := by omega
    rw [place, if_neg (by omega)]
    by_cases words : address.take common = network.take common
    · have missing : address[common]? = none ∨ network[common]? = none := by
        simp only [List.getElem?_eq_none_iff]
        omega
      rw [if_neg (not_not.mpr words), if_neg (by omega)]
      rcases missing with missing | missing
      · simp [far, words, missing]
      · cases first : address[common]? <;> simp [far, words, missing]
    · rw [if_pos words]
      simp [far, words]

/-- A text marked by a slash has the two tokens around it. -/
theorem tokens_of_slash {address length : String} (marks : form R = .slash address length) :
    stringTokens '/' R = [address, length] := by
  -- No other form has been found before.
  unfold form at marks
  generalize stringTokens '/' R = slashes at marks ⊢
  split at marks
  · cases marks
  · split at marks
    · cases marks
    · split at marks
      · cases marks
        rfl
      · cases marks

/-- A blank text is no number. -/
theorem atoi_blank {text : String} (blank : trim text.toList = []) : atoi text = 0 := by
  -- No digit follows the blanks.
  have read : strtol text = none := by
    unfold strtol
    rw [dropWhile_of_trim_nil blank]
    rfl
  rw [atoi, read]
  rfl

/-- The comparison of an address with a network and a mask length. -/
def compare (network target : IPAddress) (bits : UInt8) : Except Fault Bool :=
  match network with
  | .IPv4 addr => cidr_match addr (target.words.headD 0#32) bits
  | .IPv6 _ _ => cidr6_match network.words target.words bits

/-- The lookup in a validated range with a mask compares the leading bits, if both of its parts can be read. -/
theorem cidrIPinRange_slash {address length : String} (marks : form R = .slash address length)
    (valid : validateRange net R = true) : cidrIPinRange net target R =
      match net.tryParse (trimText address), strtol (trimText length) with
      | some network, some mask => compare network target (UInt8.ofInt mask)
      | _, _ => .ok false := by
  -- The length is not blank, for a blank one is read as zero.
  have filled : trim length.toList ≠ [] := by
    intro blank
    rw [validateRange_form, marks] at valid
    simp [atoi_blank blank] at valid
  unfold cidrIPinRange
  rw [trimmedTokens_pair (tokens_of_slash marks) filled]
  dsimp only
  cases net.tryParse (trimText address) with
  | none => rfl
  | some network =>
    dsimp only
    cases strtol (trimText length) with
    | none => rfl
    | some mask => cases network <;> rfl

/-- An address has a first word. -/
theorem words_cons (address : IPAddress) : ∃ others, address.words = address.words.headD 0#32 :: others := by
  -- Both families have words.
  cases words : address.words with
  | nil =>
    have length := address.length_words
    rw [words] at length
    cases address <;> simp [IPAddress.family, Family.width] at length
  | cons word others => exact ⟨others, rfl⟩

/-- The words that two addresses both have hold the bits that both have. -/
theorem commonBits_eq (a b : IPAddress) : min a.words.length b.words.length * 32 = commonBits a b := by
  have first := a.length_words
  have second := b.length_words
  unfold commonBits
  omega

/-- A comparison that leaves the bits of an address is undefined, unless the bits before differ. -/
theorem cidr6_match_leaves {network : IPAddress} {bits : UInt8}
    (outside : commonBits network target < bits.toNat) :
    (commonBits network target + 32 ≤ bits.toNat ∨
        Agree (commonBits network target) network.words target.words →
      cidr6_match network.words target.words bits = .error .undefined) ∧
      (¬ (commonBits network target + 32 ≤ bits.toNat ∨
          Agree (commonBits network target) network.words target.words) →
        cidr6_match network.words target.words bits = .ok false) := by
  -- The bits that both have are those of whole words.
  have common := commonBits_eq network target
  have words : Agree (min network.words.length target.words.length * 32 + 0) network.words target.words ↔ _ :=
    agree_iff (by decide) ⟨by omega, by omega⟩
  have outcome := @cidr6_match_outside network.words target.words bits _ rfl (common.symm ▸ outside)
  simp only [Nat.add_zero, Nat.not_lt_zero, false_implies, implies_true, and_true, common] at words outcome
  rw [words]
  exact outcome

/-- A comparison that stays within the addresses says whether their leading bits agree. -/
theorem compare_inside {network : IPAddress} {bits : UInt8} (inside : ¬ LeavesBits network target bits.toNat) :
    ∃ found, compare network target bits = .ok found ∧
      (found = true ↔
        bits.toNat ≤ commonBits network target ∧ Agree bits.toNat network.words target.words) := by
  have common := commonBits_eq network target
  cases network with
  | IPv4 addr =>
    -- Every address has the bits of a single word.
    have within : bits.toNat ≤ 32 := Nat.not_lt.mp inside
    have room : 32 ≤ commonBits (.IPv4 addr) target := by
      cases target <;> simp [commonBits, IPAddress.family, Family.width]
    obtain ⟨others, words⟩ := words_cons target
    obtain ⟨found, outcome, agree⟩ :
        ∃ found, cidr_match addr (target.words.headD 0#32) bits = .ok found ∧ _ :=
      cidr_match_within within others
    refine ⟨found, outcome, ?_⟩
    rw [agree, ← words, and_iff_right (within.trans room)]
    rfl
  | IPv6 addr scope =>
    by_cases within : bits.toNat ≤ commonBits (.IPv6 addr scope) target
    · obtain ⟨found, outcome, agree⟩ :
          ∃ found, cidr6_match (IPAddress.IPv6 addr scope).words target.words bits = .ok found ∧ _ :=
        cidr6_match_within (by omega)
      exact ⟨found, outcome, agree.trans (and_iff_right within).symm⟩
    · -- Otherwise the comparison has stopped at words that differ.
      have outside := Nat.not_le.mp within
      have stopped := (cidr6_match_leaves outside).2 fun leaves => inside ⟨outside, leaves⟩
      exact ⟨false, stopped, by simp [within]⟩

/-- Any other comparison is undefined. -/
theorem compare_outside {network : IPAddress} {bits : UInt8} (outside : LeavesBits network target bits.toNat) :
    compare network target bits = .error .undefined := by
  -- The shift by a negative number, or the word behind the end.
  cases network with
  | IPv4 addr =>
    have wide : 32 < bits.toNat := outside
    have some_ : bits ≠ 0 := by
      rintro rfl
      simp at wide
    simp only [compare, cidr_match]
    rw [if_neg some_, if_pos wide]
  | IPv6 addr scope =>
    obtain ⟨wide, leaves⟩ := outside
    exact (cidr6_match_leaves wide).1 leaves

/-- The lookup in a range of which one half is no address throws. -/
theorem ipInRange_unparsable (unparsable : Unparsable net R) :
    ipInRange net target R = .error .invalidAddress := by
  -- Both halves are parsed before anything is compared.
  unfold Unparsable at unparsable
  rw [ipInRange_form]
  cases marks : form R with
  | dash low high =>
    rw [marks] at unparsable
    cases first : net.tryParse low with
    | none => simp [parse, first, Bind.bind, Except.bind]
    | some a =>
      have second : net.tryParse high = none := by simpa [first] using unparsable
      simp [parse, first, second, Bind.bind, Except.bind]
  | commas tokens => simp [marks] at unparsable
  | slash address length => simp [marks] at unparsable
  | plain => simp [marks] at unparsable

/-- The lookup that leaves the bits of an address is undefined. -/
theorem ipInRange_outside (valid : validateRange net R = true) (outside : Outside net target R) :
    ipInRange net target R = .error .undefined := by
  -- Only a mask compares bits.
  unfold Outside at outside
  rw [ipInRange_form]
  cases marks : form R with
  | slash address length =>
    rw [marks] at outside
    obtain ⟨network, mask, parsed, read, leaves⟩ := outside
    dsimp only
    rw [cidrIPinRange_slash marks valid, parsed, read]
    exact compare_outside leaves
  | dash low high => simp [marks] at outside
  | commas tokens => simp [marks] at outside
  | plain => simp [marks] at outside

/-- The lookup in a text of one address finds that address. -/
theorem parse_taken {text : String} (readable : (net.tryParse text).isSome) :
    ∃ found, (do return (← parse net text) == target : Except Fault Bool) = .ok found ∧
      (found = true ↔ net.tryParse text = some target) := by
  obtain ⟨address, parsed⟩ := Option.isSome_iff_exists.mp readable
  refine ⟨address == target, ?_, by simp [parsed]⟩
  simp [parse, parsed, Bind.bind, Except.bind, Pure.pure, Except.pure]

/-- The lookup in a validated range with a mask that stays within the addresses compares their leading bits. -/
theorem cidrIPinRange_taken {address length : String} (marks : form R = .slash address length)
    (valid : validateRange net R = true) (inside : ¬ Outside net target R) :
    ∃ found, cidrIPinRange net target R = .ok found ∧ (found = true ↔ Taken net target R) := by
  unfold Outside at inside
  unfold Taken
  rw [marks] at inside ⊢
  rw [cidrIPinRange_slash marks valid]
  -- A network or a length that cannot be read answers no, and no address is taken then.
  cases parsed : net.tryParse (trimText address) with
  | none => exact ⟨false, rfl, by simp [parsed]⟩
  | some network =>
    cases read : strtol (trimText length) with
    | none => exact ⟨false, rfl, by simp [read]⟩
    | some mask =>
      -- Both were read: the comparison stays inside the words, where its answer is `Agree`.
      have stays : ¬ LeavesBits network target (maskBits mask) :=
        fun leaves => inside ⟨network, mask, parsed, read, leaves⟩
      obtain ⟨found, outcome, agree⟩ := compare_inside stays
      exact ⟨found, outcome, by simpa [maskBits, parsed, read] using agree⟩

/-- Any other lookup in a validated range says whether the address is taken for one of the range. -/
theorem ipInRange_taken (valid : validateRange net R = true) (parsable : ¬ Unparsable net R)
    (inside : ¬ Outside net target R) :
    ∃ found, ipInRange net target R = .ok found ∧ (found = true ↔ Taken net target R) := by
  rw [ipInRange_form]
  cases marks : form R with
  | slash address length => exact cidrIPinRange_taken marks valid inside
  | dash low high =>
    -- Both halves are addresses, and the lookup compares with both.
    unfold Unparsable at parsable
    unfold Taken
    rw [marks] at parsable ⊢
    simp only [not_or, ← ne_eq, Option.ne_none_iff_exists'] at parsable
    obtain ⟨⟨a, first⟩, b, second⟩ := parsable
    simp only [parse, first, second, Bind.bind, Except.bind]
    by_cases family : target.family = a.family
    · rw [if_neg (not_not.mpr family)]
      exact ⟨_, rfl, by simp [family]⟩
    · rw [if_pos family]
      exact ⟨false, rfl, by simp [family]⟩
  | commas tokens =>
    -- The validation has read every token.
    rw [validateRange_form, marks] at valid
    unfold Taken
    rw [marks]
    exact Searches.anyM_iff fun token member => parse_taken (List.all_eq_true.mp valid token member)
  | plain =>
    rw [validateRange_form, marks] at valid
    unfold Taken
    rw [marks]
    exact parse_taken valid

/-- What is read from a list of texts is read from one of them. -/
theorem exists_of_mem_mapM {tokens : List String} {addresses : List IPAddress}
    (read : tokens.mapM net.tryParse = some addresses) {address : IPAddress} (member : address ∈ addresses) :
    ∃ token ∈ tokens, net.tryParse token = some address := by
  -- The first text gives the first address, and the others give the rest.
  induction tokens generalizing addresses with
  | nil =>
    obtain rfl : [] = addresses := by simpa using read
    cases member
  | cons token tokens ih =>
    simp only [List.mapM_cons, Option.bind_eq_bind, Option.bind_eq_some_iff, Option.pure_def,
      Option.some.injEq] at read
    obtain ⟨first, parsed, others, rest, rfl⟩ := read
    rcases List.mem_cons.mp member with rfl | member
    · exact ⟨token, List.mem_cons_self, parsed⟩
    · obtain ⟨other, inside, found⟩ := ih rest member
      exact ⟨other, List.mem_cons_of_mem _ inside, found⟩

/-- A decimal length of at most the bits of an address is left as it is. -/
theorem maskBits_decimal {text : String} {len : Nat} (read : decimal text = some len) (small : len < 256) :
    ∃ mask, strtol text = some mask ∧ maskBits mask = len := by
  -- The number is far from the end of a `long`, and fits into eight bits.
  unfold decimal at read
  split at read
  · rename_i digit digits whole
    obtain rfl : Numerals.read 10 (digit :: digits) = len := by simpa using read
    refine ⟨_, strtol_digits whole (by simp), ?_⟩
    have exact_ : min 9223372036854775807 (Numerals.read 10 (digit :: digits) : Int) =
        (Numerals.read 10 (digit :: digits) : Int) := by omega
    rw [exact_, maskBits, UInt8.ofInt, UInt8.toNat_ofNat']
    omega
  · cases read

/-- Between two addresses of the older family, the lookup compares as the numbers do. -/
theorem taken_between {addr : BitVec 32} {low high : String} {a b : IPAddress} (older : a = .IPv4 addr)
    (marks : form R = .dash low high) (first : net.tryParse low = some a) (second : net.tryParse high = some b)
    (has : (AddressRange.between a b).Has target) : Taken net target R := by
  subst older
  obtain ⟨families, family, above, below⟩ := has
  unfold Taken
  rw [marks]
  -- All three addresses are of the older family.
  cases b with
  | IPv6 _ _ => cases families
  | IPv4 top =>
    cases target with
    | IPv6 _ _ => cases family
    | IPv4 number =>
      refine ⟨_, _, first, second, rfl, ?_, ?_⟩
      · rw [net.le_IPv4]
        simpa [IPAddress.number, IPAddress.words] using above
      · rw [net.ge_IPv4]
        simpa [IPAddress.number, IPAddress.words] using below

/-- In a range with a decimal mask length, the lookup compares the bits of the mask. -/
theorem taken_masked {address length : String} {network : IPAddress} {len : Nat}
    (marks : form R = .slash address length) (parsed : net.tryParse (trimText address) = some network)
    (number : decimal (trimText length) = some len) (has : (AddressRange.masked network len).Has target) :
    Taken net target R := by
  obtain ⟨within, family, agree⟩ := has
  have narrow : network.family.width ≤ 128 := by
    cases network <;> simp [IPAddress.family, Family.width]
  -- A length of at most 128 is below the numbers `strtol` cuts, so the mask is the length itself.
  obtain ⟨mask, text, bits⟩ := maskBits_decimal number (by omega)
  unfold Taken
  rw [marks]
  refine ⟨network, mask, parsed, text, ?_, ?_⟩
  · rw [bits, commonBits, family, Nat.min_self]
    exact within
  · rw [bits]
    exact agree

/-- An address that lies in a validated range is taken for one of the range. -/
theorem taken_of_lies (valid : validateRange net R = true) (lies : Lies net target R) : Taken net target R := by
  obtain ⟨range, read, has⟩ := lies
  unfold readRange at read
  -- One case for each written form; the reading of the form names the addresses it was read from.
  cases marks : form R with
  | dash low high =>
    simp only [marks, Option.bind_eq_bind, Option.bind_eq_some_iff, Option.pure_def, Option.some.injEq] at read
    obtain ⟨a, first, b, second, rfl⟩ := read
    -- A validated pair has a first half of the older family, or none at all, and `readRange` has read one.
    rcases validateRange_dash marks valid with ⟨addr, older⟩ | ⟨none, -⟩
    · exact taken_between (Option.some.inj (first.symm.trans older)) marks first second has
    · cases none.symm.trans first
  | slash address length =>
    simp only [marks, Option.bind_eq_bind, Option.bind_eq_some_iff, Option.pure_def, Option.some.injEq] at read
    obtain ⟨network, parsed, len, number, rfl⟩ := read
    exact taken_masked marks parsed number has
  | commas tokens =>
    simp only [marks, Option.bind_eq_bind, Option.bind_eq_some_iff, Option.pure_def, Option.some.injEq] at read
    obtain ⟨addresses, parsed, rfl⟩ := read
    unfold Taken
    rw [marks]
    exact exists_of_mem_mapM parsed has
  | plain =>
    simp only [marks, Option.bind_eq_bind, Option.bind_eq_some_iff, Option.pure_def, Option.some.injEq] at read
    obtain ⟨address, parsed, rfl⟩ := read
    obtain rfl : target = address := has
    unfold Taken
    rw [marks]
    exact parsed

end CIDR

end Fms
