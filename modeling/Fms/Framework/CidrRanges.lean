import Fms.Framework.CidrLaws

/-! Lookups in lists of validated ranges: when they answer for the ranges, and when they throw. -/

namespace Fms

namespace CIDR

open Net LeadingBits

variable (net : IPAddresses)

/-- The lookup of an address in a range is cut short. -/
def Broken (target : IPAddress) (range : String) : Prop := Unparsable net range ∨ Outside net target range

/-- Validated ranges answer for an address text: the lookup says whether the address lies in one of them. -/
def RangesAnswer (IP : String) (R : List String) : Prop :=
  validateIpRanges net R = true → ∃ found, ipInRanges net IP R = .ok found ∧
    (found = true ↔ ∃ target, net.tryParse IP = some target ∧ ∃ range ∈ R, Lies net target range)

/-- A mask length is a decimal number of at most the bits of the network, and the address is of the network's family. -/
def PlainMask (network target : IPAddress) (length : String) : Prop :=
  target.family = network.family ∧ ∃ len, decimal (trimText length) = some len ∧ len ≤ network.family.width

/--
A range is well suited to an address.

Both halves of a range between two addresses are addresses, and where they are of different families, they do not have
the address between them; and a mask is a plain one, or the bits that are compared are those of both addresses, and
differ.
-/
def Suits (target : IPAddress) (range : String) : Prop :=
  match form range with
  | .dash low high => ∃ a b, net.tryParse low = some a ∧ net.tryParse high = some b ∧
    (a.family ≠ b.family → target.family = a.family → ¬ (net.le a target = true ∧ net.ge b target = true))
  | .slash address length => ∀ network mask, net.tryParse (trimText address) = some network →
    strtol (trimText length) = some mask → PlainMask network target length ∨
      ¬ LeavesBits network target (maskBits mask) ∧
        ¬ (maskBits mask ≤ commonBits network target ∧ Agree (maskBits mask) network.words target.words)
  | .commas _ | .plain => True

/--
The ranges judge an address rightly.

All of them are well suited to it; or the address lies in some range, and one that takes it stands in front of all
lookups that are cut short.
-/
def JudgeRightly (target : IPAddress) (R : List String) : Prop :=
  (∀ range ∈ R, Suits net target range) ∨
    (∃ range ∈ R, Lies net target range) ∧
      ∃ front range back, R = front ++ range :: back ∧ Taken net target range ∧
        ∀ other ∈ front, ¬ Broken net target other

variable {net} {target : IPAddress} {R : List String}

/-- A lookup that takes an address is not cut short. -/
theorem not_broken_of_taken {range : String} (taken : Taken net target range) : ¬ Broken net target range := by
  unfold Taken at taken
  unfold Broken Unparsable Outside
  cases marks : form range with
  | dash low high =>
    rw [marks] at taken
    obtain ⟨a, b, first, second, -⟩ := taken
    simp [first, second]
  | slash address length =>
    rw [marks] at taken
    obtain ⟨network, mask, parsed, read, within, -⟩ := taken
    simp only [parsed, read, Option.some.injEq, false_or]
    rintro ⟨_, _, rfl, rfl, leaves⟩
    -- The bits that both addresses have are not left.
    cases network with
    | IPv4 addr =>
      have wide : 32 < maskBits mask := leaves
      have narrow : commonBits (.IPv4 addr) target ≤ 32 := Nat.min_le_left _ _
      omega
    | IPv6 addr scope => exact Nat.not_lt.mpr within leaves.1
  | commas tokens => simp
  | plain => simp

/-- A lookup that is not cut short finds the address where it is taken. -/
theorem ipInRange_of_not_broken {range : String} (valid : validateRange net range = true)
    (whole : ¬ Broken net target range) :
    ∃ found, ipInRange net target range = .ok found ∧ (found = true ↔ Taken net target range) :=
  ipInRange_taken valid (fun unparsable => whole (.inl unparsable)) (fun outside => whole (.inr outside))

/-- A lookup that answers is not cut short. -/
theorem not_broken_of_ok {range : String} {found : Bool} (valid : validateRange net range = true)
    (outcome : ipInRange net target range = .ok found) : ¬ Broken net target range := by
  -- Where it is cut short, it ends in a fault.
  rintro (unparsable | outside)
  · rw [ipInRange_unparsable unparsable] at outcome
    cases outcome
  · rw [ipInRange_outside valid outside] at outcome
    cases outcome

/-- A lookup finds exactly the addresses that are taken for those of the range. -/
theorem ipInRange_found_iff {range : String} (valid : validateRange net range = true) :
    ipInRange net target range = .ok true ↔ Taken net target range := by
  -- Neither a lookup that answers nor one that takes the address is cut short.
  constructor
  · intro outcome
    obtain ⟨result, here, means⟩ := ipInRange_of_not_broken valid (not_broken_of_ok valid outcome)
    cases outcome.symm.trans here
    exact means.mp rfl
  · intro taken
    obtain ⟨result, here, means⟩ := ipInRange_of_not_broken valid (not_broken_of_taken taken)
    rw [here, means.mpr taken]

/-- What is read from every token of a list is read from the list. -/
theorem mem_of_mapM {tokens : List String} (each : ∀ token ∈ tokens, (net.tryParse token).isSome = true) :
    ∃ addresses, tokens.mapM net.tryParse = some addresses ∧
      ∀ token ∈ tokens, net.tryParse token = some target → target ∈ addresses := by
  -- Each address that is read goes in front of those read from the rest.
  induction tokens with
  | nil => exact ⟨[], rfl, fun _ member => absurd member List.not_mem_nil⟩
  | cons token tokens ih =>
    obtain ⟨parsed, rest⟩ := List.forall_mem_cons.mp each
    obtain ⟨first, read⟩ := Option.isSome_iff_exists.mp parsed
    obtain ⟨addresses, others, inside⟩ := ih rest
    refine ⟨first :: addresses, by simp [read, others], fun text member found => ?_⟩
    rcases List.mem_cons.mp member with rfl | later
    · rw [Option.some.inj (found.symm.trans read)]
      exact List.mem_cons_self
    · exact List.mem_cons_of_mem first (inside text later found)

/-- A plain mask leaves the addresses nowhere, and what agrees in its bits lies in the range. -/
theorem plainMask_exact {range address length : String} {network : IPAddress} {mask : Int}
    (marks : form range = .slash address length) (parsed : net.tryParse (trimText address) = some network)
    (read : strtol (trimText length) = some mask) (plain : PlainMask network target length) :
    ¬ LeavesBits network target (maskBits mask) ∧
      (Agree (maskBits mask) network.words target.words → Lies net target range) := by
  obtain ⟨family, len, number, within⟩ := plain
  have narrow : network.family.width ≤ 128 := by
    cases network <;> simp [IPAddress.family, Family.width]
  -- The length is below 2^31, so `strtol` and the mask read the number that is written.
  obtain ⟨same, text, bits⟩ := maskBits_decimal number (by omega)
  obtain rfl : same = mask := Option.some.inj (text.symm.trans read)
  have common : commonBits network target = network.family.width := by
    rw [commonBits, family, Nat.min_self]
  -- With one family on both sides the mask ends before the bits the two addresses share.
  constructor
  · rw [bits]
    cases network with
    | IPv4 addr => exact Nat.not_lt.mpr within
    | IPv6 addr scope =>
      rintro ⟨beyond, -⟩
      rw [common] at beyond
      omega
  · intro agree
    rw [bits] at agree
    exact ⟨.masked network len, by simp [readRange, marks, parsed, number], within, family, agree⟩

/-- Between two addresses of the older family, the comparisons of the library are those of the numbers. -/
theorem has_between {addr : BitVec 32} {b : IPAddress} (families : (IPAddress.IPv4 addr).family = b.family)
    (family : target.family = (IPAddress.IPv4 addr).family) (above : net.le (.IPv4 addr) target = true)
    (below : net.ge b target = true) : (AddressRange.between (.IPv4 addr) b).Has target := by
  -- All three are of the older family, where the order of addresses is that of their numbers.
  cases b with
  | IPv6 _ _ => cases families
  | IPv4 top =>
    cases target with
    | IPv6 _ _ => cases family
    | IPv4 number =>
      rw [net.le_IPv4] at above
      rw [net.ge_IPv4] at below
      exact ⟨rfl, rfl, by simpa [IPAddress.number, IPAddress.words] using above,
        by simpa [IPAddress.number, IPAddress.words] using below⟩

/-- A range between two addresses is well suited where it has both halves, and takes what lies in it only. -/
theorem suits_dash {range low high : String} (marks : form range = .dash low high)
    (valid : validateRange net range = true) :
    Suits net target range ↔ ¬ Broken net target range ∧ (Taken net target range → Lies net target range) := by
  constructor
  · intro suits
    simp only [Suits, marks] at suits
    obtain ⟨a, b, first, second, apart⟩ := suits
    refine ⟨?_, fun taken => ?_⟩
    · rintro (unparsable | outside)
      · simp [Unparsable, marks, first, second] at unparsable
      · simp [Outside, marks] at outside
    · simp only [Taken, marks, first, second, Option.some.injEq] at taken
      obtain ⟨_, _, rfl, rfl, family, above, below⟩ := taken
      have families : a.family = b.family := by
        by_contra differ
        exact apart differ family ⟨above, below⟩
      refine ⟨.between a b, by simp [readRange, marks, first, second], ?_⟩
      -- The validation has found the first half in the older family.
      rcases validateRange_dash marks valid with ⟨addr, older⟩ | ⟨missing, -⟩
      · obtain rfl := Option.some.inj (first.symm.trans older)
        exact has_between families family above below
      · cases missing.symm.trans first
  · rintro ⟨whole, right⟩
    have halves : net.tryParse low ≠ none ∧ net.tryParse high ≠ none := by
      rw [← not_or]
      intro unparsable
      refine whole (Or.inl ?_)
      simpa only [Unparsable, marks] using unparsable
    obtain ⟨a, first⟩ := Option.ne_none_iff_exists'.mp halves.1
    obtain ⟨b, second⟩ := Option.ne_none_iff_exists'.mp halves.2
    simp only [Suits, marks]
    refine ⟨a, b, first, second, fun differ family between => ?_⟩
    -- What is taken lies in the range, whose ends are of one family then.
    obtain ⟨written, spelled, has⟩ := right (by
      simp only [Taken, marks]
      exact ⟨a, b, first, second, family, between⟩)
    obtain rfl : .between a b = written := by simpa [readRange, marks, first, second] using spelled
    exact differ has.1

/-- A range with a mask is well suited where its lookup stays within the addresses, and takes what lies in it only. -/
theorem suits_slash {range address length : String} (marks : form range = .slash address length) :
    Suits net target range ↔ ¬ Broken net target range ∧ (Taken net target range → Lies net target range) := by
  constructor
  · intro suits
    simp only [Suits, marks] at suits
    constructor
    · rintro (unparsable | outside)
      · simp [Unparsable, marks] at unparsable
      · simp only [Outside, marks] at outside
        obtain ⟨network, mask, parsed, read, leaves⟩ := outside
        rcases suits network mask parsed read with plain | ⟨inside, -⟩
        · exact (plainMask_exact marks parsed read plain).1 leaves
        · exact inside leaves
    · intro taken
      simp only [Taken, marks] at taken
      obtain ⟨network, mask, parsed, read, within, agree⟩ := taken
      rcases suits network mask parsed read with plain | ⟨-, apart⟩
      · exact (plainMask_exact marks parsed read plain).2 agree
      · exact absurd ⟨within, agree⟩ apart
  · rintro ⟨whole, right⟩
    simp only [Suits, marks]
    intro network mask parsed read
    by_cases takes : maskBits mask ≤ commonBits network target ∧ Agree (maskBits mask) network.words target.words
    · -- What is taken lies in the range, whose mask is a plain one then.
      left
      obtain ⟨written, spelled, has⟩ := right (by
        simp only [Taken, marks]
        exact ⟨network, mask, parsed, read, takes⟩)
      simp only [readRange, marks, parsed, Option.bind_eq_bind, Option.bind_some, Option.bind_eq_some_iff,
        Option.pure_def, Option.some.injEq] at spelled
      obtain ⟨len, number, rfl⟩ := spelled
      exact ⟨has.2.1, len, number, has.1⟩
    · refine Or.inr ⟨fun leaves => whole (Or.inr ?_), takes⟩
      simp only [Outside, marks]
      exact ⟨network, mask, parsed, read, leaves⟩

/-- A validated range is well suited where its lookup is not cut short, and takes what lies in it only. -/
theorem suits_iff {range : String} (valid : validateRange net range = true) :
    Suits net target range ↔ ¬ Broken net target range ∧ (Taken net target range → Lies net target range) := by
  cases marks : form range with
  | dash low high => exact suits_dash marks valid
  | slash address length => exact suits_slash marks
  | commas tokens =>
    -- Every token is an address, and is compared as a whole.
    rw [validateRange_form, marks] at valid
    obtain ⟨addresses, read, inside⟩ := @mem_of_mapM net target tokens (List.all_eq_true.mp valid)
    simp only [Suits, Broken, Unparsable, Outside, Taken, Lies, readRange, marks, or_self, not_false_eq_true, true_and,
      true_iff]
    rintro ⟨token, member, found⟩
    exact ⟨.oneOf addresses, by simp [read], inside token member found⟩
  | plain =>
    simp only [Suits, Broken, Unparsable, Outside, Taken, Lies, readRange, marks, or_self, not_false_eq_true, true_and,
      true_iff]
    intro found
    exact ⟨.single target, by simp [found], rfl⟩

/-- A validated list holds validated ranges. -/
theorem valid_of_mem (valid : validateIpRanges net R = true) {range : String} (member : range ∈ R) :
    validateRange net range = true :=
  List.all_eq_true.mp valid range member

/-- Ranges that find an address rightly judge it rightly. -/
theorem judgeRightly_of_found (valid : validateIpRanges net R = true) {found : Bool}
    (outcome : R.anyM (ipInRange net target) = .ok found)
    (agree : found = true ↔ ∃ range ∈ R, Lies net target range) : JudgeRightly net target R := by
  rcases @Searches.refused_or_stops _ _ (ipInRange net target) R with
    all | ⟨front, range, back, rfl, before, stops⟩
  · -- Every range refuses the address, so none takes it.
    refine .inl fun range member => (suits_iff (valid_of_mem valid member)).mpr ?_
    have refused := all range member
    refine ⟨not_broken_of_ok (valid_of_mem valid member) refused, fun taken => ?_⟩
    have finds := (ipInRange_found_iff (valid_of_mem valid member)).mpr taken
    cases refused.symm.trans finds
  · -- The lookup has stopped at a range that takes the address.
    rw [Searches.anyM_stops before stops] at outcome
    have present : found = true := by
      cases found with
      | false => exact absurd outcome stops
      | true => rfl
    subst present
    have taken : Taken net target range := (ipInRange_found_iff (valid_of_mem valid (by simp))).mp outcome
    refine .inr ⟨agree.mp rfl, front, range, back, rfl, taken, fun other member => ?_⟩
    exact not_broken_of_ok (valid_of_mem valid (by simp [member])) (before other member)

/-- Ranges that judge an address rightly find it rightly. -/
theorem found_of_judgeRightly (valid : validateIpRanges net R = true) (judge : JudgeRightly net target R) :
    ∃ found, R.anyM (ipInRange net target) = .ok found ∧
      (found = true ↔ ∃ range ∈ R, Lies net target range) := by
  rcases judge with each | ⟨lies, front, range, back, rfl, taken, unbroken⟩
  · -- No lookup fails, and the ranges that take the address are those where it lies.
    have right range (member : range ∈ R) := (suits_iff (valid_of_mem valid member)).mp (each range member)
    obtain ⟨found, outcome, agree⟩ := Searches.anyM_iff fun range member =>
      ipInRange_of_not_broken (valid_of_mem valid member) (right range member).1
    refine ⟨found, outcome, agree.trans ⟨?_, ?_⟩⟩
    · rintro ⟨range, member, taken⟩
      exact ⟨range, member, (right range member).2 taken⟩
    · rintro ⟨range, member, lies⟩
      exact ⟨range, member, taken_of_lies (valid_of_mem valid member) lies⟩
  · -- The lookup stops at the range that takes the address at the latest.
    have finds : ipInRange net target range = .ok true :=
      (ipInRange_found_iff (valid_of_mem valid (by simp))).mpr taken
    have passes : ∀ other ∈ front, ∃ result, ipInRange net target other = .ok result := by
      intro other member
      obtain ⟨result, there, -⟩ :=
        ipInRange_of_not_broken (valid_of_mem valid (by simp [member])) (unbroken other member)
      exact ⟨result, there⟩
    exact ⟨true, Searches.anyM_found passes finds, by simpa using lies⟩

/-- What a lookup in validated ranges finds is right exactly where the ranges judge the address rightly. -/
theorem found_iff_judge (valid : validateIpRanges net R = true) :
    (∃ found, R.anyM (ipInRange net target) = .ok found ∧
        (found = true ↔ ∃ range ∈ R, Lies net target range)) ↔ JudgeRightly net target R := by
  constructor
  · rintro ⟨found, outcome, agree⟩
    exact judgeRightly_of_found valid outcome agree
  · exact found_of_judgeRightly valid

/-- A lookup of an address text answers for validated ranges exactly where they judge the address rightly. -/
theorem rangesAnswer_iff (net : IPAddresses) (IP : String) (R : List String) :
    RangesAnswer net IP R ↔
      (validateIpRanges net R = true →
        ∀ target, net.tryParse IP = some target → JudgeRightly net target R) := by
  -- A text that is no address is in no range, and the validation passes it over.
  unfold RangesAnswer ipInRanges
  cases parsed : net.tryParse IP with
  | none => simp
  | some target =>
    simp only [Option.some.injEq, exists_eq_left', forall_eq']
    exact forall_congr' fun valid => found_iff_judge valid

/-- Addresses of the older family in four decimal parts. -/
def quad (text : String) : Option IPAddress :=
  match (text.toList.splitOn '.').mapM fun part => decimal (String.ofList part) with
  | some [a, b, c, d] =>
    if a < 256 ∧ b < 256 ∧ c < 256 ∧ d < 256 then
      some (.IPv4 (BitVec.ofNat 32 (((a * 256 + b) * 256 + c) * 256 + d)))
    else none
  | _ => none

/-- Addresses in four decimal parts, compared as numbers. -/
def quads : IPAddresses where
  tryParse := quad
  le a b := decide (a.number ≤ b.number)
  ge a b := decide (b.number ≤ a.number)
  le_IPv4 a b := by simp [IPAddress.number, IPAddress.words]
  ge_IPv4 a b := by simp [IPAddress.number, IPAddress.words]

/-- A mask length of 256 is validated, and is cut to no bits at all: every address is found in the range. -/
theorem every_address_in_range : ¬ RangesAnswer quads "1.2.3.4" ["10.0.0.0/256"] := by
  intro answers
  have valid : validateIpRanges quads ["10.0.0.0/256"] = true := by decide
  have lookup : ipInRanges quads "1.2.3.4" ["10.0.0.0/256"] = .ok true := by decide
  obtain ⟨found, outcome, agree⟩ := answers valid
  cases lookup.symm.trans outcome
  -- The range has no address, for its length is no length of a mask.
  obtain ⟨target, -, range, member, written, read, has⟩ := agree.mp rfl
  obtain rfl := List.mem_singleton.mp member
  have wide : readRange quads "10.0.0.0/256" = some (.masked (.IPv4 0x0A000000#32) 256) := by decide
  obtain rfl := Option.some.inj (wide.symm.trans read)
  exact absurd has.1 (by decide)

/-- The lookup throws an exception. -/
def Throws (outcome : Except Fault Bool) : Prop :=
  outcome = .error .invalidAddress ∨ outcome = .error .outOfRange

/-- A validated list is safe to use: no lookup in it throws. -/
def SafeToUse (net : IPAddresses) (R : List String) : Prop :=
  validateIpRanges net R = true → ∀ IP, ¬ Throws (ipInRanges net IP R)

/-- Every address that comes to a range with a half that is no address has been stopped in front of it. -/
def StoppedBefore (net : IPAddresses) (R : List String) : Prop :=
  ∀ IP target, net.tryParse IP = some target → ∀ front range back, R = front ++ range :: back →
    Unparsable net range → ∃ other ∈ front, Taken net target other ∨ Outside net target other

/-- A lookup in a validated range throws only where one half of the range is no address. -/
theorem throws_iff_unparsable {range : String} (valid : validateRange net range = true) :
    Throws (ipInRange net target range) ↔ Unparsable net range := by
  -- Any other lookup is undefined, or answers.
  constructor
  · intro throws
    by_contra parsable
    by_cases outside : Outside net target range
    · rw [ipInRange_outside valid outside] at throws
      rcases throws with throws | throws <;> cases throws
    · obtain ⟨found, outcome, -⟩ := ipInRange_taken valid parsable outside
      rw [outcome] at throws
      rcases throws with throws | throws <;> cases throws
  · intro unparsable
    exact .inl (ipInRange_unparsable unparsable)

/-- A lookup stops without an exception where it takes the address, or is undefined. -/
theorem stops_iff {range : String} (valid : validateRange net range = true) (parsable : ¬ Unparsable net range) :
    ipInRange net target range ≠ .ok false ↔ Taken net target range ∨ Outside net target range := by
  -- A lookup within the addresses answers whether it takes the address.
  by_cases outside : Outside net target range
  · rw [ipInRange_outside valid outside]
    simp [outside]
  · obtain ⟨found, outcome, agree⟩ := ipInRange_taken valid parsable outside
    rw [outcome, ← agree]
    cases found <;> simp [outside]

/-- Where the lookup of an address does not throw, it stops in front of every range that is none. -/
theorem stops_before_unparsable {front back : List String} {range : String}
    (valid : validateIpRanges net (front ++ range :: back) = true) (unparsable : Unparsable net range)
    (quiet : ¬ Throws ((front ++ range :: back).anyM (ipInRange net target))) :
    ∃ other ∈ front, Taken net target other ∨ Outside net target other := by
  have throws : Throws (ipInRange net target range) :=
    (throws_iff_unparsable (valid_of_mem valid (by simp))).mpr unparsable
  have fails : ipInRange net target range ≠ .ok false := by
    rw [ipInRange_unparsable unparsable]
    simp
  rcases @Searches.refused_or_stops _ _ (ipInRange net target) front with
    all | ⟨before, other, behind, rfl, refused, stops⟩
  · -- The lookup would come to the range and throw there.
    rw [Searches.anyM_stops all fails] at quiet
    exact absurd throws quiet
  · have valid' : validateRange net other = true := valid_of_mem valid (by simp)
    rw [List.append_assoc, List.cons_append, Searches.anyM_stops refused stops,
      throws_iff_unparsable valid'] at quiet
    exact ⟨other, by simp, (stops_iff valid' quiet).mp stops⟩

/-- Where the lookup of an address throws, it has come to a range that is none. -/
theorem comes_to_unparsable (valid : validateIpRanges net R = true)
    (throws : Throws (R.anyM (ipInRange net target))) :
    ∃ front range back, R = front ++ range :: back ∧ Unparsable net range ∧
      ∀ other ∈ front, ¬ (Taken net target other ∨ Outside net target other) := by
  rcases @Searches.refused_or_stops _ _ (ipInRange net target) R with
    all | ⟨front, range, back, rfl, refused, stops⟩
  · rw [Searches.anyM_refused all] at throws
    rcases throws with throws | throws <;> cases throws
  · rw [Searches.anyM_stops refused stops, throws_iff_unparsable (valid_of_mem valid (by simp))] at throws
    refine ⟨front, range, back, rfl, throws, fun other member ends => ?_⟩
    -- What is refused neither takes the address nor is undefined.
    have valid' : validateRange net other = true := valid_of_mem valid (by simp [member])
    have whole := not_broken_of_ok valid' (refused other member)
    exact (stops_iff valid' fun unparsable => whole (.inl unparsable)).mpr ends (refused other member)

/-- A validated list is safe to use exactly where lookups are stopped in front of the ranges that are none. -/
theorem safeToUse_iff (net : IPAddresses) (R : List String) :
    SafeToUse net R ↔ (validateIpRanges net R = true → StoppedBefore net R) := by
  -- A text that is no address is looked up nowhere.
  unfold SafeToUse StoppedBefore
  refine forall_congr' fun valid => forall_congr' fun IP => ?_
  unfold ipInRanges
  cases parsed : net.tryParse IP with
  | none => simp [Throws]
  | some target =>
    simp only [Option.some.injEq, forall_eq']
    constructor
    · rintro quiet front range back rfl unparsable
      exact stops_before_unparsable valid unparsable quiet
    · -- Where the lookup throws, nothing in front has stopped it.
      intro stopped throws
      obtain ⟨front, range, back, list, unparsable, refused⟩ := comes_to_unparsable valid throws
      obtain ⟨other, member, ends⟩ := stopped front range back list unparsable
      exact refused other member ends

/-- Two halves that are no addresses are validated, and the lookup throws. -/
theorem halves_throw : ¬ SafeToUse quads ["x-y"] := by
  intro safe
  exact safe (by decide) "1.2.3.4" (.inl (by decide))

end CIDR

end Fms
