import UptimeChecker.Checker.IpFilter

/-!
# What the address filter blocks

An IPv6 address that stands for an IPv4 address is made of a fixed part and the IPv4 address, and
sees of the reserved ranges what `Cidr.restrictAll` leaves of them. For the mapped form that is the
list of the IPv4 ranges itself. For the other forms it is everything, but for the compatible form,
of which one address is reserved only.
-/

namespace UptimeChecker

/-- The IPv6 forms of an IPv4 address that are not the mapped one. A 6to4 address goes on after the
IPv4 address. -/
inductive EmbeddedForm where
  | compatible
  | translated
  | nat64
  | sixToFour (rest : BitVec 80)

/-- `::ffff:a`. -/
def toIpv6Mapped (a : BitVec 32) : BitVec 128 := 0xffff#96 ++ a

/-- `::a`, `::ffff:0:a`, `64:ff9b::a` and the addresses of `2002:a::/48`. -/
def EmbeddedForm.address (a : BitVec 32) : EmbeddedForm → BitVec 128
  | compatible => 0#96 ++ a
  | translated => 0xffff0000#96 ++ a
  | nat64 => 0x0064ff9b0000000000000000#96 ++ a
  | sixToFour rest => 0x2002#16 ++ (a ++ rest)

/-- What the embeddings see of the reserved ranges. -/
def Embedded (ranges : List IpNet) : Prop :=
  Cidr.restrictAll 0xffff#96 (ranges.filterMap IpNet.v6?) = ranges.filterMap IpNet.v4? ∧
  Cidr.restrictAll 0#96 (ranges.filterMap IpNet.v6?) = [.single 1#32] ∧
  Cidr.restrictAll 0xffff0000#96 (ranges.filterMap IpNet.v6?) = [.whole 32] ∧
  Cidr.restrictAll 0x0064ff9b0000000000000000#96 (ranges.filterMap IpNet.v6?) = [.whole 32] ∧
  Cidr.restrictAll 0x2002#16 (ranges.filterMap IpNet.v6?) = [.whole 112]

instance (ranges : List IpNet) : Decidable (Embedded ranges) :=
  inferInstanceAs (Decidable (_ ∧ _))

/-- All texts parse, and the ranges are computed. -/
theorem exists_privateRanges : ∃ ranges, privateRanges = some ranges ∧ Embedded ranges := by
  have h : privateRanges.any (fun ranges => decide (Embedded ranges)) = true := by decide +kernel
  simpa only [Option.any_eq_true, decide_eq_true_eq] using h

/-- An IPv4 address is blocked if it lies in an IPv4 range. -/
private theorem isExternalIp_v4 {ranges : List IpNet} (h : privateRanges = some ranges)
    (a : BitVec 32) :
    isExternalIp (.v4 a) = some (!(ranges.filterMap IpNet.v4?).any (·.contains a)) := by
  unfold isExternalIp
  rw [h, Option.map_some, IpNet.any_contains_v4]

/-- An IPv6 address is blocked if it lies in an IPv6 range. -/
private theorem isExternalIp_v6 {ranges : List IpNet} (h : privateRanges = some ranges)
    (ip : BitVec 128) :
    isExternalIp (.v6 ip) = some (!(ranges.filterMap IpNet.v6?).any (·.contains ip)) := by
  unfold isExternalIp
  rw [h, Option.map_some, IpNet.any_contains_v6]

private theorem isExternalIp_v6_eq_false {ranges : List IpNet} (h : privateRanges = some ranges)
    (ip : BitVec 128) :
    isExternalIp (.v6 ip) = some false ↔
      (ranges.filterMap IpNet.v6?).any (·.contains ip) = true := by
  rw [isExternalIp_v6 h, Option.some.injEq, Bool.not_eq_false']

/-- **The mapped part of the filter is its IPv4 part.** -/
theorem isExternalIp_toIpv6Mapped (a : BitVec 32) :
    ∃ external, isExternalIp (.v4 a) = some external ∧
      isExternalIp (.v6 (toIpv6Mapped a)) = some external := by
  obtain ⟨ranges, hranges, hmapped, -⟩ := exists_privateRanges
  refine ⟨_, isExternalIp_v4 hranges a, ?_⟩
  rw [isExternalIp_v6 hranges, ← hmapped]
  exact congrArg (fun blocked => some (!blocked)) (Cidr.any_contains_append 0xffff#96 a _)

/-- Of the compatible form the loopback address alone is blocked. -/
private theorem isExternalIp_compatible (a : BitVec 32) :
    isExternalIp (.v6 (EmbeddedForm.compatible.address a)) = some false ↔ a = 1 := by
  obtain ⟨ranges, hranges, -, hcompatible, -⟩ := exists_privateRanges
  rw [isExternalIp_v6_eq_false hranges]
  exact Cidr.any_contains_of_single hcompatible a

/-- Whatever an IPv4 address is, its IPv6 forms are blocked, but for the compatible ones; and of
those the loopback address is. -/
theorem isExternalIp_embeddedForm_iff (a : BitVec 32) (form : EmbeddedForm) :
    isExternalIp (.v6 (form.address a)) = some false ↔ form ≠ .compatible ∨ a = 1 := by
  obtain ⟨ranges, hranges, -, -, htranslated, hnat64, hsixToFour⟩ := exists_privateRanges
  cases form with
  | compatible =>
    rw [isExternalIp_compatible]
    simp
  | translated =>
    rw [isExternalIp_v6_eq_false hranges]
    exact iff_of_true (Cidr.any_contains_of_whole htranslated a) (.inl nofun)
  | nat64 =>
    rw [isExternalIp_v6_eq_false hranges]
    exact iff_of_true (Cidr.any_contains_of_whole hnat64 a) (.inl nofun)
  | sixToFour rest =>
    rw [isExternalIp_v6_eq_false hranges]
    exact iff_of_true (Cidr.any_contains_of_whole hsixToFour (a ++ rest)) (.inl nofun)

/-- The address `0.0.0.0` is blocked, and `::` is not. -/
theorem isExternalIp_unspecified :
    isExternalIp (.v4 0) = some false ∧
      isExternalIp (.v6 (EmbeddedForm.compatible.address 0)) = some true := by
  constructor
  · decide +kernel
  · obtain ⟨ranges, hranges, _⟩ := exists_privateRanges
    have hopen : ¬ isExternalIp (.v6 (EmbeddedForm.compatible.address 0)) = some false := by
      rw [isExternalIp_compatible]
      decide
    rw [isExternalIp_v6 hranges] at hopen ⊢
    simpa using hopen

end UptimeChecker
