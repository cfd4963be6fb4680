import Mathlib.Data.BitVec
import Mathlib.Data.List.Basic

/-!
# Address blocks

A block of addresses of a fixed width is an address and a number of leading bits: an address lies in
the block if it has the same leading bits. An address of `k + w` bits that starts with given `k`
bits is one of `w` bits embedded; the part of a block among those is a block again (`restrict`), and
so a list of blocks, seen through an embedding, is a list of blocks.

The text of a block is its address, a slash and the number of bits. An IPv4 address is written as
four decimal numbers, an IPv6 address as eight groups of hexadecimal digits, of which a double colon
leaves out a run of zeros, and the last two of which may be written as an IPv4 address.
-/

/-- The addresses of `w` bits that share their leading `prefixLen` bits with one of them. -/
structure Cidr (w : Nat) where
  addr : BitVec w
  prefixLen : Nat
  le : prefixLen ≤ w
deriving DecidableEq

namespace Cidr

variable {k w : Nat}

/-- The leading `n` bits of two addresses agree. -/
def agree (n : Nat) (a b : BitVec w) : Bool := a >>> (w - n) == b >>> (w - n)

theorem agree_iff {n : Nat} {a b : BitVec w} :
    agree n a b = true ↔ ∀ i < w, w - n ≤ i → a.getLsbD i = b.getLsbD i := by
  unfold agree
  rw [beq_iff_eq]
  constructor
  · intro h i _ hi
    have hbit := congrArg (BitVec.getLsbD · (i - (w - n))) h
    simpa [Nat.add_sub_cancel' hi] using hbit
  · intro h
    apply BitVec.eq_of_getLsbD_eq
    intro i _
    rw [BitVec.getLsbD_ushiftRight, BitVec.getLsbD_ushiftRight]
    by_cases hlt : w - n + i < w
    · exact h _ hlt (Nat.le_add_right _ _)
    · rw [BitVec.getLsbD_of_ge _ _ (Nat.le_of_not_lt hlt),
        BitVec.getLsbD_of_ge _ _ (Nat.le_of_not_lt hlt)]

/-- Leading bits of an address in two parts: those of the first part, and of the second part those
that are left. -/
theorem agree_append {n : Nat} {hi : BitVec k} {a : BitVec w} {b : BitVec (k + w)} :
    agree n (hi ++ a) b = true ↔
      agree n hi (b.extractLsb' w k) = true ∧ agree (n - k) a (b.setWidth w) = true := by
  simp only [agree_iff, BitVec.getLsbD_append, BitVec.getLsbD_extractLsb', BitVec.getLsbD_setWidth]
  constructor
  · intro h
    refine ⟨?_, ?_⟩
    · intro i hlt hle
      have := h (w + i) (by omega) (by omega)
      rw [if_neg (by omega), Nat.add_sub_cancel_left] at this
      rw [this, decide_eq_true hlt, Bool.true_and]
    · intro i hlt hle
      have := h i (by omega) (by omega)
      rw [if_pos hlt] at this
      rw [this, decide_eq_true hlt, Bool.true_and]
  · intro ⟨hhigh, hlow⟩ i hlt hle
    by_cases hiw : i < w
    · rw [if_pos hiw, hlow i hiw (by omega), decide_eq_true hiw, Bool.true_and]
    · have hik : i - w < k := by omega
      rw [if_neg hiw, hhigh (i - w) hik (by omega), decide_eq_true hik, Bool.true_and,
        Nat.add_sub_cancel' (Nat.le_of_not_lt hiw)]

/-- The leading bits agree with those of the block. -/
def contains (net : Cidr w) (ip : BitVec w) : Bool := agree net.prefixLen ip net.addr

/-- The addresses of the block that start with the given bits, without these. -/
def restrict (hi : BitVec k) (net : Cidr (k + w)) : Option (Cidr w) :=
  if agree net.prefixLen hi (net.addr.extractLsb' w k) then
    some ⟨net.addr.setWidth w, net.prefixLen - k, Nat.sub_le_iff_le_add'.mpr net.le⟩
  else none

theorem contains_append (hi : BitVec k) (a : BitVec w) (net : Cidr (k + w)) :
    net.contains (hi ++ a) = (net.restrict hi).any (·.contains a) := by
  unfold contains restrict
  rw [Bool.eq_iff_iff, agree_append]
  split
  · rename_i hhigh
    simp [hhigh]
  · rename_i hhigh
    simp [hhigh]

/-- What an embedding sees of some blocks. -/
def restrictAll (hi : BitVec k) (nets : List (Cidr (k + w))) : List (Cidr w) :=
  nets.filterMap (restrict hi)

theorem any_contains_append (hi : BitVec k) (a : BitVec w) (nets : List (Cidr (k + w))) :
    nets.any (·.contains (hi ++ a)) = (restrictAll hi nets).any (·.contains a) := by
  unfold restrictAll
  induction nets with
  | nil => rfl
  | cons net nets ih =>
    rw [List.any_cons, ih, contains_append, List.filterMap_cons]
    cases net.restrict hi with
    | none => rfl
    | some part => rfl

/-- The block of all addresses. -/
def whole (w : Nat) : Cidr w := ⟨0, 0, Nat.zero_le w⟩

theorem contains_whole (ip : BitVec w) : (whole w).contains ip = true := by
  unfold contains
  rw [agree_iff]
  intro i hlt hle
  exact absurd hlt (Nat.not_lt.mpr hle)

/-- Where an embedding sees the whole, the blocks have all embedded addresses. -/
theorem any_contains_of_whole {hi : BitVec k} {nets : List (Cidr (k + w))}
    (h : restrictAll hi nets = [whole w]) (a : BitVec w) :
    nets.any (·.contains (hi ++ a)) = true := by
  rw [any_contains_append, h, List.any_cons, contains_whole, Bool.true_or]

/-- The block of one address. -/
def single (ip : BitVec w) : Cidr w := ⟨ip, w, Nat.le_refl w⟩

theorem contains_single {ip other : BitVec w} : (single ip).contains other = true ↔ other = ip := by
  unfold contains agree single
  rw [Nat.sub_self, BitVec.ushiftRight_zero, BitVec.ushiftRight_zero, beq_iff_eq]

/-- Where an embedding sees one address, the blocks have that embedded address only. -/
theorem any_contains_of_single {hi : BitVec k} {nets : List (Cidr (k + w))} {ip : BitVec w}
    (h : restrictAll hi nets = [single ip]) (a : BitVec w) :
    nets.any (·.contains (hi ++ a)) = true ↔ a = ip := by
  rw [any_contains_append, h, List.any_cons, List.any_nil, Bool.or_false, contains_single]

/-! ## Texts -/

/-- The value of a digit. -/
def digit? (radix : Nat) (c : Char) : Option Nat :=
  let value :=
    if '0' ≤ c ∧ c ≤ '9' then c.toNat - '0'.toNat
    else if 'a' ≤ c ∧ c ≤ 'z' then c.toNat - 'a'.toNat + 10
    else if 'A' ≤ c ∧ c ≤ 'Z' then c.toNat - 'A'.toNat + 10
    else radix
  if value < radix then some value else none

/-- A number of some digits, below a bound. -/
def readNumber (radix maxDigits upto : Nat) (text : List Char) : Option (Nat × List Char) :=
  let digits := text.takeWhile fun c => (digit? radix c).isSome
  let value := digits.foldl (fun acc c => acc * radix + (digit? radix c).getD 0) 0
  if digits = [] ∨ maxDigits < digits.length ∨ upto ≤ value then none
  else some (value, text.drop digits.length)

/-- The text after a character it must start with. -/
def readGivenChar (c : Char) : List Char → Option (List Char)
  | [] => none
  | d :: rest => if d = c then some rest else none

/-- Four decimal numbers with dots between them. -/
def readIpv4Addr (text : List Char) : Option (BitVec 32 × List Char) := do
  let (a, text) ← readNumber 10 3 256 text
  let (b, text) ← readNumber 10 3 256 (← readGivenChar '.' text)
  let (c, text) ← readNumber 10 3 256 (← readGivenChar '.' text)
  let (d, text) ← readNumber 10 3 256 (← readGivenChar '.' text)
  some (BitVec.ofNat 8 a ++ BitVec.ofNat 8 b ++ BitVec.ofNat 8 c ++ BitVec.ofNat 8 d, text)

/-- Groups of an IPv6 address as long as there are some, at most `limit`; and whether they end with
an IPv4 address. -/
def readGroups : (limit : Nat) → (first : Bool) → List Char →
    List (BitVec 16) × Bool × List Char
  | 0, _, text => ([], false, text)
  | limit + 1, first, text =>
    match if first then some text else readGivenChar ':' text with
    | none => ([], false, text)
    | some rest =>
      match if limit = 0 then none else readIpv4Addr rest with
      | some (ip, rest) => ([ip.extractLsb' 16 16, ip.extractLsb' 0 16], true, rest)
      | none =>
        match readNumber 16 4 65536 rest with
        | none => ([], false, text)
        | some (group, rest) =>
          let (groups, ipv4, rest) := readGroups limit false rest
          (BitVec.ofNat 16 group :: groups, ipv4, rest)

/-- The address of eight groups. -/
def ofGroups (groups : List (BitVec 16)) : BitVec 128 :=
  groups.foldl (fun acc group => acc <<< 16 ||| group.setWidth 128) 0

/-- Eight groups, or fewer around a double colon. -/
def readIpv6Addr (text : List Char) : Option (BitVec 128 × List Char) :=
  let (head, ipv4, text) := readGroups 8 true text
  if head.length = 8 then some (ofGroups head, text)
  else if ipv4 then none
  else do
    let text ← readGivenChar ':' (← readGivenChar ':' text)
    let (tail, _, text) := readGroups (8 - (head.length + 1)) true text
    let zeros := List.replicate (8 - (head.length + tail.length)) 0
    some (ofGroups (head ++ zeros ++ tail), text)

/-- An address, a slash and a number of bits. -/
def readNet (readAddr : List Char → Option (BitVec w × List Char)) (text : List Char) :
    Option (Cidr w) := do
  let (addr, text) ← readAddr text
  let (prefixLen, text) ← readNumber 10 3 (w + 1) (← readGivenChar '/' text)
  if h : prefixLen ≤ w ∧ text = [] then some ⟨addr, prefixLen, h.1⟩ else none

end Cidr

/-- An address of either family. -/
inductive IpAddr where
  | v4 (ip : BitVec 32)
  | v6 (ip : BitVec 128)
deriving DecidableEq

/-- A block of either family. -/
inductive IpNet where
  | v4 (net : Cidr 32)
  | v6 (net : Cidr 128)
deriving DecidableEq

namespace IpNet

/-- A block contains addresses of its own family only. -/
def contains : IpNet → IpAddr → Bool
  | v4 net, .v4 ip => net.contains ip
  | v6 net, .v6 ip => net.contains ip
  | _, _ => false

/-- The block a text denotes. -/
def parse (text : String) : Option IpNet :=
  match Cidr.readNet Cidr.readIpv4Addr text.toList with
  | some net => some (.v4 net)
  | none => (Cidr.readNet Cidr.readIpv6Addr text.toList).map .v6

def v4? : IpNet → Option (Cidr 32)
  | v4 net => some net
  | v6 _ => none

def v6? : IpNet → Option (Cidr 128)
  | v4 _ => none
  | v6 net => some net

/-- Of some blocks only those of the address's family matter. -/
theorem any_contains_v4 (nets : List IpNet) (ip : BitVec 32) :
    nets.any (·.contains (.v4 ip)) = (nets.filterMap v4?).any (·.contains ip) := by
  induction nets with
  | nil => rfl
  | cons net nets ih =>
    rw [List.any_cons, ih, List.filterMap_cons]
    cases net <;> rfl

theorem any_contains_v6 (nets : List IpNet) (ip : BitVec 128) :
    nets.any (·.contains (.v6 ip)) = (nets.filterMap v6?).any (·.contains ip) := by
  induction nets with
  | nil => rfl
  | cons net nets ih =>
    rw [List.any_cons, ih, List.filterMap_cons]
    cases net <;> rfl

example : parse "64:ff9b::192.0.2.33/96" =
    some (.v6 ⟨0x0064ff9b0000000000000000c0000221, 96, by decide⟩) := by decide +kernel

end IpNet
