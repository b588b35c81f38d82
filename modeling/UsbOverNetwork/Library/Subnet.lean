import Mathlib.Order.Bounds.Basic

/-! Addresses of `w` bits under a prefix length: the subnet of an address and its
broadcast address. -/
namespace Subnet

variable {w : Nat} {length : Nat}

/-- The network mask: the first `length` bits. -/
def mask (w length : Nat) : BitVec w := BitVec.allOnes w <<< (w - length)

/-- The addresses that have their first `length` bits in common with `address`. -/
def subnet (length : Nat) (address : BitVec w) : Set (BitVec w) :=
  {other | other &&& mask w length = address &&& mask w length}

/-- The network bits of the address, and every host bit set. -/
def broadcast (length : Nat) (address : BitVec w) : BitVec w :=
  (address &&& mask w length) ||| ~~~mask w length

theorem mem_subnet {address other : BitVec w} : other ∈ subnet length address ↔
    other &&& mask w length = address &&& mask w length := Iff.rfl

theorem self_mem_subnet (address : BitVec w) : address ∈ subnet length address := rfl

theorem broadcast_and_mask (address : BitVec w) :
    broadcast length address &&& mask w length = address &&& mask w length := by
  rw [broadcast,BitVec.and_or_distrib_right,BitVec.and_assoc,BitVec.and_self,BitVec.not_and_self]
  exact BitVec.or_zero

theorem broadcast_mem_subnet (address : BitVec w) :
    broadcast length address ∈ subnet length address := broadcast_and_mask address

theorem broadcast_eq_iff {address other : BitVec w} :
    broadcast length address = broadcast length other ↔ other ∈ subnet length address := by
  constructor
  · intro same
    apply mem_subnet.mpr
    rw [← broadcast_and_mask other,← same,broadcast_and_mask]
  · intro member
    rw [broadcast,broadcast,mem_subnet.mp member]

theorem and_broadcast (address : BitVec w) : address &&& broadcast length address = address := by
  rw [broadcast,BitVec.and_or_distrib_left,← BitVec.and_assoc,BitVec.and_self,
    ← BitVec.and_or_distrib_left,BitVec.or_not_self,BitVec.and_allOnes]

theorem le_broadcast (address : BitVec w) : address ≤ broadcast length address := by
  have covered : (address &&& broadcast length address).toNat = address.toNat :=
    congrArg BitVec.toNat (and_broadcast address)
  rw [BitVec.toNat_and] at covered
  rw [BitVec.le_def,← covered]
  exact Nat.and_le_right

theorem isGreatest_broadcast (address : BitVec w) :
    IsGreatest (subnet length address) (broadcast length address) := by
  refine ⟨broadcast_mem_subnet address,?_⟩
  intro other member
  rw [broadcast_eq_iff.mpr member]
  exact le_broadcast other

theorem mask_getLsbD (index : Nat) :
    (mask w length).getLsbD index = (decide (index < w) && decide (w - length ≤ index)) := by
  rw [mask,BitVec.getLsbD_shiftLeft,BitVec.getLsbD_allOnes]
  grind

theorem mask_eq_not (inside : 0 < length) (within : length ≤ w) :
    mask w length = ~~~(1#w <<< (w - length) - 1#w) := by
  have some : 1 ≤ 2^(w - length) := Nat.one_le_two_pow
  have power : 1#w <<< (w - length) = BitVec.ofNat w (2^(w - length)) := by
    apply BitVec.eq_of_toNat_eq
    rw [← BitVec.twoPow_eq,BitVec.toNat_twoPow,BitVec.toNat_ofNat]
  have single : 1 < 2^w := Nat.one_lt_two_pow (by omega)
  have hosts : 1#w <<< (w - length) - 1#w = BitVec.ofNat w (2^(w - length) - 1) := by
    rw [power,BitVec.ofNat_sub_ofNat_of_le _ _ single some]
  rw [hosts]
  apply BitVec.eq_of_getLsbD_eq
  intro index bound
  rw [mask_getLsbD,BitVec.getLsbD_not,BitVec.getLsbD_ofNat,Nat.testBit_two_pow_sub_one]
  grind

theorem mem_subnet_iff_bits {address other : BitVec w} (within : length ≤ w) :
    other ∈ subnet length address ↔
      ∀ index < length, other.getMsbD index = address.getMsbD index := by
  constructor
  · intro member index front
    have bits := congrArg (BitVec.getMsbD · index) (mem_subnet.mp member)
    have covered : (mask w length).getMsbD index = true := by
      simp only [BitVec.getMsbD,mask_getLsbD]
      simp
      omega
    simpa [covered] using bits
  · intro bits
    apply mem_subnet.mpr
    apply BitVec.eq_of_getMsbD_eq
    intro index inside
    rw [BitVec.getMsbD_and,BitVec.getMsbD_and]
    by_cases front : index < length
    · rw [bits index front]
    · have outside : (mask w length).getMsbD index = false := by
        simp only [BitVec.getMsbD,mask_getLsbD]
        simp
        omega
      rw [outside,Bool.and_false,Bool.and_false]

end Subnet
