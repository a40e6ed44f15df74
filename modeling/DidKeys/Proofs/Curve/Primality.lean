import DidKeys.Curve.Point
import DidKeys.Proofs.Curve.Residue
import Mathlib.Data.List.Prime
import Mathlib.NumberTheory.LucasPrimality
import Mathlib.Tactic.NormNum.Prime

/-! # The field and the group have prime order

A number is prime when some residue has its predecessor as order (`prime_of_generates`).  The prime
factors of the predecessor, which the test asks for, are themselves found prime this way, down to
numbers small enough for trial division: a table of such steps is a certificate
(`prime_of_certifies`).

* `prime_fieldPrime`: the coordinates form a field.
* `prime_groupOrder`: every scalar but zero is a unit. -/

namespace DidKeys

namespace Residue

open scoped Fin.CommRing

/-- The residue of `base` returns to one after `n - 1` steps and no sooner, as far as the divisors
of `n - 1` tell whose prime factors are `factors`. -/
structure Generates (n : Nat) [NeZero n] (base : Nat) (factors : List Nat) : Prop where
  prod_factors : factors.prod = n - 1
  power_pred : power (Fin.ofNat n base) (n - 1) = 1
  power_ne : ∀ q ∈ factors, power (Fin.ofNat n base) ((n - 1) / q) ≠ 1

instance (n : Nat) [NeZero n] (base : Nat) (factors : List Nat) :
    Decidable (Generates n base factors) :=
  decidable_of_iff
    (factors.prod = n - 1 ∧ power (Fin.ofNat n base) (n - 1) = 1 ∧
      ∀ q ∈ factors, power (Fin.ofNat n base) ((n - 1) / q) ≠ 1)
    ⟨fun h => ⟨h.1, h.2.1, h.2.2⟩, fun h => ⟨h.1, h.2, h.3⟩⟩

/-- A residue whose order is the predecessor exists modulo primes only. -/
theorem prime_of_generates {n : Nat} [NeZero n] {base : Nat} {factors : List Nat}
    (hprime : ∀ q ∈ factors, q.Prime) (h : Generates n base factors) : n.Prime := by
  refine lucas_primality n (ZMod.finEquiv n (Fin.ofNat n base)) ?_ ?_
  · rw [← map_pow, ← power_eq_pow, h.power_pred, map_one]
  · intro q hq hdvd hpow
    have hmem : q ∈ factors := by
      refine mem_list_primes_of_dvd_prod hq.prime (fun r hr => (hprime r hr).prime) ?_
      rw [h.prod_factors]
      exact hdvd
    apply h.power_ne q hmem
    apply (ZMod.finEquiv n).injective
    rw [power_eq_pow, map_pow, hpow, map_one]

/-- A step of a certificate: the prime factors of the predecessor of `number`, those small enough
for trial division apart from those with a step of their own. -/
structure Step where
  number : Nat
  base : Nat
  small : List Nat
  large : List Nat
  [ne_zero : NeZero number]

attribute [instance] Step.ne_zero

/-- The residues of all steps have the orders they should, and a large factor is the number of a
step further down. -/
def Certifies : List Step → Prop
  | [] => True
  | step :: rest =>
    (Generates step.number step.base (step.small ++ step.large) ∧
      ∀ q ∈ step.large, q ∈ rest.map Step.number) ∧ Certifies rest

instance Certifies.decidable : (steps : List Step) → Decidable (Certifies steps)
  | [] => inferInstanceAs (Decidable True)
  | _ :: rest =>
    have := Certifies.decidable rest
    inferInstanceAs (Decidable (_ ∧ _))

theorem prime_of_certifies {steps : List Step}
    (hsmall : ∀ step ∈ steps, ∀ q ∈ step.small, q.Prime) (h : Certifies steps) :
    ∀ step ∈ steps, step.number.Prime := by
  induction steps with
  | nil => simp
  | cons step rest ih =>
    obtain ⟨⟨hgenerates, hlarge⟩, hrest⟩ := h
    obtain ⟨hfirst, hsmall⟩ := List.forall_mem_cons.mp hsmall
    have hprime := ih hsmall hrest
    refine List.forall_mem_cons.mpr ⟨?_, hprime⟩
    refine prime_of_generates (List.forall_mem_append.mpr ⟨hfirst, fun q hq => ?_⟩) hgenerates
    obtain ⟨other, hother, rfl⟩ := List.mem_map.mp (hlarge q hq)
    exact hprime other hother

end Residue

open Residue

/-- A certificate for the prime of the field. -/
def fieldCertificate : List Step :=
  [⟨fieldPrime, 3, [2, 3, 7, 13441],
      [205115282021455665897114700593932402728804164701536103180137503955397371]⟩,
    ⟨205115282021455665897114700593932402728804164701536103180137503955397371, 10,
      [2, 3, 5, 29, 29, 31, 7723],
      [132896956044521568488119, 255515944373312847190720520512484175977]⟩,
    ⟨255515944373312847190720520512484175977, 3,
      [2, 2, 2, 7, 7, 11, 1627, 2657, 4423, 41201, 96557, 7240687], [107590001]⟩,
    ⟨107590001, 3, [2, 2, 2, 2, 5, 5, 5, 5, 7, 29, 53], []⟩,
    ⟨132896956044521568488119, 6, [2, 3], [22149492674086928081353]⟩,
    ⟨22149492674086928081353, 5, [2, 2, 2, 3, 5323], [173378833005251801]⟩,
    ⟨173378833005251801, 6, [2, 2, 2, 5, 5, 2621, 24809, 13331831], []⟩]

theorem prime_fieldPrime : fieldPrime.Prime := by
  have hsmall : ∀ step ∈ fieldCertificate, ∀ q ∈ step.small, q.Prime := by
    norm_num [fieldCertificate]
  exact prime_of_certifies hsmall (by decide +kernel) _ List.mem_cons_self

/-- A certificate for the order of the group. -/
def groupCertificate : List Step :=
  [⟨groupOrder, 7, [2, 2, 2, 2, 2, 2, 3, 149, 631],
      [107361793816595537, 174723607534414371449, 341948486974166000522343609283189]⟩,
    ⟨341948486974166000522343609283189, 2, [2, 2, 3, 3, 3, 109],
      [29047611873442575647497758179]⟩,
    ⟨29047611873442575647497758179, 2, [2, 293, 305873], [545358713, 297159362677]⟩,
    ⟨545358713, 5, [2, 2, 2, 41, 59, 28181], []⟩,
    ⟨297159362677, 2, [2, 2, 3, 3, 11, 461, 1627771], []⟩,
    ⟨174723607534414371449, 3, [2, 2, 2, 17, 59, 4051, 120233], [44706919]⟩,
    ⟨44706919, 6, [2, 3, 797, 9349], []⟩,
    ⟨107361793816595537, 3, [2, 2, 2, 2, 16699, 85831, 4681609], []⟩]

theorem prime_groupOrder : groupOrder.Prime := by
  have hsmall : ∀ step ∈ groupCertificate, ∀ q ∈ step.small, q.Prime := by
    norm_num [groupCertificate]
  exact prime_of_certifies hsmall (by decide +kernel) _ List.mem_cons_self

end DidKeys
