import Mathlib.Data.List.Forall2
import NetFootprint.Window

/-!
# Windows on larger extents

A window that fits on an extent leaves at least as much of a larger one. For a pooling this is so
although its last window may be dropped: the extent that it is dropped for is the larger one.
-/

namespace NetFootprint.Window

theorem fdiv_mono {m n : Int} (h : m ≤ n) (k : Nat) : Int.fdiv m k ≤ Int.fdiv n k := by
  have hk : (0 : Int) ≤ k := Int.natCast_nonneg k
  rw [Int.fdiv_eq_ediv_of_nonneg _ hk, Int.fdiv_eq_ediv_of_nonneg _ hk]
  rcases Nat.eq_zero_or_pos k with rfl | hpos
  · simp
  · exact Int.ediv_le_ediv (by omega) h

theorem ceilDiv_mono {m n : Int} (h : m ≤ n) (k : Nat) : ceilDiv m k ≤ ceilDiv n k :=
  Int.neg_le_neg (fdiv_mono (Int.neg_le_neg h) k)

namespace Axis

variable {a : Axis} {extent extent' : Nat}

theorem convolved_mono (h : extent ≤ extent') : a.convolved extent ≤ a.convolved extent' := by
  have hslack : a.slack extent ≤ a.slack extent' := by
    simp only [slack]
    omega
  exact Int.add_le_add_right (fdiv_mono hslack a.stride) 1

theorem upConvolved_mono (h : extent ≤ extent') :
    a.upConvolved extent ≤ a.upConvolved extent' := by
  have hsteps : (a.stride : Int) * ((extent : Int) - 1) ≤ a.stride * ((extent' : Int) - 1) :=
    Int.mul_le_mul_of_nonneg_left (by omega) (Int.natCast_nonneg _)
  simp only [upConvolved]
  omega

theorem pooled_mono (h : extent ≤ extent') : a.pooled extent ≤ a.pooled extent' := by
  have hroom : (extent : Int) + 2 * a.pad - a.kernel ≤ extent' + 2 * a.pad - a.kernel := by omega
  exact Int.add_le_add_right (ceilDiv_mono hroom a.stride) 1

theorem trimmed_le (windows : Int) : a.trimmed extent windows ≤ windows := by
  simp only [trimmed]
  split <;> omega

/-- A window is only dropped on the larger extent if it would not be there on the smaller one. -/
theorem trimmed_mono (h : extent ≤ extent') {windows windows' : Int} (hw : windows ≤ windows')
    (hfits : a.startsInPadding extent (a.trimmed extent windows) = false) :
    a.trimmed extent windows ≤ a.trimmed extent' windows' := by
  have hle : a.trimmed extent windows ≤ windows := trimmed_le windows
  by_cases hdrop : a.startsInPadding extent' windows' = true
  · rw [show a.trimmed extent' windows' = windows' - 1 by rw [trimmed, if_pos hdrop]]
    by_contra hlt
    have hsame : a.trimmed extent windows = windows' := by omega
    rw [hsame] at hfits
    simp only [startsInPadding, decide_eq_true_eq, decide_eq_false_iff_not, Int.not_le] at hdrop hfits
    omega
  · rw [show a.trimmed extent' windows' = windows' by rw [trimmed, if_neg hdrop]]
    omega

end Axis

theorem pooled_covering {extents : List Nat} {d : Nat} {a : Axis} (hd : d < extents.length)
    (h : (covering extents).axis d = .ok a) : a.pooled extents[d] = 1 := by
  have hkernel : extents[d]? = some extents[d] := List.getElem?_eq_getElem hd
  rw [axis, axis?] at h
  simp only [covering, List.getElem?_map, hkernel, Option.map_some] at h
  obtain rfl := Except.ok.inj h
  have hroom : (extents[d] : Int) + 2 * (0 : Nat) - extents[d] = 0 := by omega
  simp only [Axis.pooled, pooledExtent, hroom]
  rfl

end NetFootprint.Window
