import MeshCapture.Record.Instances
import Mathlib.Algebra.Order.Group.Nat
import Mathlib.Data.List.Basic
import Mathlib.Data.List.Induction

/-! # Running totals

The shares of the instances are cut out of the bytes that were written behind
each of them. Whatever the totals are, `split_inside_iff` tells where the shares
end. When the totals go up, `split_divides` tells that the shares lie one behind
the other between them. -/

namespace MeshCapture.InstanceShare

/-! ## Ends of shares -/

def vertexEnd (share : InstanceShare) (stride : UInt32) : Nat :=
  share.byteOffset.toNat + share.vertexCount.toNat * stride.toNat

def endBetween (stride start total : Nat) : Nat :=
  start + (total - start) / stride % 2 ^ 32 * stride

theorem toNat_countBetween (stride : UInt32) (start total : UInt64) :
    (saturatingSub total start / stride.toUInt64).toUInt32.toNat =
      (total.toNat - start.toNat) / stride.toNat % 2 ^ 32 := by
  rw [UInt64.toNat_toUInt32, UInt64.toNat_div, toNat_saturatingSub,
    UInt32.toNat_toUInt64]

theorem le_endBetween (stride start total : Nat) :
    start ≤ endBetween stride start total :=
  Nat.le_add_right _ _

theorem endBetween_le (stride start total : Nat) :
    endBetween stride start total ≤ max start total := by
  have counted : (total - start) / stride % 2 ^ 32 * stride ≤ total - start :=
    calc (total - start) / stride % 2 ^ 32 * stride
      _ ≤ (total - start) / stride * stride :=
          Nat.mul_le_mul_right _ (Nat.mod_le _ _)
      _ ≤ total - start := Nat.div_mul_le_self _ _
  unfold endBetween
  omega

theorem between_inside_iff {stride : UInt32} {start last : UInt64}
    {front : List UInt64} {bound : Nat} :
    (∀ share ∈ between stride.toUInt64 start (front ++ [last]),
        share.vertexEnd stride ≤ bound) ↔
      start.toNat ≤ bound ∧ (∀ total ∈ front, total.toNat ≤ bound) ∧
        endBetween stride.toNat (front.getLastD start).toNat last.toNat ≤
          bound := by
  have ends (start total : UInt64) :
      vertexEnd ⟨(saturatingSub total start / stride.toUInt64).toUInt32, start⟩
          stride =
        endBetween stride.toNat start.toNat total.toNat := by
    rw [vertexEnd, endBetween, toNat_countBetween]
  induction front generalizing start with
  | nil =>
      have behind := le_endBetween stride.toNat start.toNat last.toNat
      simp only [List.nil_append, between, List.mem_singleton, forall_eq, ends,
        List.getLastD_nil]
      exact ⟨fun inside => ⟨behind.trans inside, nofun, inside⟩,
        fun inside => inside.2.2⟩
  | cons total rest induction =>
      have behind := le_endBetween stride.toNat start.toNat total.toNat
      have before := endBetween_le stride.toNat start.toNat total.toNat
      simp only [List.cons_append, between, List.mem_cons, forall_eq_or_imp,
        ends, induction, List.getLastD_cons]
      constructor
      · rintro ⟨first, others⟩
        exact ⟨behind.trans first, ⟨others.1, others.2.1⟩, others.2.2⟩
      · rintro ⟨opens, others, last⟩
        exact ⟨before.trans (max_le opens others.1), others.1, others.2, last⟩

theorem length_split (totals : List UInt64) (stride : UInt32) :
    (split totals stride).1.length = totals.length := by
  have all (stride start : UInt64) :
      (between stride start totals).length = totals.length := by
    induction totals generalizing start with
    | nil => rfl
    | cons total rest induction =>
        rw [between, List.length_cons, induction, List.length_cons]
  exact all _ _

/-- The vertices that running totals tell stay inside when there is room for so
many bytes: no total but the last lies behind the bytes that are there. When the
last one lies behind the room, the whole vertices in front of it do not. -/
def TotalsFit (totals : List UInt64) (stride room : Nat) : Prop :=
  let last := (totals.getLastD 0).toNat
  (∀ total ∈ totals.dropLast, total.toNat ≤ min last room) ∧
    (last ≤ room ∨
      endBetween stride (totals.dropLast.getLastD 0).toNat last ≤ room)

theorem split_inside_iff {totals : List UInt64} {stride : UInt32} {room : Nat}
    (any : totals ≠ []) (apart : 0 < stride) :
    (∀ share ∈ (split totals stride).1,
        share.vertexEnd stride ≤ min (totals.getLastD 0).toNat room) ↔
      TotalsFit totals stride.toNat room := by
  rcases List.eq_nil_or_concat totals with none | ⟨front, last, rfl⟩
  · exact absurd none any
  · have least : max stride 1 = stride := by
      apply UInt32.toNat_inj.mp
      rw [UInt32.toNat_max]
      exact max_eq_left (UInt32.lt_iff_toNat_lt.mp apart)
    simp only [List.concat_eq_append, split, least, between_inside_iff,
      TotalsFit, List.getLastD_concat, List.dropLast_concat, UInt64.toNat_zero,
      Nat.zero_le, true_and]
    refine and_congr_right fun others => ?_
    have opens : (front.getLastD 0).toNat ≤ min last.toNat room := by
      have found : front.getLastD 0 ∈ 0 :: front := List.getLastD_mem_cons
      rcases List.mem_cons.mp found with none | one
      · rw [none]
        exact Nat.zero_le _
      · exact others _ one
    have whole := endBetween_le stride.toNat (front.getLastD 0).toNat
      last.toNat
    rw [max_eq_right (opens.trans (min_le_left _ _))] at whole
    rw [le_min_iff, and_iff_right whole]
    exact ⟨.inr, fun fits => fits.elim whole.trans id⟩

/-! ## Ascending totals -/

/-- A total that may come next: it is no smaller, and the vertices between the
two can be counted in 32 bits. -/
structure Follows (stride : UInt32) (start total : UInt64) : Prop where
  ascends : start.toNat ≤ total.toNat
  countable : (total.toNat - start.toNat) / stride.toNat < 2 ^ 32

instance (stride : UInt32) (start total : UInt64) :
    Decidable (Follows stride start total) :=
  decidable_of_iff
    (start.toNat ≤ total.toNat ∧
      (total.toNat - start.toNat) / stride.toNat < 2 ^ 32)
    ⟨fun holds => ⟨holds.1, holds.2⟩, fun follows => ⟨follows.1, follows.2⟩⟩

/-- The share starts at one total, and less than a vertex is left between its
end and the next one. -/
structure Fills (share : InstanceShare) (stride : UInt32)
    (start total : UInt64) : Prop where
  starts : share.byteOffset = start
  ends : share.vertexEnd stride ≤ total.toNat
  leaves : total.toNat < share.vertexEnd stride + stride.toNat

inductive FillAll (stride : UInt32) :
    (start : UInt64) → (totals : List UInt64) → List InstanceShare → Prop where
  | nil (start : UInt64) : FillAll stride start [] []
  | cons {start total : UInt64} {totals : List UInt64} {share : InstanceShare}
      {shares : List InstanceShare} (first : share.Fills stride start total)
      (later : FillAll stride total totals shares) :
      FillAll stride start (total :: totals) (share :: shares)

def Covers (share : InstanceShare) (stride : UInt32) (byte : Nat) : Prop :=
  share.byteOffset.toNat ≤ byte ∧ byte < share.vertexEnd stride

def vertices : (shares : List InstanceShare) → Nat
  | [] => 0
  | share :: rest => share.vertexCount.toNat + vertices rest

section

variable {stride : UInt32} {start total : UInt64} {totals : List UInt64}
  {share : InstanceShare} {shares : List InstanceShare}

theorem vertexEnd_between (follows : Follows stride start total) :
    vertexEnd ⟨(saturatingSub total start / stride.toUInt64).toUInt32, start⟩
        stride =
      start.toNat +
        (total.toNat - start.toNat) / stride.toNat * stride.toNat := by
  rw [vertexEnd, toNat_countBetween, Nat.mod_eq_of_lt follows.countable]

theorem fillAll_between (apart : 0 < stride.toNat)
    (ascending : (start :: totals).IsChain (Follows stride)) :
    FillAll stride start totals (between stride.toUInt64 start totals) := by
  induction totals generalizing start with
  | nil => exact .nil start
  | cons total rest induction =>
      rcases List.isChain_cons_cons.mp ascending with ⟨follows, later⟩
      have whole := Nat.div_mul_le_self (total.toNat - start.toNat)
        stride.toNat
      have left := Nat.lt_div_mul_add apart (a := total.toNat - start.toNat)
      have ascends := follows.ascends
      have ends := vertexEnd_between follows
      exact .cons ⟨rfl, by omega, by omega⟩ (induction later)

namespace FillAll

theorem length_eq (fills : FillAll stride start totals shares) :
    shares.length = totals.length := by
  induction fills with
  | nil => rfl
  | cons _ _ induction => rw [List.length_cons, induction, List.length_cons]

theorem apart (fills : FillAll stride start totals shares) :
    (∀ share ∈ shares, start.toNat ≤ share.byteOffset.toNat) ∧
      shares.Pairwise fun before after =>
        before.vertexEnd stride ≤ after.byteOffset.toNat := by
  induction fills with
  | nil => exact ⟨List.forall_mem_nil _, .nil⟩
  | @cons start total _ share _ first _ induction =>
      rcases induction with ⟨behind, apart⟩
      have from_start : share.byteOffset.toNat ≤ share.vertexEnd stride :=
        Nat.le_add_right _ _
      have ends := first.ends
      rw [first.starts] at from_start
      constructor
      · rw [List.forall_mem_cons, first.starts]
        refine ⟨Nat.le_refl _, ?_⟩
        intro later inside
        exact (from_start.trans ends).trans (behind later inside)
      · apply List.pairwise_cons.mpr
        exact ⟨fun later inside => ends.trans (behind later inside), apart⟩

theorem inside (fills : FillAll stride start totals shares) :
    start.toNat ≤ (totals.getLastD start).toNat ∧
      ∀ share ∈ shares,
        share.vertexEnd stride ≤ (totals.getLastD start).toNat := by
  induction fills with
  | nil => exact ⟨Nat.le_refl _, List.forall_mem_nil _⟩
  | @cons start total _ share _ first _ induction =>
      rcases induction with ⟨reaches, inside⟩
      have from_start : share.byteOffset.toNat ≤ share.vertexEnd stride :=
        Nat.le_add_right _ _
      have ends := first.ends.trans reaches
      rw [first.starts] at from_start
      rw [List.getLastD_cons]
      exact ⟨from_start.trans ends, List.forall_mem_cons.mpr ⟨ends, inside⟩⟩

end FillAll

/-! ### Whole vertices -/

theorem Fills.vertexEnd_eq (fills : share.Fills stride start total)
    (whole : stride.toNat ∣ start.toNat) (next : stride.toNat ∣ total.toNat) :
    share.vertexEnd stride = total.toNat := by
  have ends := fills.ends
  have leaves := fills.leaves
  have multiple : stride.toNat ∣ share.vertexEnd stride := by
    rw [vertexEnd, fills.starts]
    exact Nat.dvd_add whole (Nat.dvd_mul_left _ _)
  have none : total.toNat - share.vertexEnd stride = 0 :=
    Nat.eq_zero_of_dvd_of_lt (Nat.dvd_sub next multiple) (by omega)
  omega

namespace FillAll

theorem covered_iff (fills : FillAll stride start totals shares)
    (whole : stride.toNat ∣ start.toNat)
    (wholes : ∀ total ∈ totals, stride.toNat ∣ total.toNat) (byte : Nat) :
    (∃ share ∈ shares, share.Covers stride byte) ↔
      start.toNat ≤ byte ∧ byte < (totals.getLastD start).toNat := by
  induction fills with
  | nil =>
      simp only [List.not_mem_nil, false_and, exists_false, List.getLastD_nil,
        false_iff]
      omega
  | @cons start total rest share shares first later induction =>
      rcases List.forall_mem_cons.mp wholes with ⟨next, others⟩
      have ends := first.vertexEnd_eq whole next
      have reaches := later.inside.1
      have grows : start.toNat ≤ share.vertexEnd stride := by
        rw [vertexEnd, first.starts]
        exact Nat.le_add_right _ _
      rw [List.exists_mem_cons_iff, induction next others, Covers, first.starts,
        ends, List.getLastD_cons]
      omega

theorem bytes_eq (fills : FillAll stride start totals shares)
    (whole : stride.toNat ∣ start.toNat)
    (wholes : ∀ total ∈ totals, stride.toNat ∣ total.toNat) :
    start.toNat + vertices shares * stride.toNat =
      (totals.getLastD start).toNat := by
  induction fills with
  | nil => rw [vertices, Nat.zero_mul, Nat.add_zero, List.getLastD_nil]
  | @cons start total _ share _ first _ induction =>
      rcases List.forall_mem_cons.mp wholes with ⟨next, others⟩
      have ends := first.vertexEnd_eq whole next
      rw [vertexEnd, first.starts] at ends
      rw [List.getLastD_cons, ← induction next others, ← ends, vertices,
        Nat.add_mul, Nat.add_assoc]

end FillAll

end

/-! ### Totals of counts -/

def runningTotals (stride start : Nat) : (counts : List UInt32) → List Nat
  | [] => []
  | count :: rest =>
      let total := start + count.toNat * stride
      total :: runningTotals stride total rest

theorem counts_between_runningTotals {stride : UInt32} {counts : List UInt32}
    {start : Nat} (apart : 0 < stride.toNat) (small : start < UInt64.size)
    (fits : ∀ total ∈ runningTotals stride.toNat start counts,
      total < UInt64.size) :
    (between stride.toUInt64 (UInt64.ofNat start)
        ((runningTotals stride.toNat start counts).map UInt64.ofNat)).map
        (·.vertexCount) = counts := by
  induction counts generalizing start with
  | nil => rfl
  | cons count rest induction =>
      rcases List.forall_mem_cons.mp fits with ⟨next, others⟩
      rw [runningTotals, List.map_cons, between, List.map_cons,
        induction next others]
      have same : (saturatingSub
            (UInt64.ofNat (start + count.toNat * stride.toNat))
            (UInt64.ofNat start) / stride.toUInt64).toUInt32 = count := by
        apply UInt32.toNat_inj.mp
        rw [toNat_countBetween, UInt64.toNat_ofNat_of_lt' next,
          UInt64.toNat_ofNat_of_lt' small, Nat.add_sub_cancel_left,
          Nat.mul_div_cancel _ apart]
        exact Nat.mod_eq_of_lt count.toNat_lt
      rw [same]

/-! ### Splitting -/

/-- The shares lie one behind the other in front of the last total, each between
its own total and the one before. If all totals are whole numbers of vertices,
the shares leave no byte out. -/
structure Divide (stride : UInt32) (totals : List UInt64)
    (shares : List InstanceShare) (bytes : UInt64) : Prop where
  length_eq : shares.length = totals.length
  bytes_eq : bytes = totals.getLastD 0
  fills : FillAll stride 0 totals shares
  apart : shares.Pairwise fun before after =>
    before.vertexEnd stride ≤ after.byteOffset.toNat
  inside : ∀ share ∈ shares, share.vertexEnd stride ≤ bytes.toNat
  covered : (∀ total ∈ totals, stride.toNat ∣ total.toNat) →
    ∀ byte, (∃ share ∈ shares, share.Covers stride byte) ↔ byte < bytes.toNat
  vertices_eq : (∀ total ∈ totals, stride.toNat ∣ total.toNat) →
    vertices shares = bytes.toNat / stride.toNat

/-- Splitting ascending totals divides their bytes, and splitting the totals of
vertex counts gives the counts back. -/
theorem split_divides (stride : UInt32) (apart : 0 < stride) :
    (∀ totals : List UInt64, (0 :: totals).IsChain (Follows stride) →
      Divide stride totals (split totals stride).1 (split totals stride).2) ∧
    ∀ counts : List UInt32,
      (∀ total ∈ runningTotals stride.toNat 0 counts, total < UInt64.size) →
      (split ((runningTotals stride.toNat 0 counts).map UInt64.ofNat)
        stride).1.map (·.vertexCount) = counts := by
  have positive : 0 < stride.toNat := UInt32.lt_iff_toNat_lt.mp apart
  have least : max stride 1 = stride := by
    apply UInt32.toNat_inj.mp
    rw [UInt32.toNat_max]
    exact max_eq_left positive
  simp only [split, least]
  constructor
  · intro totals ascending
    have fills := fillAll_between positive ascending
    have whole : stride.toNat ∣ (0 : UInt64).toNat := Nat.dvd_zero _
    refine ⟨fills.length_eq, rfl, fills, fills.apart.2, fills.inside.2, ?_, ?_⟩
    · intro wholes byte
      rw [fills.covered_iff whole wholes]
      exact and_iff_right (Nat.zero_le byte)
    · intro wholes
      have bytes := fills.bytes_eq whole wholes
      rw [UInt64.toNat_zero, Nat.zero_add] at bytes
      rw [← bytes, Nat.mul_div_cancel _ positive]
  · intro counts fits
    exact counts_between_runningTotals positive (by decide) fits

/-- Four instances, the third of which has no output. -/
theorem split_divides_four :
    (0 : UInt32) < 25 ∧
      [0, 100, 250, 250, 400].IsChain (Follows 25) ∧
      Divide 25 [100, 250, 250, 400]
        [⟨4, 0⟩, ⟨6, 100⟩, ⟨0, 250⟩, ⟨6, 250⟩] 400 ∧
      (∀ total ∈ runningTotals 25 0 [4, 6, 0, 6], total < UInt64.size) ∧
      (split ((runningTotals 25 0 [4, 6, 0, 6]).map UInt64.ofNat)
        25).1.map (·.vertexCount) = [4, 6, 0, 6] := by
  have ascending : [0, 100, 250, 250, 400].IsChain (Follows 25) := by decide
  have fits : ∀ total ∈ runningTotals 25 0 [4, 6, 0, 6],
      total < UInt64.size := by decide
  rcases split_divides 25 (by decide) with ⟨divide, counts⟩
  exact ⟨by decide, ascending, divide [100, 250, 250, 400] ascending, fits,
    counts [4, 6, 0, 6] fits⟩

end MeshCapture.InstanceShare
