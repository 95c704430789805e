import Xtreme.SubGhz.CameAtomoRoundTrip

/-! The room that the upload of a CAME Atomo code takes, whatever the code, the button and
the number of bits. -/
namespace Xtreme.SubGhz
open Xtreme.Toolbox

/-- How many bits the loop over a frame goes over: eight bits of the count, less two. -/
def frameLength (dataCountBit : Nat) : Nat := (BitVec.ofInt 8 (dataCountBit - 2)).toNat

theorem length_frameBits (dataCountBit : Nat) (frame : BitVec 64) :
    (frameBits dataCountBit frame).length = frameLength dataCountBit := by
  rw [frameBits, List.length_map, List.length_reverse, List.length_range, frameLength]

/-- The bits of the eight parcels, for any number of bits. -/
def sentParcels (rollingCounterMult : BitVec 8) (custom : SubGhzCustomBtn) (instanc : CameAtomoGeneric)
    (btn : BitVec 8) : List (List Bool) :=
  (parcelFrames (sentCode rollingCounterMult instanc) (codeOfButton (sentButton custom btn))).map
    (frameBits instanc.dataCountBit)

theorem length_sentParcels (rollingCounterMult : BitVec 8) (custom : SubGhzCustomBtn) (instanc : CameAtomoGeneric)
    (btn : BitVec 8) : (sentParcels rollingCounterMult custom instanc btn).length = 8 := by
  rw [sentParcels, List.length_map, parcelFrames, List.length_map, List.length_range]

theorem length_of_mem_sentParcels {rollingCounterMult : BitVec 8} {custom : SubGhzCustomBtn}
    {instanc : CameAtomoGeneric} {btn : BitVec 8} {bits : List Bool}
    (listed : bits ∈ sentParcels rollingCounterMult custom instanc btn) :
    bits.length = frameLength instanc.dataCountBit := by
  obtain ⟨frame, -, rfl⟩ := List.mem_map.mp listed
  exact length_frameBits _ _

theorem length_parcelsUpload_empty (encState : ManchesterEncoderState) (result : ManchesterEncoderResult)
    {parcels : List (List Bool)} (empty : ∀ bits ∈ parcels, bits = []) :
    (parcelsUpload encState result parcels).length ≤ 4 * parcels.length := by
  induction parcels generalizing encState result with
  | nil => exact Nat.zero_le _
  | cons bits parcels ih =>
    obtain rfl := empty bits List.mem_cons_self
    have rest := ih (parcelUpload encState result []).2.2 (parcelUpload encState result []).2.1 fun bits later =>
      empty bits (List.mem_cons_of_mem _ later)
    have first : (parcelUpload encState result []).1.length ≤ 4 := by
      obtain ⟨prevBit, step⟩ := encState
      cases prevBit <;> exact Nat.le_of_ble_eq_true rfl
    rw [parcelsUpload, List.length_append, List.length_cons]
    exact Nat.le_trans (Nat.add_le_add first rest) (by omega)

/-- **Room.** The upload of a code has room just if there are at most 874 of these in the
eight frames together: bits, pairs of neighbouring bits that are alike, and frames that
end with a zero. -/
theorem cameAtomo_upload_inside_iff (rollingCounterMult : BitVec 8) (custom : SubGhzCustomBtn)
    (encState : ManchesterEncoderState) (result : ManchesterEncoderResult) (instanc : CameAtomoGeneric)
    (btn : BitVec 8) :
    (cameAtomoGetUpload rollingCounterMult custom encState result instanc btn).isSome ↔
      8 * frameLength instanc.dataCountBit +
          ((sentParcels rollingCounterMult custom instanc btn).map likeNeighbours).sum +
          (sentParcels rollingCounterMult custom instanc btn).countP endsLow ≤ 874 := by
  have eight := length_sentParcels rollingCounterMult custom instanc btn
  have stored : (cameAtomoGetUpload rollingCounterMult custom encState result instanc btn).isSome ↔
      2 + (parcelsUpload (manchesterEncoderReset encState) result
        (sentParcels rollingCounterMult custom instanc btn)).length ≤ 900 := by
    have shape : cameAtomoGetUpload rollingCounterMult custom encState result instanc btn =
        if ([LevelDuration.level true (cameAtomoTeLong * 15), .level false (cameAtomoTeLong * 60)] ++
          parcelsUpload (manchesterEncoderReset encState) result
            (sentParcels rollingCounterMult custom instanc btn)).length ≤ cameAtomoSizeUpload then some _ else none :=
      rfl
    rw [shape, Option.isSome_ite, List.length_append]
    exact Iff.rfl
  rw [stored]
  rcases Nat.eq_zero_or_pos (frameLength instanc.dataCountBit) with none | some
  · have empty : ∀ bits ∈ sentParcels rollingCounterMult custom instanc btn, bits = [] := fun bits listed =>
      List.length_eq_zero_iff.mp ((length_of_mem_sentParcels listed).trans none)
    have short := length_parcelsUpload_empty (manchesterEncoderReset encState) result empty
    have pairs : ((sentParcels rollingCounterMult custom instanc btn).map likeNeighbours).sum = 0 := by
      rw [List.map_congr_left fun bits listed => (congrArg likeNeighbours (empty bits listed)).trans rfl,
        List.map_const', List.sum_replicate_nat]
      exact Nat.mul_zero _
    have low : (sentParcels rollingCounterMult custom instanc btn).countP endsLow ≤ 8 :=
      eight ▸ List.countP_le_length
    omega
  · have nonempty : ∀ bits ∈ sentParcels rollingCounterMult custom instanc btn, bits ≠ [] := fun bits listed =>
      List.ne_nil_of_length_pos (length_of_mem_sentParcels listed ▸ some)
    have bits : ((sentParcels rollingCounterMult custom instanc btn).map List.length).sum =
        8 * frameLength instanc.dataCountBit := by
      rw [List.map_congr_left fun bits listed => length_of_mem_sentParcels listed, List.map_const',
        List.sum_replicate_nat, eight]
    rw [length_parcelsUpload rfl result nonempty]
    omega

/-- A code of zeros with the last parcel counter, which starts again at zero. -/
theorem cameAtomo_upload_outside : ¬(cameAtomoGetUpload 1 SubGhzCustomBtn.reset ⟨false, 0⟩ .shortLow
      { ordinaryCode with serial := 0, cnt := 0xFFFF, cnt2 := 0x7F, data2 := 0x7FFFFF0000000000 } 1).isSome := by
  decide +kernel

end Xtreme.SubGhz
