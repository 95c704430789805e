import Mathlib.Init

/-! The button that the user holds down while a code is sent
(`blocks/custom_btn.c`). -/
namespace Xtreme.SubGhz

inductive ProgMode
  | off
  | keeloqBft
  | keeloqAprimatic
  | keeloqDeaMio
  deriving DecidableEq, Repr

/-- The variables of the module. Buttons are numbered from `SUBGHZ_CUSTOM_BTN_OK`,
which is 0; `customBtnOriginal` is 0 until the code of a button is known. -/
structure SubGhzCustomBtn where
  customBtnId : BitVec 8
  customBtnOriginal : BitVec 8
  customBtnMaxBtns : BitVec 8
  controllerProgrammingMode : ProgMode
  deriving DecidableEq, Repr

namespace SubGhzCustomBtn

def ok : BitVec 8 := 0
def up : BitVec 8 := 1
def down : BitVec 8 := 2
def left : BitVec 8 := 3
def right : BitVec 8 := 4

/-- `subghz_custom_btn_set_original`, where no original is known yet. -/
def keepOriginal (custom : SubGhzCustomBtn) (btn : BitVec 8) : SubGhzCustomBtn :=
  if custom.customBtnOriginal = 0 then { custom with customBtnOriginal := btn } else custom

/-- `subghz_custom_btns_reset`. -/
def reset : SubGhzCustomBtn := ⟨ok, 0, 0, .off⟩

end SubGhzCustomBtn

end Xtreme.SubGhz
