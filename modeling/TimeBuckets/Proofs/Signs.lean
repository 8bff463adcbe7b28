/-
Signs of doubles.

* `Double.sign?` — the sign of an unpacked double, if it is a number;
* `Double.IsOnSide` — a number that does not lie on the other side of zero;
* `Double.zero_le_iff` — comparing with zero looks at the sign only;
* `Double.add_nonneg`, `Double.toReal_nonneg` — sums and whole readings that are not negative;
* `Double.sum_nonneg` — a sum of values that are not negative.

Rounding keeps signs, and so do packing and unpacking.  What an operation does to signs is then
read off its cases, with no need to know what it rounds to.
-/
import Mathlib
import TimeBuckets.Rate
import TimeBuckets.Statistic

namespace TimeBuckets.Double

open Float.Model Float.Model.UnpackedFloat

variable {s : Sign} {u v : UnpackedFloat} {x y : Float}

/-! ### Signs -/

/-- The sign of an unpacked double that is a number. -/
def sign? : UnpackedFloat → Option Sign
  | .infinity s => some s
  | .zero s => some s
  | .finite s _ _ _ => some s
  | .notANumber => none

/-- Unless its exponent is that of infinity, what is packed is a number with the sign. -/
theorem sign?_unpack_packComponents {e : BitVec Format.binary64.exponentBits} (he : e ≠ -1#_)
    (m : BitVec Format.binary64.mantissaBitsWithoutImplicit) :
    sign? (UnpackedFloat.unpack Format.binary64 (packComponents Format.binary64 s e m))
      = some s := by
  rw [UnpackedFloat.unpack]
  simp only [unpackMantissa_packComponents, unpackExponent_packComponents,
    unpackSign_packComponents, Sign.ofBitVec_toBitVec, if_neg he]
  split
  · split
    · rfl
    · rfl
  · rfl

/-- Packing changes no sign. -/
theorem sign?_unpack_pack (u : UnpackedFloat) : sign? (Float.Model.pack u).unpack = sign? u := by
  show sign? (UnpackedFloat.unpack Format.binary64 (UnpackedFloat.pack Format.binary64 u)) = sign? u
  cases u with
  | notANumber => rfl
  | infinity s =>
    cases s
    · rfl
    · rfl
  | zero s =>
    cases s
    · rfl
    · rfl
  | finite s m e hm =>
    rw [UnpackedFloat.pack]
    dsimp only
    split
    · cases s
      · rfl
      · rfl
    · rename_i hfinite
      split
      · refine sign?_unpack_packComponents (fun he => hfinite ?_) _
        have hexp := congrArg BitVec.toNat he
        rw [BitVec.toNat_ofNat, Nat.mod_eq_of_lt (by omega),
          show (-1#_ : BitVec Format.binary64.exponentBits).toNat = 2 ^ 11 - 1 from rfl] at hexp
        omega
      · exact sign?_unpack_packComponents (by decide) _

/-- A number that does not lie on the other side of zero. -/
inductive IsOnSide (s : Sign) : UnpackedFloat → Prop
  | infinity : IsOnSide s (.infinity s)
  | zero (t : Sign) : IsOnSide s (.zero t)
  | finite (m : Nat) (e : Int) (hm : 0 < m) : IsOnSide s (.finite s m e hm)

theorem isOnSide_of_sign? (h : sign? u = some s) : IsOnSide s u := by
  cases u with
  | notANumber => cases h
  | infinity t =>
    obtain rfl := Option.some.inj h
    exact .infinity
  | zero t => exact .zero t
  | finite t m e hm =>
    obtain rfl := Option.some.inj h
    exact .finite m e hm

theorem IsOnSide.unpack_pack (h : IsOnSide s u) : IsOnSide s (Float.Model.pack u).unpack := by
  cases h with
  | infinity => exact isOnSide_of_sign? (sign?_unpack_pack _)
  | finite m e hm => exact isOnSide_of_sign? (sign?_unpack_pack _)
  | zero t =>
    cases t
    · exact .zero .negative
    · exact .zero .positive

/-- Comparing with zero looks at the sign only. -/
theorem zero_le_iff : 0 ≤ x ↔ IsOnSide .positive x.toModel.unpack := by
  have hle : 0 ≤ x ↔ UnpackedFloat.le (.zero .positive) x.toModel.unpack = true := by
    rw [show UnpackedFloat.zero .positive = (0 : Float).toModel.unpack from rfl]
    exact decide_eq_true_iff
  rw [hle]
  generalize x.toModel.unpack = u
  constructor
  · intro h
    cases u with
    | notANumber => cases h
    | zero t => exact .zero t
    | infinity t =>
      cases t
      · cases h
      · exact .infinity
    | finite t m e hm =>
      cases t
      · cases h
      · exact .finite m e hm
  · intro h
    cases h with
    | infinity => rfl
    | zero t => rfl
    | finite m e hm => rfl

/-! ### Rounding -/

theorem sign?_roundWithAccuracy (s : Sign) (m : Nat) (e : Int) (accuracy : Accuracy) :
    sign? (roundWithAccuracy Format.binary64 s m e accuracy) = some s := by
  rw [roundWithAccuracy]
  dsimp only
  split
  · rfl
  · rfl

theorem sign?_ofInt {n : Int} (hn : 0 ≤ n) :
    sign? (UnpackedFloat.ofInt Format.binary64 n) = some .positive := by
  rw [UnpackedFloat.ofInt, UnpackedFloat.normalize]
  rcases Int.lt_or_eq_of_le hn with hpos | rfl
  · rw [Int.compare_eq_gt.mpr hpos]
    exact sign?_roundWithAccuracy _ _ _ _
  · rfl

theorem sign?_normalize {m : Int} (hm : 0 < m) (e : Int) (s : Sign) :
    sign? (UnpackedFloat.normalize Format.binary64 m e s) = some .positive := by
  rw [UnpackedFloat.normalize, Int.compare_eq_gt.mpr hm]
  exact sign?_roundWithAccuracy _ _ _ _

/-! ### Operations -/

theorem IsOnSide.add (hu : IsOnSide .positive u) (hv : IsOnSide .positive v) :
    IsOnSide .positive (UnpackedFloat.add Format.binary64 u v) := by
  cases hu with
  | infinity =>
    cases hv with
    | infinity => exact .infinity
    | zero t => exact .infinity
    | finite m e hm => exact .infinity
  | zero t =>
    cases hv with
    | infinity => exact .infinity
    | zero t' =>
      rw [UnpackedFloat.add]
      split
      · exact .zero _
      · exact .zero _
    | finite m e hm => exact .finite m e hm
  | finite m e hm =>
    cases hv with
    | infinity => exact .infinity
    | zero t => exact .finite m e hm
    | finite m' e' hm' =>
      refine isOnSide_of_sign? (sign?_normalize ?_ _ _)
      have hshift (n k : Nat) (hn : 0 < n) : (0 : Int) < ((n <<< k : Nat) : Int) := by
        rw [Nat.shiftLeft_eq]
        exact Int.natCast_pos.mpr (Nat.mul_pos hn (Nat.two_pow_pos k))
      exact Int.add_pos (hshift _ _ hm) (hshift _ _ hm')

theorem sign?_mul {m : Nat} {e : Int} {hm : 0 < m} (hu : sign? u = some s) :
    sign? (UnpackedFloat.mul Format.binary64 u (.finite .positive m e hm)) = some s := by
  cases u with
  | notANumber => cases hu
  | infinity t =>
    cases t
    · exact hu
    · exact hu
  | zero t =>
    cases t
    · exact hu
    · exact hu
  | finite t m' e' hm' =>
    cases t
    · exact (sign?_roundWithAccuracy _ _ _ _).trans hu
    · exact (sign?_roundWithAccuracy _ _ _ _).trans hu

/-! ### Doubles -/

theorem add_nonneg (hx : 0 ≤ x) (hy : 0 ≤ y) : 0 ≤ x + y :=
  zero_le_iff.mpr ((zero_le_iff.mp hx).add (zero_le_iff.mp hy)).unpack_pack

/-- A natural number becomes a double without a minus sign. -/
theorem sign?_ofNat (n : Nat) : sign? (Float.ofNat n).toModel.unpack = some .positive := by
  show sign? (Float.ofScientific n false 0).toModel.unpack = _
  rw [Float.ofScientific]
  split
  · have hn : sign? n.toUInt64.toFloat.toModel.unpack = some .positive :=
      (sign?_unpack_pack _).trans (sign?_ofInt (Int.natCast_nonneg _))
    have hone : Float.exactlyRepresentablePowersOfTen[0].toModel.unpack
        = .finite .positive (2 ^ 52) (-52) (by decide) := rfl
    refine (sign?_unpack_pack _).trans ?_
    rw [hone]
    exact sign?_mul hn
  · refine (sign?_unpack_pack _).trans ?_
    rw [if_neg Bool.false_ne_true, UnpackedFloat.ofScientific]
    split
    · rfl
    · split
      · rfl
      · split
        · rfl
        · rw [if_pos (show 0 ≤ Int.ofNat 0 by decide)]
          exact sign?_mul rfl

theorem toReal_nonneg {w : Word} (h : 0 ≤ w) : 0 ≤ w.toReal := by
  obtain ⟨n, hn⟩ := Int.eq_ofNat_of_zero_le (Int64.le_iff_toInt_le.mp h)
  rw [zero_le_iff, Word.toReal, hn]
  exact isOnSide_of_sign? (sign?_ofNat n)

/-- Values that are not negative have no negative sum. -/
theorem sum_nonneg {values : List Float} {total : Float} (hall : ∀ v ∈ values, 0 ≤ v)
    (h : Statistic.sum.ofValues? values = some total) : 0 ≤ total := by
  cases values with
  | nil => exact absurd h.symm (Option.some_ne_none _)
  | cons v rest =>
    obtain rfl := Option.some.inj h
    have hstep (rest : List Float) (hrest : ∀ w ∈ rest, 0 ≤ w) (v : Float) (hv : 0 ≤ v) :
        0 ≤ rest.foldl (· + ·) v := by
      induction rest generalizing v with
      | nil => exact hv
      | cons w rest ih =>
        exact ih (fun u hu => hrest u (.tail _ hu)) _ (add_nonneg hv (hrest w (.head _)))
    exact hstep rest (fun w hw => hall w (.tail _ hw)) v (hall v (.head _))

end TimeBuckets.Double
