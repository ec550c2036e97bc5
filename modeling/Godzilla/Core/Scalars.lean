import Godzilla.Core.Float
import Godzilla.Core.Platform
import Godzilla.Misc.Codec

/-!
# Scalars in JSON

How pydantic writes and reads the scalar fields of the models: identifiers, UTC datetimes,
`Decimal` and finite `float` have texts of their own, taken as parameters that lose nothing.
Strings, integers and truth values are written as such; a few other JSON values are read as
integers or truth values too. Field constraints that the structures do not carry (lengths,
patterns, ranges) are part of the codec of the field.
-/

namespace Godzilla
open Misc

/-- The JSON codecs of scalar types, and what else is read as a `bool` or an `int`. -/
class ScalarCodecs (F : Type) [PyFloat F] where
  uuid : Codec Uuid
  instant : Codec Instant
  decimal : Codec ℚ
  float : Codec F
  laxBool : Json → Option Bool
  laxInt : Json → Option Int
  uuid_valid : ∀ u, uuid.Valid u
  instant_valid : ∀ t, instant.Valid t
  decimal_valid : ∀ x, decimal.Valid x
  float_valid : ∀ x : F, PyFloat.isFinite x = true → float.Valid x

/-- `pattern=r"^[0-9a-f]{64}$"`. -/
def IsHexDigest (s : String) : Prop :=
  s.toList.length = 64 ∧ ∀ c ∈ s.toList, c ∈ "0123456789abcdef".toList

instance (s : String) : Decidable (IsHexDigest s) := inferInstanceAs (Decidable (_ ∧ _))

namespace Wire

/-- A string with `min_length=1`. -/
def nonempty : Codec String := Codec.text.such (· ≠ "")

/-- A SHA-256 hex digest. -/
def digest : Codec Digest := Codec.text.such IsHexDigest

/-- `tuple[str, ...]`. -/
def texts : Codec (List String) := Codec.text.list

variable (F : Type) [PyFloat F] [ScalarCodecs F]

/-- A truth value. -/
def flag : Codec Bool := Codec.bool.lenient (ScalarCodecs.laxBool F)

/-- An integer. -/
def integer : Codec Int := Codec.int.lenient (ScalarCodecs.laxInt F)

/-- An integer that a structure keeps as a natural number. -/
def count : Codec Nat := Codec.nat (integer F)

/-- A finite `float`. -/
def float : Codec F := (ScalarCodecs.float (F := F)).such fun x => PyFloat.isFinite x = true

/-- A `float` with `ge=0, le=1`. -/
def fraction : Codec F := (float F).such fun x => 0 ≤ x ∧ x ≤ 1

/-- `UUID`. -/
def uuid : Codec Uuid := ScalarCodecs.uuid F

/-- A `datetime` in UTC. -/
def instant : Codec Instant := ScalarCodecs.instant F

/-- `Decimal`. -/
def decimal : Codec ℚ := ScalarCodecs.decimal F

@[simp] theorem uuid_valid (id : Uuid) : (uuid F).Valid id := ScalarCodecs.uuid_valid id

@[simp] theorem instant_valid (t : Instant) : (instant F).Valid t := ScalarCodecs.instant_valid t

@[simp] theorem decimal_valid (x : ℚ) : (decimal F).Valid x := ScalarCodecs.decimal_valid x

variable {F}

@[simp] theorem float_valid {x : F} : (float F).Valid x ↔ PyFloat.isFinite x = true :=
  ⟨fun h => h.2, fun h => ⟨ScalarCodecs.float_valid x h, h⟩⟩

end Wire

end Godzilla
