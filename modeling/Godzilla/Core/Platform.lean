import Godzilla.Core.Time
import Godzilla.Misc.JsonCode
import Mathlib.Order.Fin.Basic

/-!
# The platform below the code

Identifiers, digests and exceptions as the code uses them, and the functions of
the standard library and of pydantic it calls without defining: JSON dumping of
models, the text of validation errors, SHA-256 over JSON text, `uuid5`, the zone
database and a few string methods. They are parameters (`Platform`); what a result needs
of them is a hypothesis of that result.
-/

namespace Godzilla
open Misc

/-- A UUID. `str(uuid)` is fixed-width lower-case hexadecimal, so the string
    order the code sorts by is the order of the numbers. -/
abbrev Uuid := Fin (2 ^ 128)

/-- A UUID from its number. -/
def Uuid.ofNat (n : Nat) : Uuid := ⟨n % 2 ^ 128, Nat.mod_lt _ (by decide)⟩

/-- A SHA-256 hex digest. -/
abbrev Digest := String

/-- The exceptions that the modelled code raises or tells apart. -/
inductive PyError where
  /-- `ValueError`, which includes pydantic's `ValidationError`. -/
  | valueError (message : String)
  /-- `KeyError`, with the `repr` of the missing key. -/
  | keyError (key : String)
  | stopIteration
  | runtimeError (message : String)
  /-- `CalendarCoverageError`, a `RuntimeError`. -/
  | calendarCoverage (message : String)
  /-- `CriticalWriteFailure`, a `RuntimeError` (`core/events/journal.py:12`). -/
  | criticalWriteFailure (message : String)
  /-- `IdempotencyConflict`, a `ValueError` (`storage/postgres.py:48`). -/
  | idempotencyConflict (message : String)
  /-- A driver or constraint error of the database. -/
  | databaseError (message : String)
  /-- `ZeroDivisionError`, `OverflowError` and the decimal signals. -/
  | arithmeticError (message : String)
  | typeError (message : String)
  deriving DecidableEq, Repr

namespace PyError

/-- `str(error)`. -/
def text : PyError → String
  | valueError m | runtimeError m | calendarCoverage m | criticalWriteFailure m
  | idempotencyConflict m | databaseError m | arithmeticError m | typeError m => m
  | keyError k => k
  | stopIteration => ""

/-- `isinstance(error, ValueError)`. -/
def isValueError : PyError → Bool
  | valueError _ | idempotencyConflict _ => true
  | _ => false

/-- `isinstance(error, RuntimeError)`. -/
def isRuntimeError : PyError → Bool
  | runtimeError _ | calendarCoverage _ | criticalWriteFailure _ => true
  | _ => false

end PyError

/-- What an operation of `datetime` answers when it comes to a reading: past the years one to
    9999 it is an `OverflowError`. -/
def asDatetime (reading : Int) : Except PyError Int :=
  if IsDatetime reading then .ok reading
  else .error (.arithmeticError "date value out of range")

/-- `instant + duration` for a duration that nothing else bounds: past `datetime.max` it is an
    `OverflowError`. -/
def addDuration (instant : Instant) (duration : Duration) : Except PyError Instant :=
  if instant + duration ≤ maxInstant then .ok (instant + duration)
  else .error (.arithmeticError "date value out of range")

theorem addDuration_ok {instant deadline : Instant} {duration : Duration}
    (h : addDuration instant duration = .ok deadline) :
    deadline = instant + duration ∧ instant + duration ≤ maxInstant := by
  rw [addDuration] at h
  split at h
  · next hle => exact ⟨(Except.ok.inj h).symm, hle⟩
  · cases h

/-- Why `ZoneInfo(key)` raises: nothing is known under the key, a `KeyError`, or the key is no
    relative path, a `ValueError`. -/
inductive ZoneFault where
  | unknown
  | malformed (message : String)
  deriving DecidableEq, Repr

/-- Library functions the code calls and does not define. -/
class Platform where
  /-- `model.model_dump(mode="json")`. -/
  modelDump : {α : Type} → α → Json
  /-- `str` of the `ValidationError` of a model for what one of its validators says. -/
  validationText : String → String → String
  /-- The SHA-256 hex digest of a value's compact JSON text with sorted keys. -/
  sha256 : Json → Digest
  /-- `uuid5(NAMESPACE_URL, name)`. -/
  uuid5 : String → Uuid
  /-- `ZoneInfo(key)`, where it raises nothing. -/
  zoneInfo : String → ZoneInfo
  /-- Why `ZoneInfo(key)` raises, if it does. -/
  zoneFault : String → Option ZoneFault := fun _ => none
  /-- `datetime.isoformat()` of a UTC instant. -/
  isoformat : Instant → String
  /-- `str(uuid)`. -/
  uuidStr : Uuid → String
  /-- `str.strip()`. -/
  strip : String → String
  /-- `str.upper()`. -/
  upper : String → String
  /-- `repr` of a string. -/
  reprStr : String → String

variable [Platform]

/-- The `ValidationError` of a model, a `ValueError`. -/
def invalid (model message : String) : PyError :=
  .valueError (Platform.validationText model message)

/-- `content_hash` (`features/models.py:15-18`). -/
def contentHash {α : Type} (value : α) : Digest := Platform.sha256 (Platform.modelDump value)

/-- `ZoneInfo("Asia/Kolkata")`, written out in the allocator and the normaliser. -/
def kolkata : ZoneInfo := Platform.zoneInfo "Asia/Kolkata"

/-! A concrete platform on which the models can be run: constant digests, Indian
    standard time in every zone, and decimal time stamps. -/

namespace Sample

scoped instance platform : Platform where
  modelDump _ := .obj []
  validationText model message := model ++ ": " ++ message
  sha256 _ := "digest"
  uuid5 name := Uuid.ofNat name.length
  zoneInfo _ := .fixed (minutesOf 330)
  isoformat instant := toString instant
  uuidStr id := toString id.val
  strip text := text
  upper text := text
  reprStr text := text

end Sample

/-! The same platform with a digest that has no collisions: the text of the value. -/

namespace TextDigest

scoped instance platform : Platform := { Sample.platform with sha256 := Json.text }

end TextDigest

end Godzilla

namespace Godzilla.Sample

/-! Bounds that several sample settings share. -/

theorem confirmation_count_default : 1 ≤ 2 := by decide

theorem max_candidates_default : 1 ≤ 5 := by decide

theorem metadata_age_pos : 0 < 86400 := by decide

theorem quote_age_pos : (0 : ℚ) < 3 := by decide +kernel

theorem price_sample_pos : (0 : ℚ) < 100 := by decide +kernel

theorem notional_sample_pos : (0 : ℚ) < 1000000 := by decide +kernel

theorem participation_sample : (0 : ℚ) < 1 / 100 ∧ (1 / 100 : ℚ) ≤ 1 := by decide +kernel

theorem tick_size_pos : (0 : ℚ) < 1 / 20 := by decide +kernel

theorem listing_dates_ordered : (0 : Date) ≤ 10 := by decide

theorem band_unbounded : ∀ l ∈ (none : Option ℚ), ∀ u ∈ (none : Option ℚ), l < u := by simp

end Godzilla.Sample
