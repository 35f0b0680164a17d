/-
# Strings and headers of replies (`ril_service.cpp`)

A reply to the client is made of a header, which `populateResponseInfo` fills, and of a result
whose strings are views: `convertCharPtrToHidlString` lets a `hidl_string` refer to the bytes
at a pointer without copying them.  The client reads them in its callback, which is called
with the storage as it is then.
-/
import Ct07.Lib.ScopedStorage
import Mathlib.Data.Int.Notation
import Mathlib.Data.Nat.Notation
import Mathlib.Data.List.Basic

open ScopedStorage

namespace Radio

/-- A C string, without its terminator. -/
abbrev Text := List Char

/-- An array of C strings, some of them null pointers. -/
abbrev Strings := List (Option Text)

/-- `sizeof(char *)` on the 32-bit target. -/
def sizeofPointer : ℕ := 4

/-- `snprintf` of a text into an array of `size` bytes. -/
def snprintf (size : ℕ) (s : Text) : Text := s.take (size - 1)

def isSpace (c : Char) : Bool := c = ' ' || (9 ≤ c.toNat && c.toNat ≤ 13)

/-- The value of the digits that a text begins with. -/
def leadingDigits (s : Text) : ℕ :=
  (s.takeWhile Char.isDigit).foldl (fun n c => 10 * n + (c.toNat - '0'.toNat)) 0

/-- `atoi` on the 32-bit target, where `strtol` saturates. -/
def atoi (s : Text) : ℤ :=
  match s.dropWhile isSpace with
  | '-' :: s => max (-leadingDigits s) (-2147483648)
  | '+' :: s => min (leadingDigits s) 2147483647
  | s => min (leadingDigits s) 2147483647

/-- `ATOI_NULL_HANDLED_DEF` -/
def atoiNullHandledDef (x : Option Text) (defaultVal : ℤ) : ℤ :=
  match x with
  | some s => atoi s
  | none => defaultVal

/-- `ATOI_NULL_HANDLED` -/
def atoiNullHandled (x : Option Text) : ℤ := atoiNullHandledDef x (-1)

/-- The value of a hexadecimal digit. -/
def hexDigitValue (c : Char) : Option ℕ :=
  if c.isDigit then some (c.toNat - '0'.toNat)
  else if 'a' ≤ c ∧ c ≤ 'f' then some (c.toNat - 'a'.toNat + 10)
  else if 'A' ≤ c ∧ c ≤ 'F' then some (c.toNat - 'A'.toNat + 10)
  else none

/-- The value of the hexadecimal digits that a text begins with, behind `0x` if it is there. -/
def leadingHexDigits (s : Text) : ℕ :=
  let s := match s with
    | '0' :: 'x' :: s => s
    | '0' :: 'X' :: s => s
    | s => s
  (s.map hexDigitValue).takeWhile Option.isSome |>.reduceOption.foldl (fun n d => 16 * n + d) 0

/-- `strtol(s, NULL, 16)` on the 32-bit target. -/
def strtol16 (s : Text) : ℤ :=
  match s.dropWhile isSpace with
  | '-' :: s => max (-leadingHexDigits s) (-2147483648)
  | '+' :: s => min (leadingHexDigits s) 2147483647
  | s => min (leadingHexDigits s) 2147483647

example : strtol16 " 0x1A2bG".toList = 6699 := by decide

/-! ## Strings -/

abbrev HidlString (β : Type*) := View β Text

/-- `hidl_string()` -/
def HidlString.empty {β : Type*} : HidlString β := View.own []

/-- `convertCharPtrToHidlString` for a pointer to the block `b`, `none` when it is null. -/
def convertCharPtrToHidlString {β : Type*} (b : β) : Option Text → HidlString β
  | none => .empty
  | some s => View.of b s

section Strings

variable {β : Type*} (b : β) (m : Store β Text)

theorem HidlString.empty_valid : (HidlString.empty : HidlString β).Valid m := View.valid_own m []

@[simp] theorem convertCharPtrToHidlString_text (ptr : Option Text) :
    (convertCharPtrToHidlString b ptr).text = ptr.getD [] := by
  cases ptr <;> rfl

/-- The string is readable exactly when its pointer is null or refers to what it did. -/
theorem convertCharPtrToHidlString_valid (ptr : Option Text) :
    (convertCharPtrToHidlString b ptr).Valid m ↔ ∀ s ∈ ptr, m b = some s := by
  cases ptr with
  | none => simp [convertCharPtrToHidlString, HidlString.empty_valid]
  | some s => simp [convertCharPtrToHidlString]

/-- A string whose bytes are gone cannot be read. -/
theorem convertCharPtrToHidlString_dangles {m : Store β Text} (s : Text) (hm : m b = none) :
    ¬ (convertCharPtrToHidlString b (some s)).Valid m :=
  View.not_valid_of_none rfl hm

end Strings

/-! ## Headers -/

/-- `RadioResponseType` -/
inductive ResponseType where
  | solicited
  | solicitedAck
  | solicitedAckExp
  deriving DecidableEq, Repr

structure RadioResponseInfo where
  type : ResponseType
  serial : ℤ
  /-- `RadioError` -/
  error : ℤ
  deriving DecidableEq, Repr

def rilESuccess : ℤ := 0

/-- `RadioError::NONE` -/
def radioErrorNone : ℤ := 0

/-- `RadioError::INVALID_RESPONSE` -/
def radioErrorInvalidResponse : ℤ := 66

/-- `populateResponseInfo`.  The record was zero before, and stays so in its type for a number
other than `RESPONSE_SOLICITED` (0) and `RESPONSE_SOLICITED_ACK_EXP` (3). -/
def populateResponseInfo (serial : ℤ) (responseType : ℤ) (e : ℤ) : RadioResponseInfo :=
  ⟨if responseType = 3 then .solicitedAckExp else .solicited, serial, e⟩

/-- `if (e == RIL_E_SUCCESS) responseInfo.error = RadioError::INVALID_RESPONSE;` -/
def RadioResponseInfo.invalidResponse (info : RadioResponseInfo) (e : ℤ) : RadioResponseInfo :=
  if e = rilESuccess then { info with error := radioErrorInvalidResponse } else info

/-- `RadioIndicationType` -/
inductive IndicationType where
  | unsolicited
  | unsolicitedAckExp
  deriving DecidableEq, Repr

/-- `convertIntToRadioIndicationType`; `RESPONSE_UNSOLICITED` is 1. -/
def convertIntToRadioIndicationType (indicationType : ℤ) : IndicationType :=
  if indicationType = 1 then .unsolicited else .unsolicitedAckExp

/-! ## Callbacks -/

/-- A call of the client, with the storage as it is when the client reads the result. -/
structure Callback (ι ρ β : Type*) where
  header : ι
  result : ρ
  store : Store β Text

end Radio
