/-
# SIM answers that are passed through (`responseIccIo`, `ril_service.cpp`)

`responseIccIo` is not told which command was answered.  It takes every string that looks like
a complete FCP template for one, also when it is the content of a record or an answer to an APDU.

* `iccIo_passesThrough_iff` : when the client is given the status words and the string of the
  vendor.
-/
import Ct07.Radio.FcpTemplate
import Ct07.Radio.IccIo

open ScopedStorage Radio.Fcp

namespace Radio.IccIo

/-- What the client is called with is what the vendor answered. -/
structure Unchanged (resp : RilSimIoResponse)
    (callback : Callback (Method × RadioResponseInfo) Result Block) : Prop where
  sw1 : callback.result.sw1 = resp.sw1
  sw2 : callback.result.sw2 = resp.sw2
  text : callback.result.simResponse.text = resp.simResponse.getD []
  valid : callback.result.simResponse.Valid callback.store

/-- The answer of the vendor is handed to the client, if there is one, and unchanged. -/
def PassesThrough (method : Method) (gate : Text) (malloc connected : Bool)
    (responseType serial e : ℤ) (resp : RilSimIoResponse) : Prop :=
  ∃ answer, handler method gate malloc connected responseType serial e (some resp) sizeofRecord
      = some answer ∧
    answer.isSome = connected ∧ ∀ callback ∈ answer, Unchanged resp callback

/-- What is handed to the client, given what `mtkFcpToLegacy` returned. -/
theorem handler_eq (method : Method) {gate : Text} {malloc : Bool} (responseType serial e : ℤ)
    {resp : RilSimIoResponse} {legacy : Option Text}
    (hlegacy : mtkFcpToLegacy gate malloc resp.simResponse = some legacy) :
    handler method gate malloc true responseType serial e (some resp) sizeofRecord =
      some (some ⟨(method, populateResponseInfo serial responseType e),
        ⟨resp.sw1, resp.sw2, answeredString resp legacy⟩, vendorStore (some resp)⟩) := by
  unfold handler
  rw [if_pos rfl, responseIccIo_eq gate malloc responseType serial e resp hlegacy rfl]
  rfl

/-- **Answers that pass through.**  The answer to a command, whichever it is, reaches the client
unchanged exactly when its string does not look like the template of a file, or nothing is
translated at all. -/
theorem iccIo_passesThrough_iff (method : Method) (gate : Text) (malloc connected : Bool)
    (responseType serial e : ℤ) (resp : RilSimIoResponse) :
    PassesThrough method gate malloc connected responseType serial e resp ↔
      ¬ (connected ∧ enabled gate ∧ malloc ∧ ∃ hex ∈ resp.simResponse, IsTemplate hex) := by
  obtain ⟨legacy, hlegacy⟩ := mtkFcpToLegacy_total gate malloc resp.simResponse
  rw [← mtkFcpToLegacy_some_iff gate malloc resp.simResponse]
  cases connected with
  | false => exact iff_of_true ⟨none, rfl, rfl, by simp⟩ (by simp)
  | true =>
      have hanswer := handler_eq method responseType serial e hlegacy
      cases legacy with
      | none =>
          apply iff_of_true
          · refine ⟨_, hanswer, rfl, ?_⟩
            rintro callback ⟨⟩
            refine ⟨rfl, rfl, convertCharPtrToHidlString_text _ _, ?_⟩
            exact (convertCharPtrToHidlString_valid _ _ _).2 fun s hs => hs
          · rintro ⟨-, text, htext⟩
            rw [hlegacy] at htext
            exact absurd htext (by simp)
      | some mtkLegacy =>
          apply iff_of_false
          · rintro ⟨answer, hanswer', -, hunchanged⟩
            rw [hanswer, Option.some.injEq] at hanswer'
            subst hanswer'
            have htext := (hunchanged _ rfl).text
            -- the string is there, since it was translated
            cases hstring : resp.simResponse with
            | none => rw [hstring, mtkFcpToLegacy] at hlegacy; split at hlegacy <;> simp at hlegacy
            | some hex =>
                rw [hstring] at hlegacy htext
                exact mtkFcpToLegacy_ne hlegacy htext
          · exact not_not.2 ⟨rfl, mtkLegacy, hlegacy⟩

/-- The answer to the reading of a binary file whose content looks like a template. -/
def templateContent : RilSimIoResponse :=
  ⟨0x90, 0, some "620C8202412183026F0780020009".toList⟩

/-- The content of a file is replaced when it looks like a template. -/
theorem templateContent_not_passesThrough :
    ¬ ∀ (method : Method) (gate : Text), enabled gate →
      ∀ (malloc connected : Bool) (responseType serial e : ℤ) (resp : RilSimIoResponse),
        PassesThrough method gate malloc connected responseType serial e resp := by
  intro hall
  obtain ⟨answer, hanswer, -, hunchanged⟩ :=
    hall .iccIOForAppResponse "1".toList (by decide) true true 0 1 0 templateContent
  have hlegacy : mtkFcpToLegacy "1".toList true templateContent.simResponse =
      some (some "000000096F07040000000001020000".toList) := by decide
  rw [handler_eq _ _ _ _ hlegacy, Option.some.injEq] at hanswer
  subst hanswer
  have htext := (hunchanged _ rfl).text
  exact absurd htext (by decide)

end Radio.IccIo
