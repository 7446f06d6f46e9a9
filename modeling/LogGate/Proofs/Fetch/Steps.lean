import LogGate.Fetch.Basic

/-!
# The steps of fetching

Fetching a document can go in four ways, and there is an equation for each of the three places where
it is decided which: the response does not arrive (`run_get_unanswered`), its body breaks off
(`run_get_brokenOff`), or all of it arrives and the status decides whether it is read
(`run_get_whole`). They say what is told on the way, too. That a status is without success is told
only of a response that has arrived whole.
-/

namespace LogGate.Fetch

/-- A status of success is one from 200 to 299. -/
theorem Status.isSuccess_iff {status : Status} :
    status.isSuccess = true ↔ 200 ≤ status ∧ status ≤ 299 := by
  simp [isSuccess]

section
variable {α : Type} (reader : Json.Reader α) (url : String) (told : List Diagnostic)

/-- If no response arrives, the request fails. -/
theorem run_get_unanswered (error : TransportError) :
    (get reader url (.error error)).run.run told =
      (.error (.request error), told ++ [asking url]) := rfl

/-- If the body breaks off, the request fails, whatever the status is. -/
theorem run_get_brokenOff (status : Status) (part : List UInt8) (error : TransportError) :
    (get reader url (.ok ⟨status, .brokenOff part error⟩)).run.run told =
      (.error (.request error), told ++ [asking url]) := rfl

/-- If all of the body arrives, it is read with a status of success, and shown without. -/
theorem run_get_whole (status : Status) (bytes : List UInt8) :
    (get reader url (.ok ⟨status, .whole bytes⟩)).run.run told =
      if 200 ≤ status ∧ status ≤ 299 then
        ((reader.decode (Utf8.decodeLossy bytes)).mapError .decode, told ++ [asking url])
      else
        (.error (.status status (Utf8.decodeLossy bytes)),
          told ++ [asking url] ++ [rejected url status]) := by
  -- behind the body, only the status and the reader are left to ask
  show (if status.isSuccess then _ else _ : Telling FetchError α).run.run (told ++ [asking url]) = _
  by_cases h : 200 ≤ status ∧ status ≤ 299
  · rw [if_pos (Status.isSuccess_iff.mpr h), if_pos h]
    cases reader.decode (Utf8.decodeLossy bytes) <;> rfl
  · rw [if_neg (mt Status.isSuccess_iff.mp h), if_neg h]
    rfl

end

end LogGate.Fetch
