import LogGate.Proofs.Fetch.Steps
import LogGate.Proofs.Text.Pieces

/-!
# What an exchange comes to

A document is fetched in three steps, and the first that fails decides: all of the response has to
arrive, its status has to tell of success, and its body has to be the document that is expected. The
status arrives before the body, and still a body that breaks off is a failed request, whatever the
status has been. `Comes` has one rule for each way to end, and an exchange comes to exactly one
result (`result_eq_iff`). So for each kind of result it can be said in which cases it comes about
(`Verdict`), and `classification_law` does so for every reader of documents. The first two steps do
not look at the document. Whether a request fails, and whether it is answered with an error of which
status and text, does not depend on what is expected.
-/

namespace LogGate.Fetch

/-- How bytes are shown as a text: characters as they are, and broken parts as U+FFFD. -/
def Shows (bytes : List UInt8) (text : String) : Prop :=
  ∃ ps, Utf8.Pieces bytes ps ∧ text = String.ofList (ps.map (·.getD '\uFFFD'))

/-- An exchange breaks down with an error, before a response has arrived or within its body. -/
inductive BreaksDown : Exchange → TransportError → Prop where
  | unanswered {error : TransportError} : BreaksDown (.error error) error
  /-- It does not matter which status has arrived, and what part of the body. -/
  | brokenOff {status : Status} {part : List UInt8} {error : TransportError} :
    BreaksDown (.ok ⟨status, .brokenOff part error⟩) error

section
variable {α : Type}

/-- What an exchange comes to, for a reader of documents. -/
def result (reader : Json.Reader α) (url : String) (exchange : Exchange) : Except FetchError α :=
  (get reader url exchange).finish.1

/-- What is told of it. -/
def told (reader : Json.Reader α) (url : String) (exchange : Exchange) : List Diagnostic :=
  (get reader url exchange).finish.2

/-- How an exchange ends. -/
inductive Comes (reader : Json.Reader α) : Exchange → Except FetchError α → Prop where
  | request {exchange : Exchange} {error : TransportError} (h : BreaksDown exchange error) :
    Comes reader exchange (.error (.request error))
  /-- Without success, it does not matter what the body is. -/
  | status {status : Status} {body : List UInt8} {text : String}
    (hfailure : ¬(200 ≤ status ∧ status ≤ 299)) (hshows : Shows body text) :
    Comes reader (.ok ⟨status, .whole body⟩) (.error (.status status text))
  | ok {status : Status} {body : List UInt8} {text : String} {a : α}
    (hsuccess : 200 ≤ status ∧ status ≤ 299) (hshows : Shows body text)
    (hread : reader.decode text = .ok a) : Comes reader (.ok ⟨status, .whole body⟩) (.ok a)
  | decode {status : Status} {body : List UInt8} {text : String} {e : Json.Error}
    (hsuccess : 200 ≤ status ∧ status ≤ 299) (hshows : Shows body text)
    (hread : reader.decode text = .error e) :
    Comes reader (.ok ⟨status, .whole body⟩) (.error (.decode e))

/-- In which cases an exchange comes to which result. -/
structure Verdict (reader : Json.Reader α) (url : String) (exchange : Exchange) : Prop where
  /-- A request fails if and only if not all of a response arrives. -/
  incomplete_iff : (∃ error, result reader url exchange = .error (.request error)) ↔
    ∀ status body, exchange ≠ .ok ⟨status, .whole body⟩
  /-- Its error is that of the transport, also where a status has arrived. -/
  request_iff : ∀ error, result reader url exchange = .error (.request error) ↔
    BreaksDown exchange error
  /-- A whole response without success is an error that shows its status and its body, also where
  the body is the document that is expected. -/
  status_iff : ∀ status text, result reader url exchange = .error (.status status text) ↔
    ∃ body, exchange = .ok ⟨status, .whole body⟩ ∧ ¬(200 ≤ status ∧ status ≤ 299) ∧
      Shows body text
  /-- A value is what the whole body of a response of success says. -/
  ok_iff : ∀ a, result reader url exchange = .ok a ↔
    ∃ status body text, exchange = .ok ⟨status, .whole body⟩ ∧ (200 ≤ status ∧ status ≤ 299) ∧
      Shows body text ∧ reader.decode text = .ok a
  /-- If the body of such a response is not the document, the error is what is wrong with it. -/
  decode_iff : ∀ e, result reader url exchange = .error (.decode e) ↔
    ∃ status body text, exchange = .ok ⟨status, .whole body⟩ ∧ (200 ≤ status ∧ status ≤ 299) ∧
      Shows body text ∧ reader.decode text = .error e
  /-- For any other document, the request fails in the same cases. -/
  request_alike : ∀ {β : Type} (other : Json.Reader β) error,
    result other url exchange = .error (.request error) ↔
      result reader url exchange = .error (.request error)
  /-- And in the same cases it is answered with an error of the same status and text. -/
  status_alike : ∀ {β : Type} (other : Json.Reader β) status text,
    result other url exchange = .error (.status status text) ↔
      result reader url exchange = .error (.status status text)
  /-- A status is told of in these cases, and in no others. -/
  told_rejected : ∀ status text, result reader url exchange = .error (.status status text) →
    told reader url exchange = [asking url, rejected url status]
  told_asking : (∀ status text, result reader url exchange ≠ .error (.status status text)) →
    told reader url exchange = [asking url]

variable {reader : Json.Reader α} {url : String} {exchange : Exchange} {error : TransportError}
variable {status : Status} {body : List UInt8} {text : String} {r : Except FetchError α}

/-! ## Steps -/

/-- Every row of bytes is shown as one text. -/
theorem shows_iff : Shows body text ↔ text = Utf8.decodeLossy body := by
  refine ⟨?_, fun h => ⟨_, Utf8.pieces_pieces body, h⟩⟩
  rintro ⟨ps, hpieces, rfl⟩
  exact (Utf8.decodeLossy_of_pieces hpieces).symm

/-- An exchange that breaks down is a failed request. -/
theorem finish_of_breaksDown (h : BreaksDown exchange error) (reader : Json.Reader α)
    (url : String) : (get reader url exchange).finish = (.error (.request error), [asking url]) := by
  cases h with
  | unanswered => exact run_get_unanswered reader url [] error
  | brokenOff => exact run_get_brokenOff reader url [] _ _ error

/-- A whole response without success is an error. -/
theorem finish_of_not_success (h : ¬(200 ≤ status ∧ status ≤ 299)) (reader : Json.Reader α)
    (url : String) (body : List UInt8) :
    (get reader url (.ok ⟨status, .whole body⟩)).finish =
      (.error (.status status (Utf8.decodeLossy body)), [asking url, rejected url status]) := by
  rw [Telling.finish, run_get_whole, if_neg h]
  rfl

/-- The body of a whole response of success is read. -/
theorem finish_of_success (h : 200 ≤ status ∧ status ≤ 299) (reader : Json.Reader α)
    (url : String) (body : List UInt8) :
    (get reader url (.ok ⟨status, .whole body⟩)).finish =
      ((reader.decode (Utf8.decodeLossy body)).mapError .decode, [asking url]) := by
  rw [Telling.finish, run_get_whole, if_pos h]
  rfl

/-! ## Results -/

/-- An exchange ends with its result. -/
theorem comes_result (reader : Json.Reader α) (url : String) (exchange : Exchange) :
    Comes reader exchange (result reader url exchange) := by
  match exchange with
  | .error error => exact .request .unanswered
  | .ok ⟨status, .brokenOff part error⟩ => exact .request .brokenOff
  | .ok ⟨status, .whole body⟩ =>
    by_cases h : 200 ≤ status ∧ status ≤ 299
    · rw [result, finish_of_success h]
      cases hread : reader.decode (Utf8.decodeLossy body) with
      | ok a => exact .ok h (shows_iff.mpr rfl) hread
      | error e => exact .decode h (shows_iff.mpr rfl) hread
    · rw [result, finish_of_not_success h]
      exact .status h (shows_iff.mpr rfl)

/-- And with nothing else. -/
theorem Comes.result_eq (h : Comes reader exchange r) (url : String) :
    result reader url exchange = r := by
  cases h with
  | request h => rw [result, finish_of_breaksDown h]
  | status hfailure hshows => rw [result, finish_of_not_success hfailure, shows_iff.mp hshows]
  | ok hsuccess hshows hread | decode hsuccess hshows hread =>
    rw [result, finish_of_success hsuccess, ← shows_iff.mp hshows, hread]
    rfl

/-- So a result tells how an exchange has ended. -/
theorem result_eq_iff : result reader url exchange = r ↔ Comes reader exchange r :=
  ⟨fun h => h ▸ comes_result reader url exchange, fun h => h.result_eq url⟩

/-- A failed request is an exchange that breaks down. -/
theorem result_eq_request_iff :
    result reader url exchange = .error (.request error) ↔ BreaksDown exchange error := by
  rw [result_eq_iff]
  constructor
  · rintro ⟨h⟩
    exact h
  · exact .request

/-- An error with a status is a whole response without success. -/
theorem result_eq_status_iff : result reader url exchange = .error (.status status text) ↔
    ∃ body, exchange = .ok ⟨status, .whole body⟩ ∧ ¬(200 ≤ status ∧ status ≤ 299) ∧
      Shows body text := by
  rw [result_eq_iff]
  constructor
  · rintro (_ | ⟨hfailure, hshows⟩)
    exact ⟨_, rfl, hfailure, hshows⟩
  · rintro ⟨body, rfl, hfailure, hshows⟩
    exact .status hfailure hshows

/-- An exchange breaks down just if it does not deliver a whole response. -/
theorem exists_breaksDown_iff : (∃ error, BreaksDown exchange error) ↔
    ∀ status body, exchange ≠ .ok ⟨status, .whole body⟩ := by
  constructor
  · rintro ⟨error, _ | _⟩ <;> exact nofun
  · intro h
    match exchange with
    | .error error => exact ⟨error, .unanswered⟩
    | .ok ⟨_, .brokenOff _ error⟩ => exact ⟨error, .brokenOff⟩
    | .ok ⟨status, .whole body⟩ => exact absurd rfl (h status body)

/-! ## The law -/

/-- **What an exchange comes to.** For every reader of documents and however far a response gets,
the arrival of the whole response, its status and its body decide on the result, in this order. -/
theorem classification_law (reader : Json.Reader α) (url : String) (exchange : Exchange) :
    Verdict reader url exchange where
  incomplete_iff := (exists_congr fun _ => result_eq_request_iff).trans exists_breaksDown_iff
  request_iff _ := result_eq_request_iff
  status_iff _ _ := result_eq_status_iff
  ok_iff a := by
    rw [result_eq_iff]
    constructor
    · rintro (_ | _ | ⟨hsuccess, hshows, hread⟩)
      exact ⟨_, _, _, rfl, hsuccess, hshows, hread⟩
    · rintro ⟨status, body, text, rfl, hsuccess, hshows, hread⟩
      exact .ok hsuccess hshows hread
  decode_iff e := by
    rw [result_eq_iff]
    constructor
    · rintro (_ | _ | _ | ⟨hsuccess, hshows, hread⟩)
      exact ⟨_, _, _, rfl, hsuccess, hshows, hread⟩
    · rintro ⟨status, body, text, rfl, hsuccess, hshows, hread⟩
      exact .decode hsuccess hshows hread
  request_alike _ _ := result_eq_request_iff.trans result_eq_request_iff.symm
  status_alike _ _ _ := result_eq_status_iff.trans result_eq_status_iff.symm
  told_rejected status text h := by
    obtain ⟨body, rfl, hfailure, -⟩ := result_eq_status_iff.mp h
    rw [told, finish_of_not_success hfailure]
  told_asking h := by
    have hcomes := comes_result reader url exchange
    generalize result reader url exchange = r at h hcomes
    cases hcomes with
    | request hdown => rw [told, finish_of_breaksDown hdown]
    | status => exact absurd rfl (h _ _)
    | ok hsuccess | decode hsuccess => rw [told, finish_of_success hsuccess]

end

end LogGate.Fetch
