import NotionProject.Proofs.Turn

/-!
# How answers are classified

An answer is a value, an answer that makes no sense, or an error that the server reports.
`Answer.Explains` says, outcome by outcome, what an answer has to be for it; the verdict on an
answer is explained by the answer (`Answer.explains_verdict`), and the conditions exclude each
other, so each holds exactly if the outcome is the one it is a condition for
(`Answer.read_isClassified`).

The code of an error is shown as the server has named it (`ErrorCode.text_ofText`), and only one of
the names means that the object does not exist (`ErrorCode.isNotFound_ofText_iff`). How a
description of an error is read is not looked into.
-/

namespace NotionProject

variable {α : Type}

namespace ErrorCode

theorem mem_known_of_lookup {code : String} {known' : ErrorCode}
    (h : known.lookup code = some known') : (code, known') ∈ known := by
  obtain ⟨before, after, hsplit, -⟩ := List.lookup_eq_some_iff.1 h
  rw [hsplit]
  exact List.mem_append_right _ (List.mem_cons_self ..)

/-- A code is shown as the server has named it, be it known or not. -/
theorem text_ofText (code : String) : (ofText code).text = code := by
  unfold ofText
  cases h : known.lookup code with
  | none => rfl
  | some found =>
    have htext : ∀ entry ∈ known, entry.2.text = entry.1 := by decide
    exact htext _ (mem_known_of_lookup h)

/-- One name only means that the object does not exist. A code that is not known never does, even
if it is named like the code for a status. -/
theorem isNotFound_ofText_iff {code : String} :
    (ofText code).isNotFound = true ↔ code = "object_not_found" := by
  constructor
  · unfold ofText
    cases h : known.lookup code with
    | none => simp [isNotFound]
    | some found =>
      have hname : ∀ entry ∈ known, entry.2.isNotFound = true → entry.1 = "object_not_found" := by
        decide
      exact hname _ (mem_known_of_lookup h)
  · rintro rfl
    decide

end ErrorCode

namespace Answer

/-- The status is one of success. -/
def Succeeded (answer : Answer) : Prop :=
  200 ≤ answer.status ∧ answer.status ≤ 299

/-- The text describes an error. -/
def Describes (answer : Answer) (body : ErrorBody) : Prop :=
  Decoder.ofText ErrorBody.decode answer.body = .ok body

theorem isSuccess_iff (answer : Answer) : answer.isSuccess = true ↔ answer.Succeeded := by
  simp [isSuccess, Succeeded]

/-- A text describes one error at most. -/
theorem Describes.unique {answer : Answer} {body other : ErrorBody} (h : answer.Describes body)
    (h' : answer.Describes other) : body = other :=
  Except.ok.inj (h.symm.trans h')

/-- The beginning of a text that is quoted: five hundred characters, or all if there are fewer. -/
theorem exists_preview_append (body : String) :
    ∃ rest, body = preview body ++ rest ∧ (preview body).length = min 500 body.length := by
  refine ⟨String.ofList (body.toList.drop previewLength), ?_, ?_⟩
  · rw [preview, ← String.ofList_append, List.take_append_drop, String.ofList_toList]
  · rw [preview, String.length_ofList, List.length_take, String.length_toList, previewLength]

/-! ## Outcomes -/

/-- The error is the one that the text describes, with the status of the answer. -/
structure IsDescribed (answer : Answer) (body : ErrorBody) (error : ApiError) : Prop where
  status_eq : error.status = answer.status
  text_code : error.code.text = body.code
  isNotFound_iff : error.code.isNotFound = true ↔ body.code = "object_not_found"
  message_eq : error.message = body.message
  requestId_eq : error.requestId = body.requestId

/-- The error is known by the status of the answer alone, and quotes the beginning of its text. -/
structure IsPlain (answer : Answer) (error : ApiError) : Prop where
  status_eq : error.status = answer.status
  code_eq : error.code = .httpStatus answer.status
  requestId_eq : error.requestId = none
  message_eq : ∃ shown rest, answer.body = shown ++ rest ∧
    shown.length = min 500 answer.body.length ∧
    error.message = "HTTP " ++ statusText answer.status ++ " from " ++ answer.url ++ ": " ++ shown

theorem isDescribed_describedError (answer : Answer) (body : ErrorBody) :
    answer.IsDescribed body (answer.describedError body) where
  status_eq := rfl
  text_code := ErrorCode.text_ofText body.code
  isNotFound_iff := ErrorCode.isNotFound_ofText_iff
  message_eq := rfl
  requestId_eq := rfl

theorem isPlain_plainError (answer : Answer) : answer.IsPlain answer.plainError where
  status_eq := rfl
  code_eq := rfl
  requestId_eq := rfl
  message_eq := by
    obtain ⟨rest, hbody, hlength⟩ := exists_preview_append answer.body
    exact ⟨preview answer.body, rest, hbody, hlength, rfl⟩

/-- The error is what the server reports with an answer: what the text describes, if it describes an
error, and else what is known by the status. -/
def Reports (answer : Answer) (error : ApiError) : Prop :=
  (∃ body, answer.Describes body ∧ answer.IsDescribed body error) ∨
    (∀ body, ¬answer.Describes body) ∧ answer.IsPlain error

/-- What an answer is if an outcome comes of it. No other failure than the two comes of an
answer. -/
def Explains (decode : Decoder α) (answer : Answer) : Except Failure α → Prop
  | .ok value => answer.Succeeded ∧ Decoder.ofText decode answer.body = .ok value
  | .error (.malformed _) =>
    answer.Succeeded ∧ ∀ value, Decoder.ofText decode answer.body ≠ .ok value
  | .error (.api error) => ¬answer.Succeeded ∧ answer.Reports error
  | .error _ => False

theorem explains_verdict (decode : Decoder α) (answer : Answer) :
    answer.Explains decode (answer.verdict decode) := by
  unfold verdict
  split
  next hs =>
    have hsucceeded := answer.isSuccess_iff.1 hs
    cases hd : Decoder.ofText decode answer.body with
    | ok value => exact ⟨hsucceeded, hd⟩
    | error error => exact ⟨hsucceeded, by simp [hd]⟩
  next hs =>
    have hfailed : ¬answer.Succeeded := fun h => hs (answer.isSuccess_iff.2 h)
    cases hd : Decoder.ofText ErrorBody.decode answer.body with
    | ok body => exact ⟨hfailed, Or.inl ⟨body, hd, answer.isDescribed_describedError body⟩⟩
    | error error => exact ⟨hfailed, Or.inr ⟨by simp [Describes, hd], answer.isPlain_plainError⟩⟩

/-! ## Classification -/

section Reports

variable {answer : Answer} {error : ApiError}

theorem Reports.isDescribed (h : answer.Reports error) {body : ErrorBody}
    (hbody : answer.Describes body) : answer.IsDescribed body error := by
  obtain ⟨other, hother, hdescribed⟩ | ⟨hnone, -⟩ := h
  · rwa [hbody.unique hother]
  · exact absurd hbody (hnone body)

theorem Reports.isPlain (h : answer.Reports error) (hnone : ∀ body, ¬answer.Describes body) :
    answer.IsPlain error := by
  obtain ⟨other, hother, -⟩ | ⟨-, hplain⟩ := h
  · exact absurd hother (hnone other)
  · exact hplain

/-- Where an error is described, its code alone tells that the object does not exist, and else the
status alone does. -/
theorem Reports.isNotFound_iff (h : answer.Reports error) : error.code.isNotFound = true ↔
    (∃ body, answer.Describes body ∧ body.code = "object_not_found") ∨
      (∀ body, ¬answer.Describes body) ∧ answer.status = 404 := by
  by_cases hdescribes : ∃ body, answer.Describes body
  · obtain ⟨body, hbody⟩ := hdescribes
    rw [(h.isDescribed hbody).isNotFound_iff]
    constructor
    · exact fun hcode => Or.inl ⟨body, hbody, hcode⟩
    · rintro (⟨other, hother, hcode⟩ | ⟨hnone, -⟩)
      · rwa [hbody.unique hother]
      · exact absurd hbody (hnone body)
  · have hnone := not_exists.1 hdescribes
    rw [(h.isPlain hnone).code_eq, ErrorCode.isNotFound, beq_iff_eq]
    constructor
    · exact fun hstatus => Or.inr ⟨hnone, hstatus⟩
    · rintro (⟨body, hbody, -⟩ | ⟨-, hstatus⟩)
      · exact absurd hbody (hnone body)
      · exact hstatus

end Reports

/-- Every outcome comes of the answers that it is meant for, and of no others. -/
structure IsClassified (decode : Decoder α) (answer : Answer) (outcome : Except Failure α) :
    Prop where
  ok_iff : ∀ value, outcome = .ok value ↔
    answer.Succeeded ∧ Decoder.ofText decode answer.body = .ok value
  malformed_iff : (∃ detail, outcome = .error (.malformed detail)) ↔
    answer.Succeeded ∧ ∀ value, Decoder.ofText decode answer.body ≠ .ok value
  api_iff : (∃ error, outcome = .error (.api error)) ↔ ¬answer.Succeeded
  described : ∀ error body, outcome = .error (.api error) → answer.Describes body →
    answer.IsDescribed body error
  plain : ∀ error, outcome = .error (.api error) → (∀ body, ¬answer.Describes body) →
    answer.IsPlain error
  isNotFound_iff : (∃ failure, outcome = .error failure ∧ failure.isNotFound = true) ↔
    ¬answer.Succeeded ∧ ((∃ body, answer.Describes body ∧ body.code = "object_not_found") ∨
      (∀ body, ¬answer.Describes body) ∧ answer.status = 404)

/-- An outcome that the answer explains is the one that the answer is classified as. -/
theorem Explains.isClassified {decode : Decoder α} {answer : Answer} {outcome : Except Failure α}
    (h : answer.Explains decode outcome) : answer.IsClassified decode outcome := by
  cases outcome with
  | ok value =>
    obtain ⟨hs, hd⟩ := h
    exact
      { ok_iff := fun other => by simp [hs, hd]
        malformed_iff := iff_of_false (by simp) fun hn => hn.2 value hd
        api_iff := iff_of_false (by simp) fun hn => hn hs
        described := by simp
        plain := by simp
        isNotFound_iff := iff_of_false (by simp) fun hn => hn.1 hs }
  | error failure =>
    cases failure with
    | malformed detail =>
      obtain ⟨hs, hd⟩ := h
      exact
        { ok_iff := fun value => iff_of_false (by simp) fun hv => hd value hv.2
          malformed_iff := iff_of_true ⟨detail, rfl⟩ ⟨hs, hd⟩
          api_iff := iff_of_false (by simp) fun hn => hn hs
          described := by simp
          plain := by simp
          isNotFound_iff := iff_of_false (by simp [Failure.isNotFound]) fun hn => hn.1 hs }
    | api error =>
      obtain ⟨hf, hreports⟩ := h
      exact
        { ok_iff := fun value => iff_of_false (by simp) fun hv => hf hv.1
          malformed_iff := iff_of_false (by simp) fun hv => hf hv.1
          api_iff := iff_of_true ⟨error, rfl⟩ hf
          described := by
            rintro _ body ⟨⟩ hbody
            exact hreports.isDescribed hbody
          plain := by
            rintro _ ⟨⟩ hnone
            exact hreports.isPlain hnone
          isNotFound_iff := by simpa [Failure.isNotFound, hf] using hreports.isNotFound_iff }
    | _ => exact h.elim

/-- Whatever an answer is, and as whatever type it is read: it comes to a value exactly if its
status is one of success and its text reads as that value, it makes no sense exactly if only the
first is so, and it is an error that the server reports exactly if its status is none of success.
Such an error has the status of the answer, and says what the text describes or else what the status
means; and it means that the object does not exist exactly if the text says so by its code, or if
the text describes nothing and the status is 404. -/
theorem read_isClassified (decode : Decoder α) (answer : Answer) (server : Server) :
    answer.IsClassified decode ((answer.read decode).run server).outcome := by
  rw [(answer.comesTo_read decode server).outcome_eq]
  exact (answer.explains_verdict decode).isClassified

end Answer

end NotionProject
