import OaiNssf.Selection.Grant
import OaiNssf.Availability.Store
import OaiNssf.Model.App

/-!
# The status each handler ends with

The servers call a handler with `http_code` 0 and send what it leaves there.

* `RegistrationDecides.served_iff`, `PduSessionDecides.served_iff`: when a selection is
  granted, as one condition on the home PLMN, one on the TAI and one on the slices.
* `handlers_agree_iff`: when a handler ends with a final status that agrees with its
  result.
-/

namespace OaiNssf.SliceSelect

open Coverage

variable {C : Common} {cfg : NssfConfig} {tai : Tai} {home : PlmnId}

/-! ## Registration -/

section Registration

variable (C cfg) (si : SliceInfoForRegistration)

/-- No mapping is requested, some requested S-NSSAI is subscribed, and one AMF serves
    the requested list. -/
def RegistrationServed : Prop :=
  si.requestMappingIsSet = false ∧ si.mappingOfNssaiIsSet = false ∧
    ∃ req sub, si.requestedNssai = some req ∧ si.subscribedNssai = some sub ∧
      (∃ r ∈ req, Subscribed C sub r) ∧ ∃ set ∈ cfg.amfInfoList, HasServingAmf C req set

instance : Decidable (RegistrationServed C cfg si) :=
  decidable_of_iff
    (si.requestMappingIsSet = false ∧ si.mappingOfNssaiIsSet = false ∧
      ∃ req ∈ si.requestedNssai, ∃ sub ∈ si.subscribedNssai,
        (∃ r ∈ req, Subscribed C sub r) ∧ ∃ set ∈ cfg.amfInfoList, HasServingAmf C req set)
    (by simp only [RegistrationServed, Option.mem_def, exists_and_left])

/-- No mapping is requested and one of the two lists is missing: the handler returns
    `true` and leaves `http_code` as it was. -/
def RegistrationUnanswered : Prop :=
  si.requestMappingIsSet = false ∧ si.mappingOfNssaiIsSet = false ∧
    (si.requestedNssai = none ∨ si.subscribedNssai = none)

/-- A check fails that sets a status, or both lists are there to be checked. -/
def RegistrationDecided (tai : Tai) (home : PlmnId) : Prop :=
  ¬InScope si home ∨
    (TaAuthorised cfg tai ∧ si.requestedNssai.isSome ∧ si.subscribedNssai.isSome)

instance (tai : Tai) (home : PlmnId) : Decidable (RegistrationDecided cfg si tai home) :=
  inferInstanceAs (Decidable (_ ∨ _))

variable {C cfg si}

/-- The verdicts that leave `http_code` as it was. -/
def RegistrationVerdict.LeavesCode : RegistrationVerdict → Prop
  | .taNotAuthorised | .undecided => True
  | _ => False

theorem RegistrationDecides.decided_iff {v : RegistrationVerdict}
    (h : RegistrationDecides C cfg si tai home v) :
    RegistrationDecided cfg si tai home ↔ ¬v.LeavesCode := by
  cases h with
  | notSupported hscope => exact iff_of_true (Or.inl hscope) id
  | taNotAuthorised hscope hta =>
    refine iff_of_false ?_ (not_not_intro trivial)
    rintro (hnot | ⟨hta', -⟩)
    · exact hnot hscope
    · exact hta hta'
  | undecided hscope hta hnone =>
    refine iff_of_false ?_ (not_not_intro trivial)
    rintro (hnot | ⟨-, hreq, hsub⟩)
    · exact hnot hscope
    · rcases hnone with hnone | hnone
      · simp [hnone] at hreq
      · simp [hnone] at hsub
  | notInPlmn _ hta hreq hsub =>
    exact iff_of_true (Or.inr ⟨hta, by simp [hreq], by simp [hsub]⟩) id
  | noAmfSet _ hta hreq hsub =>
    exact iff_of_true (Or.inr ⟨hta, by simp [hreq], by simp [hsub]⟩) id
  | granted _ hta hreq hsub =>
    exact iff_of_true (Or.inr ⟨hta, by simp [hreq], by simp [hsub]⟩) id

/-- A registration is served, past the checks on the home PLMN and the TAI, when its
    verdict is `granted`. -/
theorem RegistrationDecides.served_iff {v : RegistrationVerdict}
    (h : RegistrationDecides C cfg si tai home v) :
    home.mcc = "" ∧ TaAuthorised cfg tai ∧ RegistrationServed C cfg si ↔
      ∃ allowed set candidates, v = .granted allowed set candidates := by
  cases h with
  | notSupported hscope =>
    refine iff_of_false ?_ (by simp)
    rintro ⟨hhome, -, h1, h2, -⟩
    exact hscope ⟨h1, h2, hhome⟩
  | taNotAuthorised _ hta => exact iff_of_false (fun h => hta h.2.1) (by simp)
  | undecided _ _ hnone =>
    refine iff_of_false ?_ (by simp)
    rintro ⟨-, -, -, -, req, sub, hreq, hsub, -⟩
    simp [hreq, hsub] at hnone
  | notInPlmn _ _ hreq hsub hmatch =>
    refine iff_of_false ?_ (by simp)
    rintro ⟨-, -, -, -, req', sub', hreq', hsub', ⟨r, hr, hsubscribed⟩, -⟩
    rw [hreq, Option.some.injEq] at hreq'
    rw [hsub, Option.some.injEq] at hsub'
    subst hreq' hsub'
    exact hmatch r hr hsubscribed
  | noAmfSet _ _ hreq _ _ hamf =>
    refine iff_of_false ?_ (by simp)
    rintro ⟨-, -, -, -, req', sub', hreq', -, -, set, hset, hserving⟩
    rw [hreq, Option.some.injEq] at hreq'
    subst hreq'
    exact hamf set hset hserving
  | granted hscope hta hreq hsub hmatch hamf =>
    refine iff_of_true ⟨hscope.noHomePlmn, hta, ?_⟩ ⟨_, _, _, rfl⟩
    exact ⟨hscope.noRequestMapping, hscope.noMappingOfNssai, _, _, hreq, hsub, hmatch, _,
      hamf.mem, hamf.holds⟩

/-- Past the checks on the home PLMN and the TAI, a request without a decision is one
    without both lists. -/
theorem not_decided_iff (hhome : home.mcc = "") (hta : TaAuthorised cfg tai) :
    ¬RegistrationDecided cfg si tai home ↔ RegistrationUnanswered si := by
  unfold RegistrationDecided RegistrationUnanswered
  constructor
  · intro h
    rw [not_or, not_not] at h
    obtain ⟨hscope, hlists⟩ := h
    refine ⟨hscope.noRequestMapping, hscope.noMappingOfNssai, ?_⟩
    by_contra hnone
    rw [not_or] at hnone
    exact hlists ⟨hta, Option.isSome_iff_ne_none.mpr hnone.1, Option.isSome_iff_ne_none.mpr hnone.2⟩
  · rintro ⟨h1, h2, hnone⟩ (hscope | ⟨-, hreq, hsub⟩)
    · exact hscope ⟨h1, h2, hhome⟩
    · rcases hnone with hnone | hnone
      · simp [hnone] at hreq
      · simp [hnone] at hsub

end Registration

/-! ## PDU session -/

section PduSession

variable (C cfg) (si : SliceInfoForPDUSession)

/-- The UE is not roaming and some network slice instance is configured for the
    requested S-NSSAI. -/
def PduSessionServed : Prop :=
  C.roamingIndicationValue si.roamingIndication = roamingIndNonRoaming ∧
    ∃ item ∈ cfg.nsiInfoList, Matches C si.sNssai item.snssai

instance : Decidable (PduSessionServed C cfg si) := inferInstanceAs (Decidable (_ ∧ _))

variable {C cfg si}

theorem PduSessionDecides.served_iff {v : PduSessionVerdict}
    (h : PduSessionDecides C cfg si tai home v) :
    home.mcc = "" ∧ TaAuthorised cfg tai ∧ PduSessionServed C cfg si ↔
      ∃ nsiInfo, v = .granted nsiInfo := by
  cases h with
  | notSupported hroam =>
    exact iff_of_false (fun h => hroam ⟨h.2.2.1, h.1⟩) (by simp)
  | taNotAuthorised _ hta => exact iff_of_false (fun h => hta h.2.1) (by simp)
  | noNsi _ _ hnsi =>
    refine iff_of_false ?_ (by simp)
    rintro ⟨-, -, -, item, hitem, hmatch⟩
    exact hnsi item hitem hmatch
  | granted hroam hta hnsi =>
    refine iff_of_true ⟨hroam.noHomePlmn, hta, hroam.indication, ?_⟩ ⟨_, rfl⟩
    exact ⟨_, hnsi.mem, hnsi.holds⟩

end PduSession

end OaiNssf.SliceSelect

namespace OaiNssf

open SliceSelect SliceAvail

/-! ## Every handler -/

/-- `http_code` is a final status that agrees with the result: 2xx under `true`, 4xx
    or 5xx under `false`. -/
def Agrees (result : Bool) (httpCode : ℤ) : Prop :=
  if result then 200 ≤ httpCode ∧ httpCode < 300 else 400 ≤ httpCode ∧ httpCode < 600

instance (result : Bool) (httpCode : ℤ) : Decidable (Agrees result httpCode) := by
  unfold Agrees
  infer_instance

theorem not_agrees_zero (result : Bool) : ¬Agrees result 0 := by
  cases result <;> decide

/-- A registration verdict has a status that agrees exactly when it does not leave the
    0 it was called with. -/
theorem registrationOutcome_agrees_iff (v : RegistrationVerdict)
    (auth : AuthorizedNetworkSliceInfo) :
    Agrees (v.outcome 0 auth).result (v.outcome 0 auth).httpCode ↔ ¬v.LeavesCode := by
  cases v with
  | taNotAuthorised => exact iff_of_false (not_agrees_zero false) (not_not_intro trivial)
  | undecided => exact iff_of_false (not_agrees_zero true) (not_not_intro trivial)
  | notSupported => exact iff_of_true (show Agrees false 503 by decide) id
  | notInPlmn => exact iff_of_true (show Agrees false 403 by decide) id
  | noAmfSet => exact iff_of_true (show Agrees false 403 by decide) id
  | granted => exact iff_of_true (show Agrees true 200 by decide) id

theorem pduSessionOutcome_agrees (v : PduSessionVerdict) (auth : AuthorizedNetworkSliceInfo) :
    Agrees (v.outcome auth).result (v.outcome auth).httpCode := by
  cases v with
  | notSupported => exact show Agrees false 503 by decide
  | badRequest => exact show Agrees false 400 by decide
  | granted => exact show Agrees true 200 by decide

/-- Called with `http_code` 0: the registration handler ends with a status that agrees
    with its result unless the TAI check fails or one of the two lists is missing; the
    PDU-session handler always does; the availability handler does unless the named
    set is the empty string. -/
theorem handlers_agree_iff (C : Common) (cfg : NssfConfig) (httpVersion : ℕ) :
    (∀ si tai home features auth,
      let r := SliceSelect.handleSliceInfoForRegistration C cfg si tai home features 0
        httpVersion auth
      Agrees r.result r.httpCode ↔ RegistrationDecided cfg si tai home) ∧
    (∀ si tai home features auth,
      let r := SliceSelect.handleSliceInfoForPduSession C cfg si tai home features 0
        httpVersion auth
      Agrees r.result r.httpCode) ∧
    (∀ nfId info,
      let r := SliceAvail.handleCreateNssaiAvailability cfg nfId info 0 httpVersion
      Agrees r.result r.httpCode ↔ info.amfSetId ≠ some "") := by
  refine ⟨?_, ?_, ?_⟩
  · intro si tai home features auth
    obtain ⟨v, hv⟩ := exists_registrationDecides C cfg si tai home
    rw [hv.handle_eq, hv.decided_iff]
    exact registrationOutcome_agrees_iff v auth
  · intro si tai home features auth
    obtain ⟨v, hv⟩ := exists_pduSessionDecides C cfg si tai home
    rw [hv.handle_eq]
    exact pduSessionOutcome_agrees v auth
  · intro nfId info
    rw [handleCreate_eq]
    cases info.amfSetId with
    | none => exact iff_of_true (show Agrees false 503 by decide) (by simp)
    | some set =>
      simp only [ne_eq, Option.some.injEq]
      split_ifs with hset hkey
      · exact iff_of_false (not_agrees_zero true) (not_not_intro hset)
      · exact iff_of_true (show Agrees true 204 by decide) hset
      · exact iff_of_true (show Agrees false 503 by decide) hset

/-- A registration with a TAC that is not configured: `false`, and `http_code` is
    still 0. -/
theorem unknown_tac_leaves_zero :
    let r := SliceSelect.handleSliceInfoForRegistration sampleCommon {} {} { tac := "1" } {} ""
      0 1 {}
    r.result = false ∧ r.httpCode = 0 ∧ ¬Agrees r.result r.httpCode := by
  decide

end OaiNssf
