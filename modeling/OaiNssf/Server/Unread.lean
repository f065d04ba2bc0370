import OaiNssf.Server.SameHandlers

/-!
# What no response depends on

The handlers look at a tracking area through its TAI, and at the availability data of an AMF
through the supported S-NSSAIs. The supported S-NSSAIs of a tracking area and the TAI of
availability data are never read: both servers respond as if they were not configured.

* `NssfConfig.readPart`: a configuration without these fields.
* `responses_from_read_part`: the runs of both servers.
-/

namespace OaiNssf

open Callback

/-! ## The part that is read -/

def SupportedNssaiAvailabilityData.readPart (data : SupportedNssaiAvailabilityData) :
    SupportedNssaiAvailabilityData := { data with tai := {} }

def TaInfo.readPart (item : TaInfo) : TaInfo := { item with supoortedSnssai := [] }

def AmfInfo.readPart (set : AmfInfo) : AmfInfo :=
  { set with
    amfList := set.amfList.map fun amf =>
      (amf.1, amf.2.map SupportedNssaiAvailabilityData.readPart) }

/-- The configuration without what nothing reads. -/
def NssfConfig.readPart (cfg : NssfConfig) : NssfConfig where
  nsiInfoList := cfg.nsiInfoList
  taInfoList := cfg.taInfoList.map TaInfo.readPart
  amfInfoList := cfg.amfInfoList.map AmfInfo.readPart

variable {C : Common}

/-! ## Selection -/

namespace SliceSelect

theorem anyValidAmf_readPart (req : List Snssai) (entries : List SupportedNssaiAvailabilityData) :
    anyValidAmf C req (entries.map SupportedNssaiAvailabilityData.readPart) =
      anyValidAmf C req entries := by
  induction entries with
  | nil => rfl
  | cons entry rest ih =>
    show (if getValidAmf C entry.supportedSnssaiList req then true
      else anyValidAmf C req (rest.map SupportedNssaiAvailabilityData.readPart)) = _
    rw [ih]
    rfl

theorem pushCandidates_readPart (req : List Snssai) (set : AmfInfo) (candidates : List String) :
    pushCandidates C req set.readPart.amfList candidates =
      pushCandidates C req set.amfList candidates := by
  unfold pushCandidates AmfInfo.readPart
  rw [List.foldl_map]
  simp only [anyValidAmf_readPart]

theorem amfSetLoop_readPart (req : List Snssai) (sets : List AmfInfo) (candidates : List String)
    (auth : AuthorizedNetworkSliceInfo) :
    amfSetLoop C req (sets.map AmfInfo.readPart) candidates auth =
      amfSetLoop C req sets candidates auth := by
  induction sets generalizing candidates with
  | nil => rfl
  | cons set rest ih =>
    rw [List.map_cons, amfSetLoop, amfSetLoop, pushCandidates_readPart, ih]
    rfl

theorem taLoop_readPart (tai : Tai) (items : List TaInfo) :
    taLoop tai (items.map TaInfo.readPart) = taLoop tai items := by
  induction items with
  | nil => rfl
  | cons item rest ih =>
    rw [List.map_cons, taLoop, taLoop, ih]
    rfl

theorem handleSliceInfoForRegistration_readPart (C : Common) (cfg : NssfConfig) :
    handleSliceInfoForRegistration C cfg.readPart = handleSliceInfoForRegistration C cfg := by
  have hta : ∀ tai, validateTa cfg.readPart tai = validateTa cfg tai :=
    fun tai => taLoop_readPart tai cfg.taInfoList
  have hamf : ∀ req auth, getValidAmfset C cfg.readPart req auth = getValidAmfset C cfg req auth :=
    fun req auth => amfSetLoop_readPart req cfg.amfInfoList [] auth
  funext si tai home features httpCode httpVersion auth
  simp only [handleSliceInfoForRegistration, hta, hamf]

theorem handleSliceInfoForPduSession_readPart (C : Common) (cfg : NssfConfig) :
    handleSliceInfoForPduSession C cfg.readPart = handleSliceInfoForPduSession C cfg := by
  have hta : ∀ tai, validateTa cfg.readPart tai = validateTa cfg tai :=
    fun tai => taLoop_readPart tai cfg.taInfoList
  funext si tai home features httpCode httpVersion auth
  unfold handleSliceInfoForPduSession
  rw [hta]
  rfl

end SliceSelect

/-! ## Availability -/

/-- A PUT looks for the name of a set only. -/
theorem putStatus_readPart (cfg : NssfConfig) (info : NssaiAvailabilityInfo) :
    putStatus cfg.readPart info = putStatus cfg info := by
  have hkey : ∀ set, SliceAvail.amfSets.HasKey cfg.readPart.amfInfoList set ↔
      SliceAvail.amfSets.HasKey cfg.amfInfoList set := by
    intro set
    constructor
    · rintro ⟨item, hitem, hname⟩
      obtain ⟨original, horiginal, rfl⟩ := List.mem_map.mp hitem
      exact ⟨original, horiginal, hname⟩
    · rintro ⟨item, hitem, hname⟩
      exact ⟨item.readPart, List.mem_map_of_mem hitem, hname⟩
  unfold putStatus
  simp only [hkey]

/-! ## Runs -/

theorem sameHandlers_readPart (C : Common) (cfg : NssfConfig) :
    SameHandlers C cfg.readPart cfg where
  registration := SliceSelect.handleSliceInfoForRegistration_readPart C cfg
  pduSession := SliceSelect.handleSliceInfoForPduSession_readPart C cfg
  put := funext (putStatus_readPart cfg)

theorem sameHandlers_of_readPart (C : Common) {cfg cfg' : NssfConfig}
    (h : cfg.readPart = cfg'.readPart) : SameHandlers C cfg cfg' := by
  have hcfg : SameHandlers C cfg cfg.readPart := (sameHandlers_readPart C cfg).symm
  rw [h] at hcfg
  exact hcfg.trans (sameHandlers_readPart C cfg')

/-- Both servers respond as if no tracking area had supported S-NSSAIs and no availability
    data a TAI: on any run, the responses are those for the configuration without them, and
    so are the exceptions that end the HTTP/2 server. -/
theorem responses_from_read_part {κ : Type} [DecidableEq κ] (C : Common) (K : Codec)
    (L : Http1.Libraries)
    (find : List (PathPattern.Pattern × Http1.Handler) → List String →
      Option (Http1.Handler × PathPattern.Params)) (P : Paths) (cfg : NssfConfig) :
    (∀ (requests : List (κ × Http1.RawRequest)) k,
      replies (ofSession k (Http1.serve C K L find P cfg requests).actions) =
        replies (ofSession k (Http1.serve C K L find P cfg.readPart requests).actions)) ∧
    ∀ (streams : κ → Http2.Stream) (calls : List (κ × List UInt8)),
      (Http2.serve C K streams cfg calls).escaped =
        (Http2.serve C K streams cfg.readPart calls).escaped ∧
      ∀ k, replies (ofSession k (Http2.serve C K streams cfg calls).actions) =
        replies (ofSession k (Http2.serve C K streams cfg.readPart calls).actions) :=
  (sameHandlers_readPart C cfg).symm.replies_eq K L find P

end OaiNssf
