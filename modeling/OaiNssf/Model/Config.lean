import OaiNssf.Lib.Throwing
import OaiNssf.Model.Types

/-!
# Model of the slice configuration loader

The parsers of `nssf_config.cpp` (lines 44–215). The document is read through
yaml-cpp, whose operations are the fields of a `Yaml`; all its exceptions derive from
`std::exception`.

The body of a `try` block is an `Except`. A loop that pushes to a vector is a
`Throwing.pushEach`: it keeps what was pushed before an exception, and the `catch` of
a parser turns the exception into `false`. Temporaries declared in a loop are fresh in
each round. Log lines, locks and `shrink_to_fit` are left out.
-/

namespace OaiNssf

open Throwing

/-- A `std::exception`, with what it says. -/
structure StdException where
  what : String
  deriving DecidableEq, Repr

/-- What `nssf_config.cpp` uses of yaml-cpp, on the nodes of a document. -/
structure Yaml (Node : Type) where
  /-- `node[key]` on a constant node. -/
  get : Node → String → Except StdException Node
  /-- `node[key]` on a node that is not constant, which adds a missing key with an
      undefined value. -/
  getOrInsert : Node → String → Except StdException Node
  /-- The conversion of a node to `bool`: whether it is defined. -/
  isDefined : Node → Bool
  /-- The nodes from `begin()` to `end()`. -/
  children : Node → List Node
  /-- `as<std::string>()`. -/
  asString : Node → Except StdException String
  /-- `as<int32_t>()`. -/
  asInt32 : Node → Except StdException ℤ

/-- What `YAML::LoadFile` throws: `YAML::BadFile`, or another exception. -/
inductive LoadException where
  | badFile (what : String)
  | other (e : StdException)
  deriving DecidableEq, Repr

namespace Config

variable {Node : Type} (Y : Yaml Node)

/-- What the `catch` of a parser makes of its `try` block: the returned `bool`. -/
def caught {α : Type} : Except StdException α → Bool
  | .ok _ => true
  | .error _ => false

/-- `node[key].as<std::string>()`. -/
def stringAt (node : Node) (key : String) : Except StdException String := do
  Y.asString (← Y.get node key)

/-- `node[key].as<int32_t>()`. -/
def int32At (node : Node) (key : String) : Except StdException ℤ := do
  Y.asInt32 (← Y.get node key)

/-- `if (node[key]) set(node[key].as<std::string>());` on an optional field. -/
def optionalStringAt (node : Node) (key : String) : Except StdException (Option String) := do
  if Y.isDefined (← Y.get node key) then return some (← stringAt Y node key) else return none

/-! ## Network slice instances -/

/-- One round of the loop of `parse_nsi_info` (lines 48–67). -/
def nsiEntry (nsiInfo : Node) : Except StdException NsiInfo := do
  let nrfId ← stringAt Y (← Y.get nsiInfo "nsiInformationList") "nrfId"
  let nsiId ← optionalStringAt Y (← Y.get nsiInfo "nsiInformationList") "nsiId"
  let nrfNfMgtUri ← optionalStringAt Y (← Y.get nsiInfo "nsiInformationList") "nrfNfMgtUri"
  let sst ← int32At Y (← Y.get nsiInfo "snssai") "sst"
  let sd ← optionalStringAt Y (← Y.get nsiInfo "snssai") "sd"
  return {
    snssai := { sst := sst, sd := sd }
    nsiInfo := { nrfId := nrfId, nsiId := nsiId, nrfNfMgtUri := nrfNfMgtUri } }

/-- `parse_nsi_info` (lines 44–75). -/
def parseNsiInfo (conf : Node) (nsiInfoList : List NsiInfo) : Bool × List NsiInfo :=
  let (exit, nsiInfoList) := pushEach (nsiEntry Y) (Y.children conf) nsiInfoList
  (caught exit, nsiInfoList)

/-! ## Tracking areas -/

/-- One round of the loop of `parse_ta_info` (lines 82–93). The comment before the
    `push_back` announces the supported S-NSSAI list; nothing reads it. -/
def taEntry (taInfo : Node) : Except StdException TaInfo := do
  let mcc ← stringAt Y (← Y.get (← Y.get taInfo "tai") "plmnId") "mcc"
  let mnc ← stringAt Y (← Y.get (← Y.get taInfo "tai") "plmnId") "mnc"
  let tac ← stringAt Y (← Y.get taInfo "tai") "tac"
  return { tai := { plmnId := { mcc := mcc, mnc := mnc }, tac := tac } }

/-- `parse_ta_info` (lines 78–101). -/
def parseTaInfo (conf : Node) (taInfoList : List TaInfo) : Bool × List TaInfo :=
  let (exit, taInfoList) := pushEach (taEntry Y) (Y.children conf) taInfoList
  (caught exit, taInfoList)

/-! ## AMF sets -/

/-- The TAI that `parse_nssai` reads (lines 113–116). The MCC is set twice, the MNC
    never. -/
def nssaiTai (conf : Node) : Except StdException Tai := do
  let tac ← stringAt Y (← Y.get conf "tai") "tac"
  let plmnId : PlmnId := {}
  let mcc ← stringAt Y (← Y.get (← Y.get conf "tai") "plmnId") "mcc"
  let plmnId := { plmnId with mcc := mcc }
  let mcc ← stringAt Y (← Y.get (← Y.get conf "tai") "plmnId") "mcc"
  let plmnId := { plmnId with mcc := mcc }
  return { plmnId := plmnId, tac := tac }

/-- One round of the loop of `parse_nssai` (lines 122–126). -/
def extSnssaiEntry (snssai : Node) : Except StdException ExtSnssai := do
  let sst ← int32At Y snssai "sst"
  let sd ← optionalStringAt Y snssai "sd"
  return { sst := sst, sd := sd }

/-- The local `snssai_list` of `parse_nssai` at the end of its loop (lines 120–127). -/
def supportedSnssaiList (conf : Node) : Except StdException (List ExtSnssai) := do
  let slices ← Y.get conf "supportedSnssaiList"
  let (exit, snssaiList) := pushEach (extSnssaiEntry Y) (Y.children slices) []
  exit
  return snssaiList

/-- `parse_nssai` (lines 104–135). The TAI is stored before the slices are read, the
    list of slices after all of them. -/
def parseNssai (conf : Node) (nssaiData : SupportedNssaiAvailabilityData) :
    Bool × SupportedNssaiAvailabilityData :=
  match nssaiTai Y conf with
  | .error _ => (false, nssaiData)
  | .ok tai =>
    let nssaiData := { nssaiData with tai := tai }
    match supportedSnssaiList Y conf with
    | .error _ => (false, nssaiData)
    | .ok snssaiList => (true, { nssaiData with supportedSnssaiList := snssaiList })

/-- One round of the loop of `parse_amf_list` (lines 141–148). The `bool` that
    `parse_nssai` returns is dropped. -/
def amfEntry (amf : Node) : Except StdException (String × List SupportedNssaiAvailabilityData) := do
  let (_, nssaiData) := parseNssai Y (← Y.get amf "supportedNssaiAvailabilityData") {}
  let nfId ← stringAt Y amf "nfId"
  return (nfId, [nssaiData])

/-- `parse_amf_list` (lines 137–155). -/
def parseAmfList (conf : Node) (amfInfo : AmfInfo) : Bool × AmfInfo :=
  let (exit, amfList) := pushEach (amfEntry Y) (Y.children conf) amfInfo.amfList
  (caught exit, { amfInfo with amfList := amfList })

/-- One round of the loop of `parse_amf_info` (lines 162–170). -/
def amfSetEntry (amfInfo : Node) : Except StdException AmfInfo := do
  let targetAmfSet ← stringAt Y amfInfo "targetAmfSet"
  let nrfAmfSet ← stringAt Y amfInfo "nrfAmfSet"
  let nrfAmfSetMgt ← stringAt Y amfInfo "nrfAmfSetNfMgtUri"
  let (parsed, info) := parseAmfList Y (← Y.get amfInfo "amfList")
    { targetAmfSet := targetAmfSet, nrfAmfSet := nrfAmfSet, nrfAmfSetMgt := nrfAmfSetMgt }
  if !parsed then .error ⟨"std::exception"⟩
  else return info

/-- `parse_amf_info` (lines 158–177). -/
def parseAmfInfo (conf : Node) (amfInfoList : List AmfInfo) : Bool × List AmfInfo :=
  let (exit, amfInfoList) := pushEach (amfSetEntry Y) (Y.children conf) amfInfoList
  (caught exit, amfInfoList)

/-! ## The document -/

/-- `config["configuration"][name]`. -/
def configSection (config : Node) (name : String) : Except StdException Node := do
  Y.getOrInsert (← Y.getOrInsert config "configuration") name

/-- `parse_config` (lines 179–215), on what `LoadFile` gives for the configured path and
    on the three lists: the returned `bool` and the lists it leaves. The `bool`s of the
    three parsers are dropped. An exception of the subscripts leaves the function. -/
def parseConfig (loaded : Except LoadException Node) (cfg : NssfConfig) :
    Except StdException (Bool × NssfConfig) :=
  match loaded with
  | .error (.badFile _) => .ok (false, cfg)
  | .error (.other e) => .error e
  | .ok config => do
    let nsiSection ← configSection Y config "nsiInfoList"
    if Y.isDefined nsiSection then
      let (_, nsiInfoList) := parseNsiInfo Y nsiSection cfg.nsiInfoList
      let cfg := { cfg with nsiInfoList := nsiInfoList }
      let taSection ← configSection Y config "taInfoList"
      if Y.isDefined taSection then
        let (_, taInfoList) := parseTaInfo Y taSection cfg.taInfoList
        let cfg := { cfg with taInfoList := taInfoList }
        let amfSection ← configSection Y config "amfInfoList"
        if Y.isDefined amfSection then
          let (_, amfInfoList) := parseAmfInfo Y amfSection cfg.amfInfoList
          let cfg := { cfg with amfInfoList := amfInfoList }
          return (true, cfg)
        else return (false, cfg)
      else return (false, cfg)
    else return (false, cfg)

end Config

end OaiNssf
