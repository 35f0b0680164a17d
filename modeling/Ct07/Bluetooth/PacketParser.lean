/-
# The parsers of responses (`hci_packet_parser.cc`)

A command is awaited, and the parser of its response stores what the controller answers.  A
response refuses the command when it is a Command Status event, is too short, or has a status
other than success.

* `readCommandCompleteHeader` : the parameters after the header, unless the command is refused;
* `Parser` : how the response to a command is read; `Parser.run` is the call;
* `Answers` : what a controller answers to each command;
* `Answers.run_of_refused` : a refused parser leaves its outputs as they were.

The numbers of the events, the opcodes and the header's checks are those of Android 9.
-/
import Mathlib.Data.Nat.Notation
import Mathlib.Tactic.Common

namespace Bluetooth

/-- Why a computation has no result. -/
inductive Stop where
  | check
  | running
  deriving DecidableEq

/-- `BT_HDR`, an event: its code, and as many parameters as its length says. -/
structure Packet where
  eventCode : UInt8
  parameters : List UInt8

/-- `HCI_COMMAND_COMPLETE_EVT` -/
def hciCommandCompleteEvt : UInt8 := 0x0E

/-- `HCI_SUCCESS` -/
def hciSuccess : UInt8 := 0x00

/-- `STREAM_TO_UINT16` -/
def uint16 (lo hi : UInt8) : UInt16 := lo.toUInt16 + hi.toUInt16 <<< 8

/-- The two bytes of a word, read back. -/
theorem uint16_bytes (n : UInt16) : uint16 n.toUInt8 (n >>> 8).toUInt8 = n := by
  have hn := n.toNat_lt
  apply UInt16.toNat_inj.1
  rw [uint16, UInt16.toNat_add, UInt16.toNat_shiftLeft]
  simp only [UInt16.toUInt16_toUInt8, UInt16.toNat_mod, UInt16.reduceToNat,
    UInt16.toNat_shiftRight, Nat.reduceMod, Nat.shiftRight_eq_div_pow, Nat.reducePow,
    Nat.shiftLeft_eq]
  omega

/-- `read_command_complete_header`; no opcode stands for `NO_OPCODE_CHECKING`, and no stream for
the null pointer. -/
def readCommandCompleteHeader (response : Packet) (expectedOpcode : Option UInt16)
    (minimumBytesAfter : ℕ) :
    Except Stop (Option {stream : List UInt8 // minimumBytesAfter ≤ stream.length}) :=
  if response.eventCode ≠ hciCommandCompleteEvt then .ok none
  else if h : response.parameters.length < 4 + minimumBytesAfter then .ok none
  else
    let opcode := uint16 response.parameters[1] response.parameters[2]
    if expectedOpcode.any (· != opcode) then .error .check
    else if response.parameters[3] ≠ hciSuccess then .ok none
    else .ok (some ⟨response.parameters.drop 4, by rw [List.length_drop]; omega⟩)

/-! ## Parsers -/

/-- A parser: the opcode that it expects, the bytes that it needs after the header, and what it
stores in its outputs. -/
structure Parser (α : Type) where
  expectedOpcode : Option UInt16
  minimumBytesAfter : ℕ
  store : {stream : List UInt8 // minimumBytesAfter ≤ stream.length} → α → Except Stop α

namespace Parser

variable {α : Type}

/-- A call: whether the controller accepted the command, and the outputs. -/
def run (p : Parser α) (response : Packet) (out : α) : Except Stop (Bool × α) :=
  match readCommandCompleteHeader response p.expectedOpcode p.minimumBytesAfter with
  | .error e => .error e
  | .ok none => .ok (false, out)
  | .ok (some stream) => (p.store stream out).map (true, ·)

/-- The response accepts the command. -/
def accepts (p : Parser α) (response : Packet) : Bool :=
  response.eventCode == hciCommandCompleteEvt &&
    decide (4 + p.minimumBytesAfter ≤ response.parameters.length) &&
    response.parameters[3]? == some hciSuccess

end Parser

/-- `bt_device_features_t` -/
structure Features where
  asArray : Vector UInt8 8
  deriving DecidableEq

namespace Features

/-- `HCI_LE_SPT_SUPPORTED` -/
def leSptSupported (x : Features) : Bool := x.asArray[4] &&& 0x40 != 0

/-- `HCI_SIMUL_LE_BREDR_SUPPORTED` -/
def simulLeBredrSupported (x : Features) : Bool := x.asArray[6] &&& 0x02 != 0

/-- `HCI_LE_HOST_SUPPORTED` -/
def leHostSupported (x : Features) : Bool := x.asArray[0] &&& 0x02 != 0

/-- `HCI_SC_CTRLR_SUPPORTED` -/
def scCtrlrSupported (x : Features) : Bool := x.asArray[1] &&& 0x01 != 0

/-- `HCI_LE_ENHANCED_PRIVACY_SUPPORTED` -/
def leEnhancedPrivacySupported (x : Features) : Bool := x.asArray[0] &&& 0x40 != 0

/-- `HCI_LE_DATA_LEN_EXT_SUPPORTED` -/
def leDataLenExtSupported (x : Features) : Bool := x.asArray[0] &&& 0x20 != 0

/-- `HCI_LE_EXTENDED_ADVERTISING_SUPPORTED` -/
def leExtendedAdvertisingSupported (x : Features) : Bool := x.asArray[1] &&& 0x10 != 0

/-- `as_array[0] &= ~0x20` -/
def clearDataLenExt (x : Features) : Features := ⟨x.asArray.set 0 (x.asArray[0] &&& ~~~0x20)⟩

end Features

/-- `STREAM_TO_ARRAY`, of eight bytes. -/
def array8 (stream : List UInt8) (h : 8 ≤ stream.length) : Vector UInt8 8 :=
  Vector.ofFn fun i : Fin 8 => stream[i.val]

theorem array8_zero {stream : List UInt8} (h : 8 ≤ stream.length) :
    (array8 stream h)[0] = stream[0] := Vector.getElem_ofFn _

/-- The outputs of `parse_read_local_extended_features_response`; the array is that of
`MAX_FEATURES_CLASSIC_PAGE_COUNT` pages. -/
structure FeaturePages where
  pageNumber : UInt8
  maxPageNumber : UInt8
  featurePages : Vector Features 3

/-- The outputs of `parse_ble_read_buffer_size_response`. -/
structure BleBufferSize where
  dataSize : UInt16
  aclBufferCount : UInt8

/-- The outputs of `parse_ble_read_maximum_data_length_response`. -/
structure MaximumDataLength where
  maxTxOctets : UInt16
  maxTxTime : UInt16
  maxRxOctets : UInt16
  maxRxTime : UInt16

namespace Opcode

def readLocalExtFeatures : UInt16 := 0x1004

def writeBleHostSupport : UInt16 := 0x0C6D

def bleReadWhiteListSize : UInt16 := 0x200F

def bleReadBufferSize : UInt16 := 0x2002

def bleReadSupportedStates : UInt16 := 0x201C

def bleReadLocalSptFeat : UInt16 := 0x2003

def bleReadResolvingListSize : UInt16 := 0x202A

def bleReadMaximumDataLength : UInt16 := 0x202F

def bleReadDefaultDataLength : UInt16 := 0x2023

def leReadMaximumAdvertisingDataLength : UInt16 := 0x203A

def leReadNumberOfSupportedAdvertisingSets : UInt16 := 0x203B

end Opcode

def parseGenericCommandComplete : Parser Unit := ⟨none, 0, fun _ _ => .ok ()⟩

def parseReadLocalExtendedFeaturesResponse : Parser FeaturePages where
  expectedOpcode := some Opcode.readLocalExtFeatures
  minimumBytesAfter := 2 + 8
  store := fun ⟨stream, h⟩ out =>
    let page := stream[0]
    if hpage : page.toNat < 3 then
      .ok ⟨page, stream[1], out.featurePages.set page.toNat
        ⟨array8 (stream.drop 2) (by rw [List.length_drop]; omega)⟩⟩
    else .error .check

/-- The page replaces the one with its number. -/
theorem store_page {stream : List UInt8} (h : 2 + 8 ≤ stream.length) {pageNumber : UInt8}
    (hfirst : stream[0] = pageNumber) (hpage : pageNumber.toNat < 3) (out : FeaturePages) :
    parseReadLocalExtendedFeaturesResponse.store ⟨stream, h⟩ out =
      .ok ⟨pageNumber, stream[1], out.featurePages.set pageNumber.toNat
        ⟨array8 (stream.drop 2) (by rw [List.length_drop]; omega)⟩⟩ := by
  subst hfirst
  exact dif_pos hpage

def parseBleReadWhiteListSizeResponse : Parser UInt8 :=
  ⟨some Opcode.bleReadWhiteListSize, 1, fun ⟨stream, h⟩ _ => .ok stream[0]⟩

def parseBleReadBufferSizeResponse : Parser BleBufferSize :=
  ⟨some Opcode.bleReadBufferSize, 3, fun ⟨stream, h⟩ _ =>
    .ok ⟨uint16 stream[0] stream[1], stream[2]⟩⟩

def parseBleReadSupportedStatesResponse : Parser (Vector UInt8 8) :=
  ⟨some Opcode.bleReadSupportedStates, 8, fun ⟨stream, h⟩ _ => .ok (array8 stream h)⟩

def parseBleReadLocalSupportedFeaturesResponse : Parser Features :=
  ⟨some Opcode.bleReadLocalSptFeat, 8, fun ⟨stream, h⟩ _ => .ok ⟨array8 stream h⟩⟩

def parseBleReadResolvingListSizeResponse : Parser UInt8 :=
  ⟨some Opcode.bleReadResolvingListSize, 1, fun ⟨stream, h⟩ _ => .ok stream[0]⟩

def parseBleReadSuggestedDefaultDataLengthResponse : Parser UInt16 :=
  ⟨some Opcode.bleReadDefaultDataLength, 2, fun ⟨stream, h⟩ _ =>
    .ok (uint16 stream[0] stream[1])⟩

def parseBleReadMaximumDataLengthResponse : Parser MaximumDataLength :=
  ⟨some Opcode.bleReadMaximumDataLength, 8, fun ⟨stream, h⟩ _ =>
    .ok ⟨uint16 stream[0] stream[1], uint16 stream[2] stream[3], uint16 stream[4] stream[5],
      uint16 stream[6] stream[7]⟩⟩

def parseBleReadMaximumAdvertisingDataLength : Parser UInt16 :=
  ⟨some Opcode.leReadMaximumAdvertisingDataLength, 2, fun ⟨stream, h⟩ _ =>
    .ok (uint16 stream[0] stream[1])⟩

def parseBleReadNumberOfSupportedAdvertisingSets : Parser UInt8 :=
  ⟨some Opcode.leReadNumberOfSupportedAdvertisingSets, 1, fun ⟨stream, h⟩ _ => .ok stream[0]⟩

/-! ## Commands and their answers -/

/-- The commands of `packet_factory` that the controller is sent. -/
inductive Command where
  | bleWriteHostSupport (simultaneousHost : Bool)
  | readLocalExtendedFeatures (pageNumber : UInt8)
  | bleReadWhiteListSize
  | bleReadBufferSize
  | bleReadSupportedStates
  | bleReadLocalSupportedFeatures
  | bleReadResolvingListSize
  | bleReadMaximumDataLength
  | bleReadSuggestedDefaultDataLength
  | bleReadMaximumAdvertisingDataLength
  | bleReadNumberOfSupportedAdvertisingSets

namespace Command

def opcode : Command → UInt16
  | bleWriteHostSupport _ => Opcode.writeBleHostSupport
  | readLocalExtendedFeatures _ => Opcode.readLocalExtFeatures
  | bleReadWhiteListSize => Opcode.bleReadWhiteListSize
  | bleReadBufferSize => Opcode.bleReadBufferSize
  | bleReadSupportedStates => Opcode.bleReadSupportedStates
  | bleReadLocalSupportedFeatures => Opcode.bleReadLocalSptFeat
  | bleReadResolvingListSize => Opcode.bleReadResolvingListSize
  | bleReadMaximumDataLength => Opcode.bleReadMaximumDataLength
  | bleReadSuggestedDefaultDataLength => Opcode.bleReadDefaultDataLength
  | bleReadMaximumAdvertisingDataLength => Opcode.leReadMaximumAdvertisingDataLength
  | bleReadNumberOfSupportedAdvertisingSets => Opcode.leReadNumberOfSupportedAdvertisingSets

/-- The outputs of the parser that reads the response. -/
@[reducible] def Output : Command → Type
  | bleWriteHostSupport _ => Unit
  | readLocalExtendedFeatures _ => FeaturePages
  | bleReadWhiteListSize => UInt8
  | bleReadBufferSize => BleBufferSize
  | bleReadSupportedStates => Vector UInt8 8
  | bleReadLocalSupportedFeatures => Features
  | bleReadResolvingListSize => UInt8
  | bleReadMaximumDataLength => MaximumDataLength
  | bleReadSuggestedDefaultDataLength => UInt16
  | bleReadMaximumAdvertisingDataLength => UInt16
  | bleReadNumberOfSupportedAdvertisingSets => UInt8

def parser : (command : Command) → Parser command.Output
  | bleWriteHostSupport _ => parseGenericCommandComplete
  | readLocalExtendedFeatures _ => parseReadLocalExtendedFeaturesResponse
  | bleReadWhiteListSize => parseBleReadWhiteListSizeResponse
  | bleReadBufferSize => parseBleReadBufferSizeResponse
  | bleReadSupportedStates => parseBleReadSupportedStatesResponse
  | bleReadLocalSupportedFeatures => parseBleReadLocalSupportedFeaturesResponse
  | bleReadResolvingListSize => parseBleReadResolvingListSizeResponse
  | bleReadMaximumDataLength => parseBleReadMaximumDataLengthResponse
  | bleReadSuggestedDefaultDataLength => parseBleReadSuggestedDefaultDataLengthResponse
  | bleReadMaximumAdvertisingDataLength => parseBleReadMaximumAdvertisingDataLength
  | bleReadNumberOfSupportedAdvertisingSets => parseBleReadNumberOfSupportedAdvertisingSets

/-- A parser checks for the opcode of its command, if for any. -/
theorem expectedOpcode_eq {command : Command} {opcode : UInt16}
    (h : command.parser.expectedOpcode = some opcode) : opcode = command.opcode := by
  cases command with
  | bleWriteHostSupport _ => exact nomatch h
  | _ => exact (Option.some.inj h).symm

end Command

/-- What a controller answers to each command. -/
structure Answers where
  packet : Command → Packet
  /-- `filter_incoming_event` hands a Command Complete to the command that has its opcode. -/
  opcode_eq : ∀ command lo hi, (packet command).eventCode = hciCommandCompleteEvt →
    (packet command).parameters[1]? = some lo → (packet command).parameters[2]? = some hi →
    uint16 lo hi = command.opcode
  /-- The page that is read is the one that was asked for. -/
  page_eq : ∀ pageNumber,
    parseReadLocalExtendedFeaturesResponse.accepts (packet (.readLocalExtendedFeatures pageNumber))
      = true → (packet (.readLocalExtendedFeatures pageNumber)).parameters[4]? = some pageNumber

namespace Answers

variable (answers : Answers)

/-- The controller accepts the command. -/
def accepted (command : Command) : Bool := command.parser.accepts (answers.packet command)

/-- `AWAIT_COMMAND`, and the parser of the response. -/
def run (command : Command) (out : command.Output) : Except Stop (Bool × command.Output) :=
  command.parser.run (answers.packet command) out

/-- The maximum page number in the response for a page. -/
def maxPageNumber (pageNumber : UInt8) : UInt8 :=
  (answers.packet (.readLocalExtendedFeatures pageNumber)).parameters.getD 5 0

/-- The LE Supported (Host) bit in the response for a page. -/
def leHostBit (pageNumber : UInt8) : Bool :=
  (answers.packet (.readLocalExtendedFeatures pageNumber)).parameters.getD 6 0 &&& 0x02 != 0

variable {answers} {command : Command}

/-- The opcode of a Command Complete is checked in vain. -/
theorem opcode_checked (hevent : (answers.packet command).eventCode = hciCommandCompleteEvt)
    (hlen : 4 ≤ (answers.packet command).parameters.length) :
    command.parser.expectedOpcode.any
      (· != uint16 (answers.packet command).parameters[1]
        (answers.packet command).parameters[2]) = false := by
  have hopcode := answers.opcode_eq command _ _ hevent
    (List.getElem?_eq_getElem (by omega)) (List.getElem?_eq_getElem (by omega))
  cases hexpected : command.parser.expectedOpcode with
  | none => rfl
  | some opcode =>
      rw [Option.any_some, hopcode, Command.expectedOpcode_eq hexpected]
      exact bne_self_eq_false _

/-- A refused parser leaves its outputs as they were. -/
theorem run_of_refused (h : answers.accepted command = false) (out : command.Output) :
    answers.run command out = .ok (false, out) := by
  have hheader : readCommandCompleteHeader (answers.packet command)
      command.parser.expectedOpcode command.parser.minimumBytesAfter = .ok none := by
    unfold readCommandCompleteHeader
    by_cases hevent : (answers.packet command).eventCode = hciCommandCompleteEvt
    · rw [if_neg (not_not_intro hevent)]
      by_cases hlen : (answers.packet command).parameters.length
          < 4 + command.parser.minimumBytesAfter
      · exact dif_pos hlen
      · have hfour : 4 ≤ (answers.packet command).parameters.length := by omega
        rw [dif_neg hlen]
        dsimp only
        rw [opcode_checked hevent hfour, if_neg Bool.false_ne_true, if_pos]
        intro hstatus
        rw [accepted, Parser.accepts, hevent, decide_eq_true (by omega),
          List.getElem?_eq_getElem (by omega), hstatus] at h
        exact absurd h (by decide)
    · exact if_pos hevent
  rw [run, Parser.run, hheader]

/-- An accepted parser stores what follows the header. -/
theorem run_of_accepted (h : answers.accepted command = true) (out : command.Output) :
    ∃ hlen, answers.run command out =
      (command.parser.store ⟨(answers.packet command).parameters.drop 4, hlen⟩ out).map
        (true, ·) := by
  rw [accepted, Parser.accepts, Bool.and_eq_true, Bool.and_eq_true, beq_iff_eq,
    decide_eq_true_eq, beq_iff_eq] at h
  obtain ⟨⟨hevent, hlen⟩, hstatus⟩ := h
  rw [List.getElem?_eq_getElem (by omega)] at hstatus
  refine ⟨by rw [List.length_drop]; omega, ?_⟩
  rw [run, Parser.run, readCommandCompleteHeader, if_neg (not_not_intro hevent),
    dif_neg (by omega)]
  dsimp only
  rw [opcode_checked hevent (by omega), if_neg Bool.false_ne_true,
    if_neg (not_not_intro (Option.some.inj hstatus))]

/-- An accepted page is stored in its place. -/
theorem run_page {pageNumber : UInt8} (hpage : pageNumber.toNat < 3)
    (h : answers.accepted (.readLocalExtendedFeatures pageNumber) = true) (out : FeaturePages) :
    ∃ page : Features, (page.leHostSupported = answers.leHostBit pageNumber) ∧
      answers.run (.readLocalExtendedFeatures pageNumber) out =
        .ok (true, ⟨pageNumber, answers.maxPageNumber pageNumber,
          out.featurePages.set pageNumber.toNat page⟩) := by
  obtain ⟨hlen, hrun⟩ := run_of_accepted h out
  have hasked := answers.page_eq pageNumber h
  generalize hps : (answers.packet (.readLocalExtendedFeatures pageNumber)).parameters = ps
    at hlen hasked
  have hten : 10 ≤ (ps.drop 4).length := hlen
  have hps14 : 14 ≤ ps.length := by
    rw [List.length_drop] at hten
    omega
  have hfirst : (ps.drop 4)[0] = pageNumber := by
    rw [List.getElem_drop]
    rw [List.getElem?_eq_getElem (by omega)] at hasked
    exact Option.some.inj hasked
  have hgetD : ∀ i (hi : i < ps.length), ps.getD i 0 = ps[i] := fun i hi => by
    rw [List.getD_eq_getElem?_getD, List.getElem?_eq_getElem hi, Option.getD_some]
  refine ⟨⟨array8 ((ps.drop 4).drop 2) (by rw [List.length_drop, List.length_drop]; omega)⟩,
    ?_, ?_⟩
  · rw [Features.leHostSupported, leHostBit, hps, array8_zero, List.getElem_drop,
      List.getElem_drop, hgetD 6 (by omega)]
  · have hstore := store_page hten hfirst hpage out
    rw [List.getElem_drop] at hstore
    rw [maxPageNumber, hps, hgetD 5 (by omega)]
    exact hrun.trans (congrArg (Except.map (true, ·)) hstore)

end Answers

end Bluetooth
