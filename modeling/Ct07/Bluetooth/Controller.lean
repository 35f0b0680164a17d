/-
# Starting the controller (`controller.cc`)

What `start_up` does from the host support on: it reads the remaining pages of features, derives
whether BLE is supported, and reads what BLE needs.

* `Controller` : the variables; `Upstream` : the code in between that is that of Android 9;
* `startUp` : the run, for any answers of the controller;
* `beforeReads_ends` : what is derived before the reads;
* `Consistent` : the start degrades, and follows page 1 wherever it is read;
* `consistent_iff` : the answers for which it does.
-/
import Ct07.Lib.Ends
import Ct07.Bluetooth.PacketParser

namespace Bluetooth

/-! ## The start -/

/-- The static variables; `others` are those that only the unpatched code writes. -/
structure Controller (σ : Type) where
  lastFeaturesClassicPageIndex : UInt8
  featuresClassic : Vector Features 3
  leHostSupportConfirmed : Bool
  bleSupported : Bool
  aclDataSizeClassic : UInt16
  bleWhiteListSize : UInt8
  bleBufferSize : BleBufferSize
  bleSupportedStates : Vector UInt8 8
  featuresBle : Features
  bleResolvingListMaxSize : UInt8
  bleSupportedMaximumDataLength : MaximumDataLength
  bleSuggestedDefaultDataLength : UInt16
  bleMaxiumAdvertisingDataLength : UInt16
  bleNumberOfSupportedAdvertisingSets : UInt8
  others : σ

/-- The unpatched code: what follows the pages (secure connections), and what follows the reads
(the event masks and the codecs). -/
structure Upstream (σ : Type) where
  afterPages : Controller σ → Except Stop σ
  afterReads : Controller σ → Except Stop σ

section StartUp

variable {σ : Type} (upstream : Upstream σ) (answers : Answers)

/-- A command, and the variables that the parser of its response is given. -/
def request (command : Command) (get : Controller σ → command.Output)
    (set : Controller σ → command.Output → Controller σ) (c : Controller σ) :
    Except Stop (Bool × Controller σ) :=
  (answers.run command (get c)).map fun r => (r.1, set c r.2)

/-- The host support: it is written to a controller that supports LE, and page 1 is needed then. -/
def writeHostSupport (c : Controller σ) : Except Stop (Controller σ) :=
  let c := { c with leHostSupportConfirmed := false }
  if c.featuresClassic[0].leSptSupported then
    (answers.run (.bleWriteHostSupport c.featuresClassic[0].simulLeBredrSupported) ()).map
      fun r =>
        { c with
          leHostSupportConfirmed := r.1
          lastFeaturesClassicPageIndex :=
            if c.lastFeaturesClassicPageIndex < 1 then 1 else c.lastFeaturesClassicPageIndex }
  else .ok c

/-- The loop over the remaining pages, for a number of rounds. -/
def readPages : ℕ → UInt8 → Controller σ → Except Stop (Controller σ)
  | 0, _, _ => .error .running
  | fuel + 1, pageNumber, c =>
    if pageNumber ≤ c.lastFeaturesClassicPageIndex ∧ pageNumber < 3 then
      match answers.run (.readLocalExtendedFeatures pageNumber)
        ⟨pageNumber, c.lastFeaturesClassicPageIndex, c.featuresClassic⟩ with
      | .error e => .error e
      | .ok (false, _) => .ok { c with lastFeaturesClassicPageIndex := pageNumber - 1 }
      | .ok (true, out) =>
        readPages fuel (out.pageNumber + 1)
          { c with
            lastFeaturesClassicPageIndex := out.maxPageNumber
            featuresClassic := out.featurePages }
    else .ok c

/-- `ble_supported`, from page 1 or from the accepted write. -/
def deriveBleSupported (c : Controller σ) : Controller σ :=
  let c := { c with
    bleSupported :=
      decide (1 ≤ c.lastFeaturesClassicPageIndex) && c.featuresClassic[1].leHostSupported }
  if !c.bleSupported && c.leHostSupportConfirmed then { c with bleSupported := true } else c

/-- `start_up`, from the host support to the reads of BLE. -/
def beforeReads (c : Controller σ) : Except Stop (Controller σ) := do
  let c ← writeHostSupport answers c
  let c ← readPages answers 3 1 c
  let s ← upstream.afterPages c
  .ok (deriveBleSupported { c with others := s })

def readWhiteListSize : Controller σ → Except Stop (Bool × Controller σ) :=
  request answers .bleReadWhiteListSize (·.bleWhiteListSize)
    fun c out => { c with bleWhiteListSize := out }

/-- A size of 0 stands for that of the classic buffer. -/
def readBufferSize (c : Controller σ) : Except Stop (Bool × Controller σ) :=
  (request answers .bleReadBufferSize (·.bleBufferSize)
    (fun c out => { c with bleBufferSize := out }) c).map fun r =>
      if r.2.bleBufferSize.dataSize = 0 then
        (r.1, { r.2 with
          bleBufferSize := { r.2.bleBufferSize with dataSize := r.2.aclDataSizeClassic } })
      else r

def readSupportedStates : Controller σ → Except Stop (Bool × Controller σ) :=
  request answers .bleReadSupportedStates (·.bleSupportedStates)
    fun c out => { c with bleSupportedStates := out }

def readSupportedFeatures : Controller σ → Except Stop (Bool × Controller σ) :=
  request answers .bleReadLocalSupportedFeatures (·.featuresBle)
    fun c out => { c with featuresBle := out }

/-- `if (ble_setup_ok)` -/
def whenOk (f : Controller σ → Except Stop (Bool × Controller σ)) (r : Bool × Controller σ) :
    Except Stop (Bool × Controller σ) :=
  if r.1 then f r.2 else .ok r

/-- The reads that BLE requires; the result is `ble_setup_ok`. -/
def requiredReads (c : Controller σ) : Except Stop (Bool × Controller σ) := do
  let r ← readWhiteListSize answers c
  let r ← whenOk (readBufferSize answers) r
  let r ← whenOk (readSupportedStates answers) r
  whenOk (readSupportedFeatures answers) r

def setUpBle (c : Controller σ) : Except Stop (Controller σ) :=
  if c.bleSupported then
    (requiredReads answers c).map fun r =>
      if r.1 then r.2 else { r.2 with bleSupported := false }
  else .ok c

def readResolvingListSize (c : Controller σ) : Except Stop (Controller σ) :=
  if c.featuresBle.leEnhancedPrivacySupported then
    (request answers .bleReadResolvingListSize (·.bleResolvingListMaxSize)
      (fun c out => { c with bleResolvingListMaxSize := out }) c).map fun r =>
        if r.1 then r.2 else { r.2 with bleResolvingListMaxSize := 0 }
  else .ok c

/-- A controller that refuses the read has the data length extension cleared. -/
def readMaximumDataLength (c : Controller σ) : Except Stop (Controller σ) :=
  if c.featuresBle.leDataLenExtSupported then
    (request answers .bleReadMaximumDataLength (·.bleSupportedMaximumDataLength)
      (fun c out => { c with bleSupportedMaximumDataLength := out }) c).map fun r =>
        if r.1 then r.2 else { r.2 with featuresBle := r.2.featuresBle.clearDataLenExt }
  else .ok c

def readSuggestedDefaultDataLength (c : Controller σ) : Except Stop (Controller σ) :=
  if c.featuresBle.leDataLenExtSupported then
    (request answers .bleReadSuggestedDefaultDataLength (·.bleSuggestedDefaultDataLength)
      (fun c out => { c with bleSuggestedDefaultDataLength := out }) c).map (·.2)
  else .ok c

def readMaximumAdvertisingDataLength (c : Controller σ) : Except Stop (Controller σ) :=
  (request answers .bleReadMaximumAdvertisingDataLength (·.bleMaxiumAdvertisingDataLength)
    (fun c out => { c with bleMaxiumAdvertisingDataLength := out }) c).map fun r =>
      if r.1 then r.2 else { r.2 with bleMaxiumAdvertisingDataLength := 31 }

def readNumberOfSupportedAdvertisingSets (c : Controller σ) : Except Stop (Controller σ) :=
  (request answers .bleReadNumberOfSupportedAdvertisingSets
    (·.bleNumberOfSupportedAdvertisingSets)
    (fun c out => { c with bleNumberOfSupportedAdvertisingSets := out }) c).map (·.2)

def readAdvertising (c : Controller σ) : Except Stop (Controller σ) :=
  if c.featuresBle.leExtendedAdvertisingSupported then
    readMaximumAdvertisingDataLength answers c >>= readNumberOfSupportedAdvertisingSets answers
  else .ok { c with bleMaxiumAdvertisingDataLength := 31 }

/-- The reads that BLE does without. -/
def optionalReads (c : Controller σ) : Except Stop (Controller σ) :=
  if c.bleSupported then do
    let c ← readResolvingListSize answers c
    let c ← readMaximumDataLength answers c
    let c ← readSuggestedDefaultDataLength answers c
    readAdvertising answers c
  else .ok c

/-- `start_up`, after page 0 of the features has been read. -/
def startUp (c : Controller σ) : Except Stop (Controller σ) := do
  let c ← beforeReads upstream answers c
  let c ← setUpBle answers c
  let c ← optionalReads answers c
  let s ← upstream.afterReads c
  .ok { c with others := s }

end StartUp

/-! ## What the answers say -/

section Derived

variable {σ : Type} (answers : Answers) (c : Controller σ)

/-- The controller supports LE, and accepts `Write_LE_Host_Support`. -/
def hostSupportAccepted : Bool :=
  c.featuresClassic[0].leSptSupported &&
    answers.accepted (.bleWriteHostSupport c.featuresClassic[0].simulLeBredrSupported)

/-- Page 1 is asked for, and the controller accepts. -/
def page1Read : Bool :=
  (c.featuresClassic[0].leSptSupported || decide (1 ≤ c.lastFeaturesClassicPageIndex)) &&
    answers.accepted (.readLocalExtendedFeatures 1)

/-- The responses report a page 1: that of page 1 does, and so does that of page 2 when that page
is asked for and read. -/
def page1Reported : Bool :=
  decide (1 ≤ answers.maxPageNumber 1) &&
    (decide (answers.maxPageNumber 1 < 2) || !answers.accepted (.readLocalExtendedFeatures 2) ||
      decide (1 ≤ answers.maxPageNumber 2))

/-- The four reads that BLE requires are accepted. -/
def requiredAccepted : Bool :=
  answers.accepted .bleReadWhiteListSize && answers.accepted .bleReadBufferSize &&
    answers.accepted .bleReadSupportedStates && answers.accepted .bleReadLocalSupportedFeatures

end Derived

/-! ## Steps -/

section Steps

variable {σ : Type} {answers : Answers} {c : Controller σ}

/-- A parser that checks nothing says whether the command is accepted. -/
theorem run_ends (answers : Answers) (command : Command)
    (hstore : ∀ stream out, ∃ out', command.parser.store stream out = .ok out')
    (out : command.Output) :
    Ends (answers.run command out) fun r => r.1 = answers.accepted command := by
  cases h : answers.accepted command with
  | false =>
      rw [answers.run_of_refused h]
      exact ends_ok rfl
  | true =>
      obtain ⟨hlen, hrun⟩ := answers.run_of_accepted h out
      obtain ⟨out', hout⟩ := hstore ⟨_, hlen⟩ out
      rw [hrun, hout]
      exact ends_ok rfl

/-- A request leaves `ble_supported` alone. -/
theorem request_ends {command : Command} {get : Controller σ → command.Output}
    {set : Controller σ → command.Output → Controller σ}
    (hstore : ∀ stream out, ∃ out', command.parser.store stream out = .ok out')
    (hset : ∀ out, (set c out).bleSupported = c.bleSupported) :
    Ends (request answers command get set c) fun r =>
      r.1 = answers.accepted command ∧ r.2.bleSupported = c.bleSupported :=
  ends_map (run_ends answers command hstore (get c)) fun r hr => ⟨hr, hset r.2⟩

theorem whenOk_ends {f : Controller σ → Except Stop (Bool × Controller σ)} {accepted ok v : Bool}
    (hf : ∀ c : Controller σ, Ends (f c) fun r =>
      r.1 = accepted ∧ r.2.bleSupported = c.bleSupported)
    (r : Bool × Controller σ) (hr : r.1 = ok ∧ r.2.bleSupported = v) :
    Ends (whenOk f r) fun r => r.1 = (ok && accepted) ∧ r.2.bleSupported = v := by
  obtain ⟨hok, hv⟩ := hr
  cases ok with
  | false =>
      rw [whenOk, hok, if_neg Bool.false_ne_true]
      exact ends_ok ⟨hok, hv⟩
  | true =>
      rw [whenOk, hok, if_pos rfl, Bool.true_and, ← hv]
      exact hf r.2

theorem readBufferSize_ends (c : Controller σ) :
    Ends (readBufferSize answers c) fun r =>
      r.1 = answers.accepted .bleReadBufferSize ∧ r.2.bleSupported = c.bleSupported := by
  refine ends_map (request_ends (fun _ _ => ⟨_, rfl⟩) fun _ => rfl) fun r hr => ?_
  split
  · exact hr
  · exact hr

/-- The required reads succeed when all four are accepted. -/
theorem requiredReads_ends (c : Controller σ) :
    Ends (requiredReads answers c) fun r =>
      r.1 = requiredAccepted answers ∧ r.2.bleSupported = c.bleSupported := by
  refine ends_bind (request_ends (fun _ _ => ⟨_, rfl⟩) fun _ => rfl) fun r hr => ?_
  refine ends_bind (whenOk_ends readBufferSize_ends r hr) fun r hr => ?_
  refine ends_bind (whenOk_ends (fun c => request_ends (fun _ _ => ⟨_, rfl⟩) fun _ => rfl) r hr)
    fun r hr => ?_
  exact whenOk_ends (fun c => request_ends (fun _ _ => ⟨_, rfl⟩) fun _ => rfl) r hr

/-- BLE stays when the required reads succeed. -/
theorem setUpBle_ends (c : Controller σ) :
    Ends (setUpBle answers c) fun c' =>
      c'.bleSupported = (c.bleSupported && requiredAccepted answers) := by
  cases hble : c.bleSupported with
  | false =>
      rw [setUpBle, hble, if_neg Bool.false_ne_true]
      exact ends_ok hble
  | true =>
      rw [setUpBle, hble, if_pos rfl]
      refine ends_map (requiredReads_ends c) fun r hr => ?_
      rw [Bool.true_and, ← hr.1]
      cases hok : r.1 with
      | false => rfl
      | true => exact hr.2.trans hble

/-- What is done after a refusal leaves `ble_supported` alone, too. -/
theorem request_map_ends {command : Command} {get : Controller σ → command.Output}
    {set : Controller σ → command.Output → Controller σ}
    {f : Bool × Controller σ → Controller σ}
    (hf : ∀ r, (f r).bleSupported = r.2.bleSupported)
    (hstore : ∀ stream out, ∃ out', command.parser.store stream out = .ok out')
    (hset : ∀ out, (set c out).bleSupported = c.bleSupported) :
    Ends ((request answers command get set c).map f) fun c' =>
      c'.bleSupported = c.bleSupported :=
  ends_map (request_ends hstore hset) fun r hr => (hf r).trans hr.2

theorem readResolvingListSize_ends (c : Controller σ) :
    Ends (readResolvingListSize answers c) fun c' => c'.bleSupported = c.bleSupported := by
  unfold readResolvingListSize
  split
  · apply request_map_ends _ (fun _ _ => ⟨_, rfl⟩) (fun _ => rfl)
    intro r
    split <;> rfl
  · exact ends_ok rfl

theorem readMaximumDataLength_ends (c : Controller σ) :
    Ends (readMaximumDataLength answers c) fun c' => c'.bleSupported = c.bleSupported := by
  unfold readMaximumDataLength
  split
  · apply request_map_ends _ (fun _ _ => ⟨_, rfl⟩) (fun _ => rfl)
    intro r
    split <;> rfl
  · exact ends_ok rfl

theorem readSuggestedDefaultDataLength_ends (c : Controller σ) :
    Ends (readSuggestedDefaultDataLength answers c) fun c' =>
      c'.bleSupported = c.bleSupported := by
  unfold readSuggestedDefaultDataLength
  split
  · exact request_map_ends (fun _ => rfl) (fun _ _ => ⟨_, rfl⟩) (fun _ => rfl)
  · exact ends_ok rfl

theorem readMaximumAdvertisingDataLength_ends (c : Controller σ) :
    Ends (readMaximumAdvertisingDataLength answers c) fun c' =>
      c'.bleSupported = c.bleSupported := by
  apply request_map_ends _ (fun _ _ => ⟨_, rfl⟩) (fun _ => rfl)
  intro r
  split <;> rfl

theorem readNumberOfSupportedAdvertisingSets_ends (c : Controller σ) :
    Ends (readNumberOfSupportedAdvertisingSets answers c) fun c' =>
      c'.bleSupported = c.bleSupported :=
  request_map_ends (fun _ => rfl) (fun _ _ => ⟨_, rfl⟩) (fun _ => rfl)

theorem readAdvertising_ends (c : Controller σ) :
    Ends (readAdvertising answers c) fun c' => c'.bleSupported = c.bleSupported := by
  unfold readAdvertising
  split
  · refine ends_bind (readMaximumAdvertisingDataLength_ends c) fun c' hc' => ?_
    rw [← hc']
    exact readNumberOfSupportedAdvertisingSets_ends c'
  · exact ends_ok rfl

/-- The optional reads leave `ble_supported` alone. -/
theorem optionalReads_ends (c : Controller σ) :
    Ends (optionalReads answers c) fun c' => c'.bleSupported = c.bleSupported := by
  unfold optionalReads
  split
  · refine ends_bind (readResolvingListSize_ends c) fun c₁ h₁ => ?_
    refine ends_bind (readMaximumDataLength_ends c₁) fun c₂ h₂ => ?_
    refine ends_bind (readSuggestedDefaultDataLength_ends c₂) fun c₃ h₃ => ?_
    rw [← h₁, ← h₂, ← h₃]
    exact readAdvertising_ends c₃
  · exact ends_ok rfl

/-! ## Before the reads -/

/-- Page 1 is needed when the host support has been written. -/
theorem writeHostSupport_ends (c : Controller σ) :
    Ends (writeHostSupport answers c) fun c' =>
      c'.leHostSupportConfirmed = hostSupportAccepted answers c ∧
        decide (1 ≤ c'.lastFeaturesClassicPageIndex) =
          (c.featuresClassic[0].leSptSupported ||
            decide (1 ≤ c.lastFeaturesClassicPageIndex)) := by
  unfold writeHostSupport hostSupportAccepted
  dsimp only
  cases hle : c.featuresClassic[0].leSptSupported with
  | false => exact ends_ok ⟨rfl, rfl⟩
  | true =>
      rw [if_pos rfl]
      refine ends_map (run_ends answers (.bleWriteHostSupport _) (fun _ _ => ⟨_, rfl⟩) ())
        fun r hr => ⟨hr, ?_⟩
      dsimp only
      rw [Bool.true_or]
      apply decide_eq_true
      split
      · exact UInt8.le_refl 1
      · rename_i hlast
        exact UInt8.not_lt.1 hlast

section Pages

variable (fuel : ℕ) {pageNumber : UInt8}

theorem readPages_done
    (h : ¬ (pageNumber ≤ c.lastFeaturesClassicPageIndex ∧ pageNumber < 3)) :
    readPages answers (fuel + 1) pageNumber c = .ok c := if_neg h

/-- A refused page ends the loop. -/
theorem readPages_refused
    (h : pageNumber ≤ c.lastFeaturesClassicPageIndex ∧ pageNumber < 3)
    (hacc : answers.accepted (.readLocalExtendedFeatures pageNumber) = false) :
    readPages answers (fuel + 1) pageNumber c =
      .ok { c with lastFeaturesClassicPageIndex := pageNumber - 1 } := by
  rw [readPages, if_pos h, answers.run_of_refused hacc]

/-- An accepted page is stored, and the next one is asked for. -/
theorem readPages_accepted
    (h : pageNumber ≤ c.lastFeaturesClassicPageIndex ∧ pageNumber < 3)
    (hacc : answers.accepted (.readLocalExtendedFeatures pageNumber) = true) :
    ∃ page : Features, page.leHostSupported = answers.leHostBit pageNumber ∧
      readPages answers (fuel + 1) pageNumber c =
        readPages answers fuel (pageNumber + 1)
          { c with
            lastFeaturesClassicPageIndex := answers.maxPageNumber pageNumber
            featuresClassic := c.featuresClassic.set pageNumber.toNat page
              (UInt8.lt_iff_toNat_lt.1 h.2) } := by
  obtain ⟨page, hbit, hrun⟩ := answers.run_page (UInt8.lt_iff_toNat_lt.1 h.2) hacc
    ⟨pageNumber, c.lastFeaturesClassicPageIndex, c.featuresClassic⟩
  refine ⟨page, hbit, ?_⟩
  rw [readPages, if_pos h, hrun]

/-- The round for page 2 leaves page 1 alone. -/
theorem readPages_two_ends (c : Controller σ) :
    Ends (readPages answers (fuel + 2) 2 c) fun c' =>
      c'.leHostSupportConfirmed = c.leHostSupportConfirmed ∧
        c'.featuresClassic[1] = c.featuresClassic[1] ∧
        decide (1 ≤ c'.lastFeaturesClassicPageIndex) =
          (decide (1 ≤ c.lastFeaturesClassicPageIndex) &&
            (decide (c.lastFeaturesClassicPageIndex < 2) ||
              !answers.accepted (.readLocalExtendedFeatures 2) ||
              decide (1 ≤ answers.maxPageNumber 2))) := by
  by_cases hask : 2 ≤ c.lastFeaturesClassicPageIndex
  · have hlast : decide (1 ≤ c.lastFeaturesClassicPageIndex) = true :=
      decide_eq_true (UInt8.le_trans (by decide) hask)
    have hlt : decide (c.lastFeaturesClassicPageIndex < 2) = false :=
      decide_eq_false (UInt8.not_lt.2 hask)
    rw [hlast, hlt]
    cases hacc : answers.accepted (.readLocalExtendedFeatures 2) with
    | false =>
        rw [readPages_refused _ ⟨hask, by decide⟩ hacc]
        exact ends_ok ⟨rfl, rfl, rfl⟩
    | true =>
        obtain ⟨page, -, hread⟩ :=
          readPages_accepted (fuel + 1) ⟨hask, by decide⟩ hacc
        rw [hread, readPages_done _ fun h => absurd h.2 (by decide)]
        refine ends_ok ⟨rfl, ?_, rfl⟩
        exact Vector.getElem_set_ne (by decide) (by decide) (by decide)
  · have hlt : decide (c.lastFeaturesClassicPageIndex < 2) = true :=
      decide_eq_true (UInt8.not_le.1 hask)
    rw [readPages_done _ fun h => hask h.1, hlt]
    exact ends_ok ⟨rfl, rfl, (Bool.and_true _).symm⟩

/-- The loop ends; what it leaves of page 1 is in the responses. -/
theorem readPages_ends (c : Controller σ) :
    Ends (readPages answers 3 1 c) fun c' =>
      c'.leHostSupportConfirmed = c.leHostSupportConfirmed ∧
        (decide (1 ≤ c'.lastFeaturesClassicPageIndex) &&
            c'.featuresClassic[1].leHostSupported) =
          (decide (1 ≤ c.lastFeaturesClassicPageIndex) &&
            answers.accepted (.readLocalExtendedFeatures 1) && answers.leHostBit 1 &&
            page1Reported answers) := by
  by_cases hask : 1 ≤ c.lastFeaturesClassicPageIndex
  · rw [decide_eq_true hask]
    cases hacc : answers.accepted (.readLocalExtendedFeatures 1) with
    | false =>
        rw [readPages_refused _ ⟨hask, by decide⟩ hacc]
        exact ends_ok ⟨rfl, rfl⟩
    | true =>
        obtain ⟨page, hbit, hread⟩ := readPages_accepted 2 ⟨hask, by decide⟩ hacc
        rw [hread]
        refine (readPages_two_ends 0 _).mono fun c' hc' => ?_
        obtain ⟨hconfirmed, hpage, hlast⟩ := hc'
        have hself : c'.featuresClassic[1] = page :=
          hpage.trans (Vector.getElem_set_self (by decide))
        refine ⟨hconfirmed, ?_⟩
        rw [hlast, hself, hbit, Bool.true_and, Bool.true_and, Bool.and_comm]
        rfl
  · rw [readPages_done _ fun h => hask h.1]
    refine ends_ok ⟨rfl, ?_⟩
    rw [decide_eq_false hask]
    rfl

end Pages

theorem deriveBleSupported_eq (c : Controller σ) :
    (deriveBleSupported c).bleSupported =
      (decide (1 ≤ c.lastFeaturesClassicPageIndex) && c.featuresClassic[1].leHostSupported ||
        c.leHostSupportConfirmed) := by
  unfold deriveBleSupported
  dsimp only
  cases decide (1 ≤ c.lastFeaturesClassicPageIndex) && c.featuresClassic[1].leHostSupported with
  | false =>
      cases hconfirmed : c.leHostSupportConfirmed with
      | false => rfl
      | true => rfl
  | true => rfl

end Steps

/-! ## Main result -/

/-- The unpatched code does not stop. -/
structure Upstream.Returns {σ : Type} (upstream : Upstream σ) : Prop where
  afterPages : ∀ c, ∃ s, upstream.afterPages c = .ok s
  afterReads : ∀ c, ∃ s, upstream.afterReads c = .ok s

section Consistency

variable {σ : Type}

/-- The start degrades: refused parsers leave their outputs alone, nothing stops, and BLE stays
only when its reads are accepted.  Before these, `ble_supported` is the bit of page 1, or comes
from page 0 and the accepted write when page 1 is not read. -/
structure Consistent (upstream : Upstream σ) (answers : Answers) (c : Controller σ) : Prop where
  refused : ∀ command out, answers.accepted command = false →
    answers.run command out = .ok (false, out)
  starts : ∃ before after, beforeReads upstream answers c = .ok before ∧
    startUp upstream answers c = .ok after ∧
    (after.bleSupported = true → requiredAccepted answers = true) ∧
    (page1Read answers c = true → before.bleSupported = answers.leHostBit 1) ∧
    (page1Read answers c = false → before.bleSupported = hostSupportAccepted answers c)

variable {upstream : Upstream σ} (hreturns : upstream.Returns)
include hreturns

/-- What is derived: the bit of a page 1 that is read and reported, or the accepted write. -/
theorem beforeReads_ends (answers : Answers) (c : Controller σ) :
    Ends (beforeReads upstream answers c) fun c' =>
      c'.bleSupported = (page1Read answers c && answers.leHostBit 1 && page1Reported answers ||
        hostSupportAccepted answers c) := by
  refine ends_bind (writeHostSupport_ends c) fun c₁ h₁ => ?_
  refine ends_bind (readPages_ends c₁) fun c₂ h₂ => ?_
  obtain ⟨s, hs⟩ := hreturns.afterPages c₂
  rw [hs]
  apply ends_ok
  rw [deriveBleSupported_eq, page1Read, ← h₁.2, ← h₂.2, ← h₁.1, ← h₂.1]

/-- The start ends, and BLE stays when the four reads are accepted. -/
theorem startUp_ends {answers : Answers} {c before : Controller σ}
    (hbefore : beforeReads upstream answers c = .ok before) :
    Ends (startUp upstream answers c) fun c' =>
      c'.bleSupported = (before.bleSupported && requiredAccepted answers) := by
  rw [startUp, hbefore]
  show Ends (setUpBle answers before >>= _) _
  refine ends_bind (setUpBle_ends before) fun c₁ h₁ => ?_
  refine ends_bind (optionalReads_ends c₁) fun c₂ h₂ => ?_
  obtain ⟨s, hs⟩ := hreturns.afterReads c₂
  rw [hs]
  exact ends_ok (h₂.trans h₁)

omit hreturns in
/-- Where the derived value follows page 1. -/
theorem derived_iff : ∀ read bit reported written : Bool,
    ((read = true → (read && bit && reported || written) = bit) ∧
      (read = false → (read && bit && reported || written) = written)) ↔
    (read = true → (bit = true → reported = true ∨ written = true) ∧
      (bit = false → written = false)) := by
  decide

/-- **The start is consistent** unless page 1 is read, and its bit is clear although the write was
accepted, or its bit is set, the responses report no page 1, and the write was not accepted. -/
theorem consistent_iff (answers : Answers) (c : Controller σ) :
    Consistent upstream answers c ↔
      (page1Read answers c = true →
        (answers.leHostBit 1 = true →
          page1Reported answers = true ∨ hostSupportAccepted answers c = true) ∧
        (answers.leHostBit 1 = false → hostSupportAccepted answers c = false)) := by
  obtain ⟨before, hbefore, hderived⟩ := beforeReads_ends hreturns answers c
  rw [← derived_iff, ← hderived]
  constructor
  · intro h
    obtain ⟨before', _, hbefore', _, _, hread, hunread⟩ := h.starts
    cases hbefore.symm.trans hbefore'
    exact ⟨hread, hunread⟩
  · intro h
    obtain ⟨after, hafter, hble⟩ := startUp_ends hreturns hbefore
    refine ⟨fun _ out hacc => answers.run_of_refused hacc out, before, after, hbefore, hafter,
      fun hafterBle => ?_, h⟩
    rw [hble, Bool.and_eq_true] at hafterBle
    exact hafterBle.2

end Consistency

/-! ## Controllers -/

/-- The flag `secure_connections_supported` is all that the rest of the code keeps. -/
def android9 : Upstream Bool where
  afterPages c := .ok c.featuresClassic[2].scCtrlrSupported
  afterReads c := .ok c.others

theorem android9_returns : android9.Returns := ⟨fun _ => ⟨_, rfl⟩, fun _ => ⟨_, rfl⟩⟩

/-- A controller that accepts each command, and answers the pages with a status. -/
def answering (status : UInt8) : Answers where
  packet
    | .readLocalExtendedFeatures pageNumber =>
      ⟨0x0E, [1, 0x04, 0x10, status, pageNumber, 1, 0, 0, 0, 0, 0, 0, 0, 0]⟩
    | command =>
      ⟨0x0E, [1, command.opcode.toUInt8, (command.opcode >>> 8).toUInt8, 0, 0, 0, 0, 0, 0, 0, 0, 0]⟩
  opcode_eq command lo hi _ hlo hhi := by
    cases command with
    | readLocalExtendedFeatures _ =>
        cases hlo
        cases hhi
        rfl
    | _ =>
        cases hlo
        cases hhi
        exact uint16_bytes _
  page_eq _ _ := rfl

/-- Page 0 says that LE is supported. -/
def leController : Controller Bool where
  lastFeaturesClassicPageIndex := 0
  featuresClassic := #v[⟨#v[0, 0, 0, 0, 0x40, 0, 0, 0]⟩, ⟨.replicate 8 0⟩, ⟨.replicate 8 0⟩]
  leHostSupportConfirmed := false
  bleSupported := false
  aclDataSizeClassic := 1021
  bleWhiteListSize := 0
  bleBufferSize := ⟨0, 0⟩
  bleSupportedStates := .replicate 8 0
  featuresBle := ⟨.replicate 8 0⟩
  bleResolvingListMaxSize := 0
  bleSupportedMaximumDataLength := ⟨0, 0, 0, 0⟩
  bleSuggestedDefaultDataLength := 0
  bleMaxiumAdvertisingDataLength := 0
  bleNumberOfSupportedAdvertisingSets := 0
  others := false

/-- A controller that refuses page 1 keeps BLE. -/
theorem consistent_page1Refused : Consistent android9 (answering 0x30) leController :=
  (consistent_iff android9_returns (answering 0x30) leController).2 (by decide)

/-- A controller that answers page 1, with a clear bit, has BLE nevertheless. -/
theorem clearHostBit_not_consistent : ¬ Consistent android9 (answering 0) leController := by
  intro h
  obtain ⟨before, _, hbefore, _, _, hread, _⟩ := h.starts
  have hderived := (beforeReads_ends android9_returns _ _).of_eq hbefore
  rw [hread (by decide)] at hderived
  exact absurd hderived (by decide)

end Bluetooth
