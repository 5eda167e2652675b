import Sysio.Unix.Termios
import Sysio.Lib.Refinement
import Sysio.Lib.Fields

/-!
# Serial lines

The functions of `unix/serial.c` on a file descriptor. What the system does for it is a parameter:
`tcgetattr`, `tcsetattr` and the `ioctl`s of RS-485 may fail, and what they get and set is a matter
of the driver of the line. A driver that carries a request out as a whole or refuses it as a whole
(`SerialDriver.WholeOrNothing`) makes of the line a record of its attributes, which every run of
calls changes as each call says. A call that is refused changes nothing, unless what is refused is
the flow control, which `iSerialSetAttr` and `iSerialSetFlow` come to when the rest is done.

The control lines of a modem, which `iSerialOpen` raises in the end, are left out, as is `tcflush`.
-/

namespace Sysio.Unix

/-- What the system does with a file descriptor, of which `Line` is the state: the result of each
call, 0 or -1 where it gives nothing, and what it gives. -/
structure SerialDriver (Line : Type) where
  tcgetattr : Line → Option Termios
  tcsetattr : Line → Termios → ℤ × Line
  /-- `ioctl (fd, TIOCGRS485, &rs485conf)`, the flags. -/
  getRs485 : Line → Option (BitVec 32)
  /-- `ioctl (fd, TIOCSRS485, &rs485conf)`. -/
  setRs485 : Line → BitVec 32 → ℤ × Line

/-- RS-485 is on. -/
def serRs485Enabled : BitVec 32 := 1
/-- RTS is set while sending. -/
def serRs485RtsOnSend : BitVec 32 := 2
/-- RTS is set after sending. -/
def serRs485RtsAfterSend : BitVec 32 := 4

section Functions

variable {Line : Type} (driver : SerialDriver Line)

/-- What the functions that set one attribute share. -/
def SerialDriver.setTermios (line : Line) (set : Termios → ℤ × Termios) : ℤ × Line :=
  match driver.tcgetattr line with
  | none => (-1, line)
  | some ts =>
      let (iRet, ts) := set ts
      if iRet = 0 then driver.tcsetattr line ts else (iRet, line)

/-- The baud rate of a line. -/
def iSerialSetBaudrate (line : Line) (iBaudrate : ℤ) : ℤ × Line :=
  driver.setTermios line (iSerialTermiosSetBaudrate · iBaudrate)

/-- The size of a character of a line. -/
def iSerialSetDataBits (line : Line) (eDataBits : ℤ) : ℤ × Line :=
  driver.setTermios line (iSerialTermiosSetDataBits · eDataBits)

/-- The number of stop bits of a line. -/
def iSerialSetStopBits (line : Line) (eStopBits : ℤ) : ℤ × Line :=
  driver.setTermios line (iSerialTermiosSetStopBits · eStopBits)

/-- The parity of a line. -/
def iSerialSetParity (line : Line) (eParity : ℤ) : ℤ × Line :=
  driver.setTermios line (iSerialTermiosSetParity · eParity)

/-- RS-485 is switched off without regard to an error. -/
def iSerialSetFlow (line : Line) (eFlow : ℤ) : ℤ × Line :=
  let (iRet, line) := driver.setTermios line (iSerialTermiosSetFlow · eFlow)
  if iRet = 0 then
    if IsRs485 eFlow then
      driver.setRs485 line (if eFlow = serialFlowRs485RtsAfterSend then
        serRs485Enabled ||| serRs485RtsAfterSend
      else serRs485Enabled ||| serRs485RtsOnSend)
    else (iRet, (driver.setRs485 line 0).2)
  else (iRet, line)

/-- The attributes of the terminal in one request, and the flow control once more with RS-485. -/
def iSerialSetAttr (line : Line) (xIos : XSerialIos) : ℤ × Line :=
  let (iRet, line) := driver.setTermios line (iSerialTermiosSetAttr · xIos)
  if iRet = 0 then iSerialSetFlow driver line xIos.flow else (iRet, line)

/-- What `eSerialGetFlow` makes of the flags of RS-485. -/
def rs485Flow (flags : BitVec 32) : ℤ :=
  if flags &&& serRs485Enabled ≠ 0 then
    if flags &&& serRs485RtsAfterSend ≠ 0 ∧ flags &&& serRs485RtsOnSend = 0 then
      serialFlowRs485RtsAfterSend
    else if flags &&& serRs485RtsAfterSend = 0 ∧ flags &&& serRs485RtsOnSend ≠ 0 then
      serialFlowRs485RtsOnSend
    else serialFlowUnknown
  else serialFlowNone

/-- The flow control that the terminal shows, else that of RS-485. -/
def eSerialGetFlow (line : Line) : ℤ :=
  match driver.tcgetattr line with
  | none => -1
  | some ts =>
      let f := iSerialTermiosGetFlow ts
      if f = serialFlowNone then
        match driver.getRs485 line with
        | some flags => rs485Flow flags
        | none => f
      else f

/-- The attributes of a line, into the structure of the caller. -/
def iSerialGetAttr (line : Line) (xIos : XSerialIos) : ℤ × XSerialIos :=
  match driver.tcgetattr line with
  | none => (-1, xIos)
  | some ts =>
      let (iRet, xIos) := iSerialTermiosGetAttr ts xIos
      if iRet = 0 then (0, { xIos with flow := eSerialGetFlow driver line }) else (iRet, xIos)

end Functions

/-! ### Calls -/

/-- A call of a function that sets attributes. -/
inductive SerialCall where
  | setBaudrate (iBaudrate : ℤ)
  | setDataBits (eDataBits : ℤ)
  | setStopBits (eStopBits : ℤ)
  | setParity (eParity : ℤ)
  | setFlow (eFlow : ℤ)
  | setAttr (xIos : XSerialIos)
deriving DecidableEq, Repr

namespace SerialCall

/-- What a call returns, and the line behind it. -/
def run {Line : Type} (driver : SerialDriver Line) (line : Line) : SerialCall → ℤ × Line
  | setBaudrate iBaudrate => iSerialSetBaudrate driver line iBaudrate
  | setDataBits eDataBits => iSerialSetDataBits driver line eDataBits
  | setStopBits eStopBits => iSerialSetStopBits driver line eStopBits
  | setParity eParity => iSerialSetParity driver line eParity
  | setFlow eFlow => iSerialSetFlow driver line eFlow
  | setAttr xIos => iSerialSetAttr driver line xIos

/-- The arguments are legal. -/
def Legal : SerialCall → Prop
  | setBaudrate baud => LegalBaud baud
  | setDataBits dbits => LegalDataBits dbits
  | setStopBits sbits => LegalStopBits sbits
  | setParity parity => LegalParity parity
  | setFlow flow => LegalFlow flow
  | setAttr xIos => xIos.Legal

/-- What is returned for an illegal argument. -/
def refusal : SerialCall → ℤ
  | setBaudrate _ => ebadbaud
  | setAttr xIos => xIos.refusal
  | _ => -1

/-- The record with the attributes that the call sets. -/
def assigned (attr : XSerialIos) : SerialCall → XSerialIos
  | setBaudrate baud => { attr with baud := baud }
  | setDataBits dbits => { attr with dbits := dbits }
  | setStopBits sbits => { attr with sbits := sbits }
  | setParity parity => { attr with parity := parity }
  | setFlow flow => { attr with flow := flow }
  | setAttr xIos => { xIos with baud := toInt xIos.baud }

/-- The call comes to the flow control. -/
def SetsFlow : SerialCall → Prop
  | setFlow _ | setAttr _ => True
  | _ => False

end SerialCall

/-- What a call returns and makes of the record. -/
inductive SerialEffect (attr : XSerialIos) (call : SerialCall) : ℤ → XSerialIos → Prop
  | assigned (legal : call.Legal) : SerialEffect attr call 0 (call.assigned attr)
  | illegal (illegal : ¬call.Legal) : SerialEffect attr call call.refusal attr
  | refused (legal : call.Legal) : SerialEffect attr call (-1) attr
  /-- The driver has refused the flow control, and there is some other. -/
  | withoutFlow (legal : call.Legal) (isFlow : call.SetsFlow) (flow : ℤ) :
      SerialEffect attr call (-1) { call.assigned attr with flow := flow }

/-- What the calls of a run return and make of the record, one after the other. -/
inductive SerialEffects : XSerialIos → List SerialCall → List ℤ → XSerialIos → Prop
  | nil (attr : XSerialIos) : SerialEffects attr [] [] attr
  | cons {attr middle last : XSerialIos} {call : SerialCall} {calls : List SerialCall} {code : ℤ}
      {codes : List ℤ} (first : SerialEffect attr call code middle)
      (later : SerialEffects middle calls codes last) :
      SerialEffects attr (call :: calls) (code :: codes) last

/-! ### Drivers -/

/-- A request is carried out as a whole or refused as a whole. The line is a terminal, the flags of
RS-485 are apart from the `termios` structure, and a driver that has them lets RS-485 be switched
off. -/
structure SerialDriver.WholeOrNothing {Line : Type} (driver : SerialDriver Line) : Prop where
  isTerminal : ∀ line, ∃ ts, driver.tcgetattr line = some ts
  set : ∀ line ts,
    (driver.tcsetattr line ts).1 = 0 ∧
        driver.tcgetattr (driver.tcsetattr line ts).2 = some ts ∨
      (driver.tcsetattr line ts).1 = -1 ∧
        driver.tcgetattr (driver.tcsetattr line ts).2 = driver.tcgetattr line
  setApart : ∀ line ts, driver.getRs485 (driver.tcsetattr line ts).2 = driver.getRs485 line
  setRs485 : ∀ line flags,
    (driver.setRs485 line flags).1 = 0 ∧
        driver.getRs485 (driver.setRs485 line flags).2 = some flags ∨
      (driver.setRs485 line flags).1 = -1 ∧
        driver.getRs485 (driver.setRs485 line flags).2 = driver.getRs485 line
  setRs485Apart : ∀ line flags,
    driver.tcgetattr (driver.setRs485 line flags).2 = driver.tcgetattr line
  off : ∀ line, driver.getRs485 line ≠ none → (driver.setRs485 line 0).1 = 0

/-- What is got of a line. -/
structure LineHas {Line : Type} (driver : SerialDriver Line) (line : Line) (ts : Termios)
    (rs485 : Option (BitVec 32)) : Prop where
  got : driver.tcgetattr line = some ts
  flags : driver.getRs485 line = rs485

/-- The attributes of a line, and what belongs to none of them. -/
def LineShows {Line : Type} (driver : SerialDriver Line) (line : Line) (attr : XSerialIos)
    (rest : TermiosRest) : Prop :=
  ∃ ts, driver.tcgetattr line = some ts ∧
    { ts.attr with flow := eSerialGetFlow driver line } = attr ∧ ts.rest = rest

section Line

variable {Line : Type} {driver : SerialDriver Line} {line : Line} {ts : Termios}
  {rs485 : Option (BitVec 32)}

/-- The flow control that is got. -/
def flowWith (shown : ℤ) (rs485 : Option (BitVec 32)) : ℤ :=
  if shown = serialFlowNone then (rs485.map rs485Flow).getD shown else shown

/-- The flow control is that of the terminal with RS-485. -/
theorem LineHas.getFlow_eq (has : LineHas driver line ts rs485) :
    eSerialGetFlow driver line = flowWith ts.attr.flow rs485 := by
  have shown : iSerialTermiosGetFlow ts = ts.attr.flow := rfl
  rw [eSerialGetFlow, has.got]
  dsimp only
  rw [has.flags, shown, flowWith]
  cases rs485 <;> rfl

/-- The attributes that are got. -/
def attrWith (ts : Termios) (rs485 : Option (BitVec 32)) : XSerialIos :=
  { ts.attr with flow := flowWith ts.attr.flow rs485 }

/-- What a line has is what it shows. -/
theorem LineHas.shows (has : LineHas driver line ts rs485) :
    LineShows driver line (attrWith ts rs485) ts.rest := by
  refine ⟨ts, has.got, ?_, rfl⟩
  rw [has.getFlow_eq]
  rfl

/-- The attributes can be got where the speed is known. -/
theorem LineShows.get {attr : XSerialIos} {rest : TermiosRest}
    (shows : LineShows driver line attr rest) (known : 0 ≤ attr.baud) (xIos : XSerialIos) :
    iSerialGetAttr driver line xIos = (0, attr) := by
  rcases shows with ⟨ts, got, rfl, -⟩
  have knownTs : 0 ≤ ts.attr.baud := known
  rw [iSerialGetAttr, got]
  dsimp only
  rw [getAttr_eq knownTs]
  dsimp only
  rw [if_pos rfl]

/-- An illegal argument reaches no driver. -/
theorem setTermios_of_failed {set : Termios → ℤ × Termios} {code : ℤ}
    (got : driver.tcgetattr line = some ts) (failed : (set ts).1 = code) (isFailure : code ≠ 0) :
    driver.setTermios line set = (code, line) := by
  rw [SerialDriver.setTermios, got]
  dsimp only
  rw [if_neg (failed ▸ isFailure), failed]

variable (whole : driver.WholeOrNothing)
include whole

/-- A request of `tcsetattr` is carried out, or refused. -/
theorem setTermios_cases (set : Termios → ℤ × Termios) (has : LineHas driver line ts rs485)
    (legal : (set ts).1 = 0) :
    ∃ after, driver.setTermios line set = (0, after) ∧ LineHas driver after (set ts).2 rs485 ∨
      driver.setTermios line set = (-1, after) ∧ LineHas driver after ts rs485 := by
  have isSet : driver.setTermios line set = driver.tcsetattr line (set ts).2 := by
    rw [SerialDriver.setTermios, has.got]
    dsimp only
    rw [if_pos legal]
  have apart := (whole.setApart line (set ts).2).trans has.flags
  refine ⟨(driver.tcsetattr line (set ts).2).2, ?_⟩
  rcases whole.set line (set ts).2 with ⟨code, got⟩ | ⟨code, got⟩
  · exact .inl ⟨isSet.trans (Prod.ext code rfl), got, apart⟩
  · exact .inr ⟨isSet.trans (Prod.ext code rfl), got.trans has.got, apart⟩

/-- The functions that leave the flow control alone. -/
theorem setTermios_effect (has : LineHas driver line ts rs485) {set : Termios → ℤ × Termios}
    {call : SerialCall} {attr : XSerialIos} (assigns : call.Legal → Assigns ts attr (set ts))
    (sameFlow : attr.flow = ts.attr.flow)
    (assigned : call.assigned (attrWith ts rs485) =
      { attr with flow := flowWith ts.attr.flow rs485 })
    (refuses : ¬call.Legal → (set ts).1 = call.refusal) (isFailure : call.refusal ≠ 0) :
    ∃ code after last, driver.setTermios line set = (code, after) ∧
      SerialEffect (attrWith ts rs485) call code last ∧ LineShows driver after last ts.rest := by
  by_cases legal : call.Legal
  · rcases setTermios_cases whole set has (assigns legal).code with ⟨after, carried | refused⟩
    · refine ⟨0, after, call.assigned (attrWith ts rs485), carried.1, .assigned legal, ?_⟩
      have shows := carried.2.shows
      rw [attrWith, (assigns legal).attr, (assigns legal).rest, sameFlow] at shows
      rw [assigned]
      exact shows
    · exact ⟨-1, after, attrWith ts rs485, refused.1, .refused legal, refused.2.shows⟩
  · exact ⟨_, line, _, setTermios_of_failed has.got (refuses legal) isFailure,
      .illegal legal, has.shows⟩

/-- A request of RS-485, carried out or refused, leaves the terminal. -/
theorem LineHas.setRs485 (has : LineHas driver line ts rs485) (flags : BitVec 32) :
    LineHas driver (driver.setRs485 line flags).2 ts
      (driver.getRs485 (driver.setRs485 line flags).2) :=
  ⟨(whole.setRs485Apart line flags).trans has.got, rfl⟩

/-- With RS-485 switched off, or unknown, the flow control is that of the terminal. -/
theorem flowWith_off (line : Line) (flow : ℤ) :
    flowWith flow (driver.getRs485 (driver.setRs485 line 0).2) = flow := by
  rcases whole.setRs485 line 0 with ⟨-, get⟩ | ⟨code, get⟩
  · rw [get, flowWith]
    by_cases none_ : flow = serialFlowNone
    · rw [if_pos none_, none_]
      decide
    · rw [if_neg none_]
  · have unknown : driver.getRs485 line = none := by
      by_contra known
      rw [whole.off line known] at code
      exact absurd code (by decide)
    rw [get, unknown, flowWith]
    exact ite_self _

omit whole in
/-- The flags of RS-485 are read as the flow control that has asked for them. -/
theorem flowWith_rs485 {flow : ℤ} (isRs485 : IsRs485 flow) :
    flowWith (shownFlow flow) (some (if flow = serialFlowRs485RtsAfterSend then
      serRs485Enabled ||| serRs485RtsAfterSend
    else serRs485Enabled ||| serRs485RtsOnSend)) = flow := by
  rw [shownFlow, if_pos isRs485]
  rcases isRs485 with rfl | rfl <;> decide

/-- The flow control is set, or there is some other. -/
theorem setFlow_cases (has : LineHas driver line ts rs485) {flow : ℤ} (legal : LegalFlow flow) :
    ∃ after, iSerialSetFlow driver line flow = (0, after) ∧
        LineShows driver after { attrWith ts rs485 with flow := flow } ts.rest ∨
      iSerialSetFlow driver line flow = (-1, after) ∧
        ∃ other, LineShows driver after { attrWith ts rs485 with flow := other } ts.rest := by
  have failure : (-1 : ℤ) ≠ 0 := by decide
  have assigns : Assigns ts _ _ := setFlow_legal legal
  rcases setTermios_cases whole (iSerialTermiosSetFlow · flow) has assigns.code with
    ⟨middle, ⟨isSet, middleHas⟩ | ⟨isSet, same⟩⟩
  · rcases assigns with ⟨-, isAttr, isRest⟩
    have isFlow := congrArg XSerialIos.flow isAttr
    generalize (iSerialTermiosSetFlow ts flow).2 = ts' at isAttr isRest isFlow middleHas
    have afterSet (flags : BitVec 32) : LineShows driver (driver.setRs485 middle flags).2
        { attrWith ts rs485 with
          flow := flowWith (shownFlow flow) (driver.getRs485 (driver.setRs485 middle flags).2) }
        ts.rest := by
      have shows := (middleHas.setRs485 whole flags).shows
      rw [attrWith, isFlow, isAttr, isRest] at shows
      exact shows
    rw [iSerialSetFlow, isSet]
    dsimp only
    rw [if_pos rfl]
    by_cases isRs485 : IsRs485 flow
    · have back := flowWith_rs485 isRs485
      rw [if_pos isRs485]
      generalize (if flow = serialFlowRs485RtsAfterSend then
        serRs485Enabled ||| serRs485RtsAfterSend
      else serRs485Enabled ||| serRs485RtsOnSend) = flags at back ⊢
      refine ⟨(driver.setRs485 middle flags).2, ?_⟩
      have shows := afterSet flags
      rcases whole.setRs485 middle flags with ⟨code, get⟩ | ⟨code, -⟩
      · rw [get, back] at shows
        exact .inl ⟨Prod.ext code rfl, shows⟩
      · exact .inr ⟨Prod.ext code rfl, _, shows⟩
    · rw [if_neg isRs485]
      refine ⟨(driver.setRs485 middle 0).2, .inl ⟨rfl, ?_⟩⟩
      have shows := afterSet 0
      rw [flowWith_off whole, shownFlow, if_neg isRs485] at shows
      exact shows
  · refine ⟨middle, .inr ⟨?_, (attrWith ts rs485).flow, same.shows⟩⟩
    rw [iSerialSetFlow, isSet]
    dsimp only
    rw [if_neg failure]

/-- All attributes at once, of which the flow control may be refused in the end. -/
theorem setAttr_effect (has : LineHas driver line ts rs485) (xIos : XSerialIos) :
    ∃ code after last, iSerialSetAttr driver line xIos = (code, after) ∧
      SerialEffect (attrWith ts rs485) (.setAttr xIos) code last ∧
      LineShows driver after last ts.rest := by
  have failure : (-1 : ℤ) ≠ 0 := by decide
  rw [iSerialSetAttr]
  by_cases legal : xIos.Legal
  · have assigns : Assigns ts _ _ := setAttr_legal legal
    rcases setTermios_cases whole (iSerialTermiosSetAttr · xIos) has assigns.code with
      ⟨middle, ⟨isSet, middleHas⟩ | ⟨isSet, same⟩⟩
    · rw [isSet]
      dsimp only
      rw [if_pos rfl]
      have isAttr (flow : ℤ) :
          { attrWith (iSerialTermiosSetAttr ts xIos).2 rs485 with flow := flow } =
            { (SerialCall.setAttr xIos).assigned (attrWith ts rs485) with flow := flow } := by
        rw [attrWith, assigns.attr]
        rfl
      rcases setFlow_cases whole middleHas legal.flow with
        ⟨after, ⟨code, shows⟩ | ⟨code, other, shows⟩⟩
      · rw [isAttr, assigns.rest] at shows
        exact ⟨0, after, _, code, .assigned legal, shows⟩
      · rw [isAttr, assigns.rest] at shows
        have isLegal : (SerialCall.setAttr xIos).Legal := legal
        exact ⟨-1, after, _, code, .withoutFlow isLegal trivial other, shows⟩
    · refine ⟨-1, middle, _, ?_, .refused legal, same.shows⟩
      rw [isSet]
      dsimp only
      rw [if_neg failure]
  · have bad : xIos.refusal ≠ 0 := by
      rw [XSerialIos.refusal]
      split <;> decide
    refine ⟨xIos.refusal, line, _, ?_, .illegal legal, has.shows⟩
    rw [setTermios_of_failed has.got (setAttr_illegal legal) bad]
    dsimp only
    rw [if_neg bad]

/-- What each call does to a line. -/
theorem SerialCall.effect (has : LineHas driver line ts rs485) (call : SerialCall) :
    ∃ code after last, call.run driver line = (code, after) ∧
      SerialEffect (attrWith ts rs485) call code last ∧ LineShows driver after last ts.rest := by
  have failure : (-1 : ℤ) ≠ 0 := by decide
  have bad : ebadbaud ≠ 0 := by decide
  cases call with
  | setBaudrate baud =>
      exact setTermios_effect whole has setBaudrate_legal rfl rfl
        (fun illegal => congrArg Prod.fst (setBaudrate_illegal illegal)) bad
  | setDataBits dbits =>
      exact setTermios_effect whole has setDataBits_legal rfl rfl
        (fun illegal => congrArg Prod.fst (setDataBits_illegal illegal)) failure
  | setStopBits sbits =>
      exact setTermios_effect whole has setStopBits_legal rfl rfl
        (fun illegal => congrArg Prod.fst (setStopBits_illegal illegal)) failure
  | setParity parity =>
      exact setTermios_effect whole has setParity_legal rfl rfl
        (fun illegal => congrArg Prod.fst (setParity_illegal illegal)) failure
  | setFlow flow =>
      by_cases legal : LegalFlow flow
      · rcases setFlow_cases whole has legal with ⟨after, ⟨code, shows⟩ | ⟨code, other, shows⟩⟩
        · exact ⟨0, after, _, code, .assigned legal, shows⟩
        · have isLegal : (SerialCall.setFlow flow).Legal := legal
          exact ⟨-1, after, _, code, .withoutFlow isLegal trivial other, shows⟩
      · refine ⟨-1, line, _, ?_, .illegal legal, has.shows⟩
        have refused : (iSerialTermiosSetFlow ts flow).1 = -1 := by
          rw [setFlow_illegal legal]
        rw [run, iSerialSetFlow, setTermios_of_failed has.got refused failure]
        dsimp only
        rw [if_neg failure]
  | setAttr xIos => exact setAttr_effect whole has xIos

end Line

/-! ### Runs -/

/-- A call as a step of a run. -/
def serialCall {Line : Type} (driver : SerialDriver Line) (line : Line) (made : SerialCall) :
    Except Unit (Line × ℤ) :=
  .ok ((made.run driver line).2, (made.run driver line).1)

section Runs

variable {Line : Type} {driver : SerialDriver Line} {line : Line} {attr : XSerialIos}
  {rest : TermiosRest}

/-- The same of what the line shows. -/
theorem serialCall_effect (whole : driver.WholeOrNothing) (shows : LineShows driver line attr rest)
    (call : SerialCall) : ∃ after code last, serialCall driver line call = .ok (after, code) ∧
      SerialEffect attr call code last ∧ LineShows driver after last rest := by
  rcases shows with ⟨ts, got, rfl, rfl⟩
  have has : LineHas driver line ts (driver.getRs485 line) := ⟨got, rfl⟩
  rcases call.effect whole has with ⟨code, after, last, ran, effect, shows⟩
  rw [attrWith, ← has.getFlow_eq] at effect
  refine ⟨after, code, last, ?_, effect, shows⟩
  rw [serialCall, ran]

end Runs

/-- A line of which the driver knows no characters of five bits, and RS-485 or not. -/
structure Uart where
  ts : Termios
  rs485 : Option (BitVec 32)
deriving DecidableEq, Repr

/-- The driver of such a line. -/
def uart : SerialDriver Uart where
  tcgetattr line := some line.ts
  tcsetattr line ts := if ts.cflag &&& csize = cs5 then (-1, line) else (0, { line with ts })
  getRs485 line := line.rs485
  setRs485 line flags :=
    match line.rs485 with
    | some _ => (0, { line with rs485 := some flags })
    | none => (-1, line)

theorem wholeOrNothing_uart : uart.WholeOrNothing where
  isTerminal line := ⟨line.ts, rfl⟩
  set line ts := by
    simp only [uart]
    split_ifs
    · exact .inr ⟨rfl, rfl⟩
    · exact .inl ⟨rfl, rfl⟩
  setApart line ts := by
    simp only [uart]
    split_ifs <;> rfl
  setRs485 line flags := by
    rcases line with ⟨ts, _ | old⟩
    · exact .inr ⟨rfl, rfl⟩
    · exact .inl ⟨rfl, rfl⟩
  setRs485Apart line flags := by
    rcases line with ⟨ts, _ | old⟩ <;> rfl
  off line known := by
    rcases line with ⟨ts, _ | old⟩
    · exact absurd rfl known
    · rfl

/-- Lines at 115200 bauds, without and with a driver for RS-485. -/
def uartLine (rs485 : Option (BitVec 32)) : Uart :=
  ⟨⟨0x500, 5, 0x80001CB2, 0x8A3B, 1, 0, 4098, 4098⟩, rs485⟩

/-- Ignore a break. -/
def ignbrk : BitVec 32 := 0x1
/-- A break interrupts. -/
def brkint : BitVec 32 := 0x2
/-- Mark wrong parity. -/
def parmrk : BitVec 32 := 0x8
/-- Strip the eighth bit. -/
def istrip : BitVec 32 := 0x20
/-- A newline comes in as a return. -/
def inlcr : BitVec 32 := 0x40
/-- Ignore a return. -/
def igncr : BitVec 32 := 0x80
/-- A return comes in as a newline. -/
def icrnl : BitVec 32 := 0x100
/-- Process what goes out. -/
def opost : BitVec 32 := 0x1
/-- Characters give signals. -/
def isig : BitVec 32 := 0x1
/-- Read whole lines. -/
def icanon : BitVec 32 := 0x2
/-- Echo what comes in. -/
def echo : BitVec 32 := 0x8
/-- Echo an erasure. -/
def echoe : BitVec 32 := 0x10
/-- Echo a newline. -/
def echonl : BitVec 32 := 0x40
/-- Process what comes in further. -/
def iexten : BitVec 32 := 0x8000
/-- Receive at all. -/
def cread : BitVec 32 := 0x80
/-- Ignore the lines of a modem. -/
def clocal : BitVec 32 := 0x800

/-- The function of the C library. -/
def cfmakeraw (ts : Termios) : Termios :=
  { ts with
    iflag := ts.iflag &&&
      ~~~(ignbrk ||| brkint ||| parmrk ||| istrip ||| inlcr ||| igncr ||| icrnl ||| ixon)
    oflag := ts.oflag &&& ~~~opost
    lflag := ts.lflag &&& ~~~(echo ||| echonl ||| icanon ||| isig ||| iexten)
    cflag := ts.cflag &&& ~~~(csize ||| parenb) ||| cs8
    vmin := 1
    vtime := 0 }

/-- What is asked for before the attributes. -/
def makeLocal (ts : Termios) : Termios :=
  let ts := cfmakeraw ts
  { ts with
    cflag := ts.cflag ||| (clocal ||| cread)
    lflag := ts.lflag &&& ~~~(icanon ||| echo ||| echoe ||| isig ||| iexten)
    oflag := ts.oflag &&& ~~~opost }

section Opening

variable {Line : Type} (driver : SerialDriver Line)

/-- `open` has returned `fd`, or has failed. What `tcgetattr` and `tcsetattr` return is not looked
at; `unset` is what the structure has where it has not been got. -/
def iSerialOpen (unset : Termios) (fd : Option ℕ) (line : Line) (xIos : XSerialIos) : ℤ × Line :=
  match fd with
  | none => (-1, line)
  | some fd =>
      let ts := makeLocal ((driver.tcgetattr line).getD unset)
      let (iRet, ts) := iSerialTermiosSetAttr ts xIos
      if iRet < 0 then (iRet, line)
      else
        let line := (driver.tcsetattr line { ts with vmin := 0, vtime := 0 }).2
        let (iRet, line) := iSerialSetFlow driver line xIos.flow
        if iRet < 0 then (iRet, line) else (fd, line)

end Opening

/-- Bytes come and go as they are, nothing is echoed or waited for, and the lines of a modem do not
matter. -/
structure TermiosRest.Raw (rest : TermiosRest) : Prop where
  iflag : rest.iflag &&&
    (ignbrk ||| brkint ||| parmrk ||| istrip ||| inlcr ||| igncr ||| icrnl) = 0
  oflag : rest.oflag &&& opost = 0
  lflag : rest.lflag &&& (icanon ||| echo ||| echoe ||| echonl ||| isig ||| iexten) = 0
  cflag : rest.cflag &&& (clocal ||| cread) = clocal ||| cread
  vmin : rest.vmin = 0
  vtime : rest.vtime = 0

theorem and_not_and {word mask clear part : BitVec 32}
    (inside : ~~~mask &&& ~~~clear &&& part = 0) :
    word &&& ~~~mask &&& ~~~clear &&& part = 0 := by
  rw [BitVec.and_assoc, BitVec.and_assoc, ← BitVec.and_assoc (~~~mask), inside]
  exact BitVec.and_zero

/-- A local terminal is raw. -/
theorem raw_makeLocal {ts : Termios} :
    TermiosRest.Raw { (makeLocal ts).rest with vmin := 0, vtime := 0 } where
  iflag := and_not_and (by decide)
  oflag := and_not_and (by decide)
  lflag := and_not_and (by decide)
  cflag := by
    have kept : ~~~attrC &&& (clocal ||| cread) = clocal ||| cread := by decide
    change ((_ ||| (clocal ||| cread)) &&& ~~~attrC) &&& (clocal ||| cread) = _
    rw [BitVec.and_assoc, kept, or_eq_replaceBits]
    exact replaceBits_and_mask (BitVec.and_self)
  vmin := rfl
  vtime := rfl

section Session

variable {Line : Type} {driver : SerialDriver Line} {line : Line} {xIos : XSerialIos}
  (unset : Termios) (fd : ℕ)

/-- Nothing is asked of the driver with illegal attributes. -/
theorem iSerialOpen_of_illegal (illegal : ¬xIos.Legal) :
    iSerialOpen driver unset (some fd) line xIos = (xIos.refusal, line) := by
  have negative : xIos.refusal < 0 := by
    rw [XSerialIos.refusal]
    split <;> decide
  rw [iSerialOpen]
  dsimp only
  rw [setAttr_illegal illegal, if_pos negative]

/-- A driver that accepts every terminal, and RS-485 if need be, refuses no flow control. -/
theorem setFlow_obliged (whole : driver.WholeOrNothing)
    (obliging : ∀ line ts, (driver.tcsetattr line ts).1 = 0) (line : Line) {flow : ℤ}
    (legal : LegalFlow flow)
    (knowsRs485 : IsRs485 flow → ∀ line flags, (driver.setRs485 line flags).1 = 0) :
    (iSerialSetFlow driver line flow).1 = 0 := by
  rcases whole.isTerminal line with ⟨ts, got⟩
  have assigns : Assigns ts _ _ := setFlow_legal legal
  have code : (driver.setTermios line (iSerialTermiosSetFlow · flow)).1 = 0 := by
    rw [SerialDriver.setTermios, got]
    dsimp only
    rw [if_pos assigns.code]
    exact obliging _ _
  rw [iSerialSetFlow]
  dsimp only
  rw [if_pos code]
  by_cases isRs485 : IsRs485 flow
  · rw [if_pos isRs485]
    exact knowsRs485 isRs485 _ _
  · rw [if_neg isRs485]
    exact code

end Session

/-- A driver that knows RS-485 and refuses nothing. -/
def rs485Uart : SerialDriver (Termios × BitVec 32) where
  tcgetattr line := some line.1
  tcsetattr line ts := (0, (ts, line.2))
  getRs485 line := some line.2
  setRs485 line flags := (0, (line.1, flags))

theorem wholeOrNothing_rs485Uart : rs485Uart.WholeOrNothing where
  isTerminal line := ⟨line.1, rfl⟩
  set _ _ := .inl ⟨rfl, rfl⟩
  setApart _ _ := rfl
  setRs485 _ _ := .inl ⟨rfl, rfl⟩
  setRs485Apart _ _ := rfl
  off _ _ := rfl

end Sysio.Unix
