import Sysio.Lib.Bits
import Mathlib.Algebra.Order.Ring.Int

/-!
# The attributes of a terminal

The functions of `unix/serial.c` on a `struct termios`. The speeds are apart from the flags, as the
functions of the C library that set and get them show them. The attributes of a terminal are what
the functions that get them return; each function that sets one leaves the others, and all flags
that belong to none of them.
-/

namespace Sysio.Unix

/-- The `struct termios` of the C library. -/
structure Termios where
  iflag : BitVec 32
  oflag : BitVec 32
  cflag : BitVec 32
  lflag : BitVec 32
  vmin : UInt8
  vtime : UInt8
  ispeed : BitVec 32
  ospeed : BitVec 32
deriving DecidableEq, Repr

/-- Check the parity of what comes in. -/
def inpck : BitVec 32 := 0x10
/-- The other side may stop what goes out. -/
def ixon : BitVec 32 := 0x400
/-- Any character starts it again. -/
def ixany : BitVec 32 := 0x800
/-- The other side is told to stop. -/
def ixoff : BitVec 32 := 0x1000
/-- The bits of the size of a character. -/
def csize : BitVec 32 := 0x30
/-- Five bits. -/
def cs5 : BitVec 32 := 0x00
/-- Six bits. -/
def cs6 : BitVec 32 := 0x10
/-- Seven bits. -/
def cs7 : BitVec 32 := 0x20
/-- Eight bits. -/
def cs8 : BitVec 32 := 0x30
/-- Two stop bits. -/
def cstopb : BitVec 32 := 0x40
/-- There is a parity bit. -/
def parenb : BitVec 32 := 0x100
/-- The parity is odd. -/
def parodd : BitVec 32 := 0x200
/-- The flow control of the lines RTS and CTS. -/
def crtscts : BitVec 32 := 0x80000000

/-- What a baud rate that is not in the table returns. -/
def ebadbaud : ℤ := -2

/-- The letter `N`. -/
def serialParityNone : ℤ := 0x4E
/-- The letter `E`. -/
def serialParityEven : ℤ := 0x45
/-- The letter `O`. -/
def serialParityOdd : ℤ := 0x4F
/-- No flow control: a space. -/
def serialFlowNone : ℤ := 0x20
/-- By the lines: the letter `H`. -/
def serialFlowRtscts : ℤ := 0x48
/-- By characters: the letter `S`. -/
def serialFlowXonxoff : ℤ := 0x53
/-- RS-485, with RTS set after sending: the letter `R`. -/
def serialFlowRs485RtsAfterSend : ℤ := 0x52
/-- RS-485, with RTS set while sending: the letter `r`. -/
def serialFlowRs485RtsOnSend : ℤ := 0x72
/-- Flags of RS-485 that stand for neither of both. -/
def serialFlowUnknown : ℤ := -1

/-- The attributes of a line, as a caller gives and gets them. -/
structure XSerialIos where
  baud : ℤ
  dbits : ℤ
  parity : ℤ
  sbits : ℤ
  flow : ℤ
deriving DecidableEq, Repr

/-- What a `long` is as an `int`. -/
def toInt (baud : ℤ) : ℤ := (BitVec.ofInt 32 baud).toInt

/-- The cases of both `switch`es, `B0` to `B4000000`. -/
def speeds : List (ℤ × BitVec 32) :=
  [(0, 0), (50, 1), (75, 2), (110, 3), (134, 4), (150, 5), (200, 6), (300, 7), (600, 8), (1200, 9),
    (1800, 10), (2400, 11), (4800, 12), (9600, 13), (19200, 14), (38400, 15), (57600, 4097),
    (115200, 4098), (230400, 4099), (460800, 4100), (500000, 4101), (576000, 4102), (921600, 4103),
    (1000000, 4104), (1152000, 4105), (1500000, 4106), (2000000, 4107), (2500000, 4108),
    (3000000, 4109), (3500000, 4110), (4000000, 4111)]

/-- The baud rate of a `speed_t`, or -1. -/
def iSerialSpeedToInt (speed : BitVec 32) : ℤ :=
  ((speeds.find? fun entry => entry.2 = speed).map Prod.fst).getD (-1)

/-- `-1` is a `speed_t` without a sign. -/
def eSerialIntToSpeed (baud : ℤ) : BitVec 32 :=
  ((speeds.find? fun entry => entry.1 = baud).map Prod.snd).getD (BitVec.allOnes 32)

/-! ### Setting -/

/-- Both speeds, if the rate is in the table. -/
def iSerialTermiosSetBaudrate (ts : Termios) (iBaudrate : ℤ) : ℤ × Termios :=
  let s := eSerialIntToSpeed iBaudrate
  if s ≠ BitVec.allOnes 32 then (0, { ts with ispeed := s, ospeed := s })
  else (ebadbaud, ts)

/-- The size of a character, if it is one of four. -/
def iSerialTermiosSetDataBits (ts : Termios) (eDataBits : ℤ) : ℤ × Termios :=
  match eDataBits with
  | 5 => (0, { ts with cflag := ts.cflag &&& ~~~csize ||| cs5 })
  | 6 => (0, { ts with cflag := ts.cflag &&& ~~~csize ||| cs6 })
  | 7 => (0, { ts with cflag := ts.cflag &&& ~~~csize ||| cs7 })
  | 8 => (0, { ts with cflag := ts.cflag &&& ~~~csize ||| cs8 })
  | _ => (-1, ts)

/-- One stop bit or two. -/
def iSerialTermiosSetStopBits (ts : Termios) (eStopBits : ℤ) : ℤ × Termios :=
  match eStopBits with
  | 1 => (0, { ts with cflag := ts.cflag &&& ~~~cstopb })
  | 2 => (0, { ts with cflag := ts.cflag ||| cstopb })
  | _ => (-1, ts)

/-- The parity bit, and whether it is checked. -/
def iSerialTermiosSetParity (ts : Termios) (eParity : ℤ) : ℤ × Termios :=
  if eParity = serialParityNone then
    (0, { ts with cflag := ts.cflag &&& ~~~(parenb ||| parodd), iflag := ts.iflag &&& ~~~inpck })
  else if eParity = serialParityEven then
    (0, { ts with cflag := ts.cflag &&& ~~~parodd ||| parenb, iflag := ts.iflag ||| inpck })
  else if eParity = serialParityOdd then
    (0, { ts with cflag := ts.cflag ||| (parenb ||| parodd), iflag := ts.iflag ||| inpck })
  else (-1, ts)

/-- The flow control by lines or by characters; RS-485 has neither. -/
def iSerialTermiosSetFlow (ts : Termios) (eFlow : ℤ) : ℤ × Termios :=
  if eFlow = serialFlowNone ∨ eFlow = serialFlowRs485RtsAfterSend ∨
      eFlow = serialFlowRs485RtsOnSend then
    (0, { ts with
      cflag := ts.cflag &&& ~~~crtscts
      iflag := ts.iflag &&& ~~~(ixon ||| ixoff ||| ixany) })
  else if eFlow = serialFlowRtscts then
    (0, { ts with
      cflag := ts.cflag ||| crtscts
      iflag := ts.iflag &&& ~~~(ixon ||| ixoff ||| ixany) })
  else if eFlow = serialFlowXonxoff then
    (0, { ts with
      iflag := ts.iflag ||| (ixon ||| ixoff ||| ixany)
      cflag := ts.cflag &&& ~~~crtscts })
  else (-1, ts)

/-- `if (iRet == 0) iRet = next (ts);` -/
def ifDone (done : ℤ × Termios) (next : Termios → ℤ × Termios) : ℤ × Termios :=
  if done.1 = 0 then next done.2 else done

/-- All attributes, up to the first that is refused. -/
def iSerialTermiosSetAttr (ts : Termios) (xIos : XSerialIos) : ℤ × Termios :=
  let baud := iSerialTermiosSetBaudrate ts (toInt xIos.baud)
  let dbits := ifDone baud (iSerialTermiosSetDataBits · xIos.dbits)
  let parity := ifDone dbits (iSerialTermiosSetParity · xIos.parity)
  let sbits := ifDone parity (iSerialTermiosSetStopBits · xIos.sbits)
  ifDone sbits (iSerialTermiosSetFlow · xIos.flow)

/-! ### Getting -/

/-- The baud rate, of the speed of what goes out. -/
def iSerialTermiosGetBaudrate (ts : Termios) : ℤ := iSerialSpeedToInt ts.ospeed

/-- The size that the bits under `csize` stand for. -/
def dataBitsOf (size : BitVec 32) : ℤ :=
  if size = cs5 then 5 else if size = cs6 then 6 else if size = cs7 then 7
  else if size = cs8 then 8 else -1

/-- The size of a character. -/
def iSerialTermiosGetDataBits (ts : Termios) : ℤ := dataBitsOf (ts.cflag &&& csize)

/-- The number of stop bits that the bit `cstopb` stands for. -/
def stopBitsOf (stop : BitVec 32) : ℤ := if stop ≠ 0 then 2 else 1

/-- The number of stop bits. -/
def iSerialTermiosGetStopBits (ts : Termios) : ℤ := stopBitsOf (ts.cflag &&& cstopb)

/-- The parity that its two bits stand for. -/
def parityOf (bits : BitVec 32) : ℤ :=
  if bits = parenb then serialParityEven
  else if bits = parenb ||| parodd then serialParityOdd
  else serialParityNone

/-- The parity. -/
def iSerialTermiosGetParity (ts : Termios) : ℤ := parityOf (ts.cflag &&& (parenb ||| parodd))

/-- The flow control that the bits of the lines and of the characters stand for. -/
def flowOf (rts soft : BitVec 32) : ℤ :=
  if rts ≠ 0 then serialFlowRtscts else if soft ≠ 0 then serialFlowXonxoff
  else serialFlowNone

/-- The flow control, as far as a terminal shows it. -/
def iSerialTermiosGetFlow (ts : Termios) : ℤ :=
  flowOf (ts.cflag &&& crtscts) (ts.iflag &&& (ixon ||| ixoff ||| ixany))

/-- The result, and the attributes in place of what the structure has before. -/
def iSerialTermiosGetAttr (ts : Termios) (xIos : XSerialIos) : ℤ × XSerialIos :=
  let iRet := iSerialTermiosGetBaudrate ts
  if iRet ≥ 0 then
    let xIos := { xIos with baud := iRet }
    let iRet := iSerialTermiosGetDataBits ts
    if iRet ≥ 0 then
      let xIos := { xIos with dbits := iRet }
      let iRet := iSerialTermiosGetParity ts
      if iRet ≥ 0 then
        let xIos := { xIos with parity := iRet }
        let iRet := iSerialTermiosGetStopBits ts
        if iRet ≥ 0 then
          let xIos := { xIos with sbits := iRet }
          let iRet := iSerialTermiosGetFlow ts
          if iRet ≥ 0 then (0, { xIos with flow := iRet }) else (iRet, xIos)
        else (iRet, xIos)
      else (iRet, xIos)
    else (iRet, xIos)
  else (iRet, xIos)

/-! ### The attributes of a terminal -/

/-- What the functions that get an attribute return. -/
def Termios.attr (ts : Termios) : XSerialIos :=
  ⟨iSerialTermiosGetBaudrate ts, iSerialTermiosGetDataBits ts, iSerialTermiosGetParity ts,
    iSerialTermiosGetStopBits ts, iSerialTermiosGetFlow ts⟩

/-- The flags of the attributes. -/
def attrC : BitVec 32 := csize ||| cstopb ||| parenb ||| parodd ||| crtscts

/-- The flags of the attributes among those of what comes in. -/
def attrI : BitVec 32 := inpck ||| ixon ||| ixoff ||| ixany

/-- What belongs to no attribute. -/
structure TermiosRest where
  iflag : BitVec 32
  oflag : BitVec 32
  cflag : BitVec 32
  lflag : BitVec 32
  vmin : UInt8
  vtime : UInt8
deriving DecidableEq, Repr

/-- The terminal without its attributes. -/
def Termios.rest (ts : Termios) : TermiosRest :=
  ⟨ts.iflag &&& ~~~attrI, ts.oflag, ts.cflag &&& ~~~attrC, ts.lflag, ts.vmin, ts.vtime⟩

/-- The terminal taken apart: what each attribute is read from, and the rest. -/
structure TermiosParts where
  speed : BitVec 32
  size : BitVec 32
  parity : BitVec 32
  stop : BitVec 32
  rts : BitVec 32
  soft : BitVec 32
  rest : TermiosRest
deriving DecidableEq, Repr

/-- The parts of a terminal. -/
def Termios.parts (ts : Termios) : TermiosParts :=
  ⟨ts.ospeed, ts.cflag &&& csize, ts.cflag &&& (parenb ||| parodd), ts.cflag &&& cstopb,
    ts.cflag &&& crtscts, ts.iflag &&& (ixon ||| ixoff ||| ixany), ts.rest⟩

/-- The attributes, each from its part. -/
def TermiosParts.attr (parts : TermiosParts) : XSerialIos :=
  ⟨iSerialSpeedToInt parts.speed, dataBitsOf parts.size, parityOf parts.parity,
    stopBitsOf parts.stop, flowOf parts.rts parts.soft⟩

/-- Each attribute is read from its own part. -/
theorem attr_eq (ts : Termios) : ts.attr = ts.parts.attr := rfl

section Parts

variable {ts : Termios}

/-- The size is written to its own part. -/
theorem parts_size {code : BitVec 32} (inside : code &&& csize = code) :
    ({ ts with cflag := replaceBits ts.cflag csize code } : Termios).parts =
      { ts.parts with size := code } := by
  simp (disch := first | exact inside | decide) only [Termios.parts, Termios.rest,
    replaceBits_and_mask, replaceBits_and_of_disjoint inside]

/-- The stop bits are written to their own part. -/
theorem parts_stop {code : BitVec 32} (inside : code &&& cstopb = code) :
    ({ ts with cflag := replaceBits ts.cflag cstopb code } : Termios).parts =
      { ts.parts with stop := code } := by
  simp (disch := first | exact inside | decide) only [Termios.parts, Termios.rest,
    replaceBits_and_mask, replaceBits_and_of_disjoint inside]

/-- The parity is written to its own part. -/
theorem parts_parity {code check : BitVec 32} (inside : code &&& (parenb ||| parodd) = code)
    (insideI : check &&& inpck = check) :
    ({ ts with
        cflag := replaceBits ts.cflag (parenb ||| parodd) code
        iflag := replaceBits ts.iflag inpck check } : Termios).parts =
      { ts.parts with parity := code } := by
  simp (disch := first | exact inside | decide) only [Termios.parts, Termios.rest,
    replaceBits_and_mask, replaceBits_and_of_disjoint inside, replaceBits_and_of_disjoint insideI]

/-- The flow control is written to its own two parts. -/
theorem parts_flow {rts soft : BitVec 32} (inside : rts &&& crtscts = rts)
    (insideI : soft &&& (ixon ||| ixoff ||| ixany) = soft) :
    ({ ts with
        cflag := replaceBits ts.cflag crtscts rts
        iflag := replaceBits ts.iflag (ixon ||| ixoff ||| ixany) soft } : Termios).parts =
      { ts.parts with rts, soft } := by
  simp (disch := first | exact inside | exact insideI | decide) only [Termios.parts, Termios.rest,
    replaceBits_and_mask, replaceBits_and_of_disjoint inside, replaceBits_and_of_disjoint insideI]

end Parts

/-! ### What is got -/

theorem and_size_eq {word code : BitVec 32} (inside : code &&& csize = code)
    (four : word.getLsbD 4 = code.getLsbD 4) (five : word.getLsbD 5 = code.getLsbD 5) :
    word &&& csize = code := by
  have mask : ∀ i < 32, i ≠ 4 → i ≠ 5 → csize.getLsbD i = false := by decide
  apply BitVec.eq_of_getLsbD_eq
  intro i small
  rw [← inside, BitVec.getLsbD_and, BitVec.getLsbD_and]
  by_cases isFour : i = 4
  · rw [isFour, four]
  · by_cases isFive : i = 5
    · rw [isFive, five]
    · rw [mask i small isFour isFive, Bool.and_false, Bool.and_false]

/-- Every size is one of the four. -/
theorem getDataBits_legal (ts : Termios) :
    iSerialTermiosGetDataBits ts ∈ ([5, 6, 7, 8] : List ℤ) := by
  rw [iSerialTermiosGetDataBits]
  cases four : ts.cflag.getLsbD 4 with
  | false =>
      cases five : ts.cflag.getLsbD 5 with
      | false =>
          rw [@and_size_eq ts.cflag cs5 (by decide) four five]
          decide
      | true =>
          rw [@and_size_eq ts.cflag cs7 (by decide) four five]
          decide
  | true =>
      cases five : ts.cflag.getLsbD 5 with
      | false =>
          rw [@and_size_eq ts.cflag cs6 (by decide) four five]
          decide
      | true =>
          rw [@and_size_eq ts.cflag cs8 (by decide) four five]
          decide

/-- Only an unknown speed cannot be got. -/
theorem getAttr_eq {ts : Termios} (known : 0 ≤ ts.attr.baud) (xIos : XSerialIos) :
    iSerialTermiosGetAttr ts xIos = (0, ts.attr) := by
  have baud : iSerialTermiosGetBaudrate ts ≥ 0 := known
  have dbits : iSerialTermiosGetDataBits ts ≥ 0 := by
    have legal := getDataBits_legal ts
    simp only [List.mem_cons, List.not_mem_nil, or_false] at legal
    omega
  have parity : iSerialTermiosGetParity ts ≥ 0 := by
    rw [iSerialTermiosGetParity, parityOf]
    split
    · decide
    · split <;> decide
  have sbits : iSerialTermiosGetStopBits ts ≥ 0 := by
    rw [iSerialTermiosGetStopBits, stopBitsOf]
    split <;> decide
  have flow : iSerialTermiosGetFlow ts ≥ 0 := by
    rw [iSerialTermiosGetFlow, flowOf]
    split
    · decide
    · split <;> decide
  rw [iSerialTermiosGetAttr]
  dsimp only
  rw [if_pos baud, if_pos dbits, if_pos parity, if_pos sbits, if_pos flow]
  rfl

/-! ### What is assigned -/

/-- The baud rate is in the table. -/
def LegalBaud (baud : ℤ) : Prop := baud ∈ speeds.map Prod.fst

instance (baud : ℤ) : Decidable (LegalBaud baud) := inferInstanceAs (Decidable (_ ∈ _))

/-- A character has five to eight bits. -/
def LegalDataBits (dbits : ℤ) : Prop := dbits ∈ ([5, 6, 7, 8] : List ℤ)

instance (dbits : ℤ) : Decidable (LegalDataBits dbits) := inferInstanceAs (Decidable (_ ∈ _))

/-- The parity is one of three letters. -/
def LegalParity (parity : ℤ) : Prop :=
  parity ∈ [serialParityNone, serialParityEven, serialParityOdd]

instance (parity : ℤ) : Decidable (LegalParity parity) := inferInstanceAs (Decidable (_ ∈ _))

/-- There are one or two stop bits. -/
def LegalStopBits (sbits : ℤ) : Prop := sbits ∈ ([1, 2] : List ℤ)

instance (sbits : ℤ) : Decidable (LegalStopBits sbits) := inferInstanceAs (Decidable (_ ∈ _))

/-- The flow control is that of RS-485. -/
def IsRs485 (flow : ℤ) : Prop :=
  flow = serialFlowRs485RtsAfterSend ∨ flow = serialFlowRs485RtsOnSend

instance (flow : ℤ) : Decidable (IsRs485 flow) := inferInstanceAs (Decidable (_ ∨ _))

/-- The flow control is one of five letters. -/
def LegalFlow (flow : ℤ) : Prop :=
  flow ∈ [serialFlowNone, serialFlowRtscts, serialFlowXonxoff] ∨ IsRs485 flow

instance (flow : ℤ) : Decidable (LegalFlow flow) := inferInstanceAs (Decidable (_ ∨ _))

/-- What a terminal shows of the flow control: nothing of RS-485. -/
def shownFlow (flow : ℤ) : ℤ := if IsRs485 flow then serialFlowNone else flow

/-- A function returns 0 and has assigned these attributes, and nothing else. -/
structure Assigns (ts : Termios) (attr : XSerialIos) (result : ℤ × Termios) : Prop where
  code : result.1 = 0
  attr : result.2.attr = attr
  rest : result.2.rest = ts.rest

section Assigns

variable {ts : Termios}

/-- A function is judged by the parts that it leaves. -/
theorem assigns_of_parts {ts' : Termios} {parts : TermiosParts} {attr : XSerialIos}
    (isParts : ts'.parts = parts) (isAttr : parts.attr = attr) (isRest : parts.rest = ts.rest) :
    Assigns ts attr (0, ts') := by
  refine ⟨rfl, ?_, ?_⟩
  · rw [attr_eq, isParts, isAttr]
  · exact (congrArg TermiosParts.rest isParts).trans isRest

theorem setBaudrate_legal {baud : ℤ} (legal : LegalBaud baud) :
    Assigns ts { ts.attr with baud := baud } (iSerialTermiosSetBaudrate ts baud) := by
  have known : ∀ entry ∈ speeds, eSerialIntToSpeed entry.1 = entry.2 ∧
      entry.2 ≠ BitVec.allOnes 32 ∧ iSerialSpeedToInt entry.2 = entry.1 := by decide
  rcases List.mem_map.mp legal with ⟨⟨_, speed⟩, isEntry, rfl⟩
  rcases known _ isEntry with ⟨isSpeed, isValid, back⟩
  rw [iSerialTermiosSetBaudrate, isSpeed]
  dsimp only
  rw [if_pos isValid]
  exact ⟨rfl, congrArg (fun baud => { ts.attr with baud := baud }) back, rfl⟩

theorem setBaudrate_illegal {baud : ℤ} (illegal : ¬LegalBaud baud) :
    iSerialTermiosSetBaudrate ts baud = (ebadbaud, ts) := by
  have none_ : speeds.find? (fun entry => entry.1 = baud) = none := by
    rw [List.find?_eq_none]
    intro entry isEntry isBaud
    exact illegal (List.mem_map.mpr ⟨entry, isEntry, of_decide_eq_true isBaud⟩)
  rw [iSerialTermiosSetBaudrate, eSerialIntToSpeed, none_]
  rfl

theorem setDataBits_legal {dbits : ℤ} (legal : LegalDataBits dbits) :
    Assigns ts { ts.attr with dbits := dbits } (iSerialTermiosSetDataBits ts dbits) := by
  simp only [LegalDataBits, List.mem_cons, List.not_mem_nil, or_false] at legal
  rcases legal with rfl | rfl | rfl | rfl
  · exact assigns_of_parts (parts_size (by decide : cs5 &&& csize = cs5)) rfl rfl
  · exact assigns_of_parts (parts_size (by decide : cs6 &&& csize = cs6)) rfl rfl
  · exact assigns_of_parts (parts_size (by decide : cs7 &&& csize = cs7)) rfl rfl
  · exact assigns_of_parts (parts_size (by decide : cs8 &&& csize = cs8)) rfl rfl

theorem setDataBits_illegal {dbits : ℤ} (illegal : ¬LegalDataBits dbits) :
    iSerialTermiosSetDataBits ts dbits = (-1, ts) := by
  rw [iSerialTermiosSetDataBits]
  all_goals
    rintro rfl
    exact illegal (by decide)

theorem setStopBits_legal {sbits : ℤ} (legal : LegalStopBits sbits) :
    Assigns ts { ts.attr with sbits := sbits } (iSerialTermiosSetStopBits ts sbits) := by
  simp only [LegalStopBits, List.mem_cons, List.not_mem_nil, or_false] at legal
  rcases legal with rfl | rfl
  · change Assigns ts _ (0, { ts with cflag := ts.cflag &&& ~~~cstopb })
    rw [and_not_eq_replaceBits]
    exact assigns_of_parts (parts_stop (by decide)) rfl rfl
  · change Assigns ts _ (0, { ts with cflag := ts.cflag ||| cstopb })
    rw [or_eq_replaceBits]
    exact assigns_of_parts (parts_stop (by decide)) rfl rfl

theorem setStopBits_illegal {sbits : ℤ} (illegal : ¬LegalStopBits sbits) :
    iSerialTermiosSetStopBits ts sbits = (-1, ts) := by
  rw [iSerialTermiosSetStopBits]
  all_goals
    rintro rfl
    exact illegal (by decide)

theorem setParity_legal {parity : ℤ} (legal : LegalParity parity) :
    Assigns ts { ts.attr with parity := parity } (iSerialTermiosSetParity ts parity) := by
  simp only [LegalParity, List.mem_cons, List.not_mem_nil, or_false] at legal
  rcases legal with rfl | rfl | rfl
  · change Assigns ts _ (0, { ts with
      cflag := ts.cflag &&& ~~~(parenb ||| parodd), iflag := ts.iflag &&& ~~~inpck })
    rw [and_not_eq_replaceBits, and_not_eq_replaceBits]
    exact assigns_of_parts (parts_parity (by decide) (by decide)) rfl rfl
  · have mask : parodd ||| parenb = parenb ||| parodd := by decide
    change Assigns ts _ (0, { ts with
      cflag := replaceBits ts.cflag parodd parenb, iflag := ts.iflag ||| inpck })
    rw [replaceBits_eq_or, or_eq_replaceBits, mask]
    exact assigns_of_parts (parts_parity (by decide) (by decide)) rfl rfl
  · change Assigns ts _ (0, { ts with
      cflag := ts.cflag ||| (parenb ||| parodd), iflag := ts.iflag ||| inpck })
    rw [or_eq_replaceBits ts.cflag, or_eq_replaceBits ts.iflag]
    exact assigns_of_parts (parts_parity (by decide) (by decide)) rfl rfl

theorem setParity_illegal {parity : ℤ} (illegal : ¬LegalParity parity) :
    iSerialTermiosSetParity ts parity = (-1, ts) := by
  simp only [LegalParity, List.mem_cons, List.not_mem_nil, or_false, not_or] at illegal
  rw [iSerialTermiosSetParity, if_neg illegal.1, if_neg illegal.2.1, if_neg illegal.2.2]

/-- RS-485 is no flow control of the terminal. -/
theorem setFlow_none {flow : ℤ}
    (none_ : flow = serialFlowNone ∨ flow = serialFlowRs485RtsAfterSend ∨
      flow = serialFlowRs485RtsOnSend) :
    Assigns ts { ts.attr with flow := serialFlowNone } (iSerialTermiosSetFlow ts flow) := by
  have isResult : iSerialTermiosSetFlow ts flow = (0, { ts with
      cflag := ts.cflag &&& ~~~crtscts
      iflag := ts.iflag &&& ~~~(ixon ||| ixoff ||| ixany) }) := if_pos none_
  rw [isResult, and_not_eq_replaceBits, and_not_eq_replaceBits]
  exact assigns_of_parts (@parts_flow ts 0 0 (by decide) (by decide)) rfl rfl

theorem setFlow_legal {flow : ℤ} (legal : LegalFlow flow) :
    Assigns ts { ts.attr with flow := shownFlow flow } (iSerialTermiosSetFlow ts flow) := by
  simp only [LegalFlow, List.mem_cons, List.not_mem_nil, or_false] at legal
  rcases legal with (rfl | rfl | rfl) | rs485
  · exact setFlow_none (.inl rfl)
  · change Assigns ts _ (0, { ts with
      cflag := ts.cflag ||| crtscts, iflag := ts.iflag &&& ~~~(ixon ||| ixoff ||| ixany) })
    rw [or_eq_replaceBits ts.cflag, and_not_eq_replaceBits]
    exact assigns_of_parts (parts_flow (by decide) (by decide)) rfl rfl
  · change Assigns ts _ (0, { ts with
      iflag := ts.iflag ||| (ixon ||| ixoff ||| ixany), cflag := ts.cflag &&& ~~~crtscts })
    rw [or_eq_replaceBits ts.iflag, and_not_eq_replaceBits]
    exact assigns_of_parts (parts_flow (by decide) (by decide)) rfl rfl
  · rw [shownFlow, if_pos rs485]
    exact setFlow_none (.inr rs485)

theorem setFlow_illegal {flow : ℤ} (illegal : ¬LegalFlow flow) :
    iSerialTermiosSetFlow ts flow = (-1, ts) := by
  simp only [LegalFlow, IsRs485, List.mem_cons, List.not_mem_nil, or_false, not_or] at illegal
  rcases illegal with ⟨⟨none_, rtscts, xonxoff⟩, after, on⟩
  have other : ¬(flow = serialFlowNone ∨ flow = serialFlowRs485RtsAfterSend ∨
      flow = serialFlowRs485RtsOnSend) := by
    rw [not_or, not_or]
    exact ⟨none_, after, on⟩
  rw [iSerialTermiosSetFlow, if_neg other, if_neg rtscts, if_neg xonxoff]

end Assigns

/-- The attributes that are asked for can be had. -/
structure XSerialIos.Legal (xIos : XSerialIos) : Prop where
  baud : LegalBaud (toInt xIos.baud)
  dbits : LegalDataBits xIos.dbits
  parity : LegalParity xIos.parity
  sbits : LegalStopBits xIos.sbits
  flow : LegalFlow xIos.flow

/-- As the terminal shows them. -/
def XSerialIos.shown (xIos : XSerialIos) : XSerialIos :=
  { xIos with baud := toInt xIos.baud, flow := shownFlow xIos.flow }

/-- What is returned where one of them cannot. -/
def XSerialIos.refusal (xIos : XSerialIos) : ℤ :=
  if LegalBaud (toInt xIos.baud) then -1 else ebadbaud

section SetAttr

variable {ts : Termios} {xIos : XSerialIos}

/-- Two functions in a row assign what both assign. -/
theorem Assigns.ifDone {attr : XSerialIos} {done : ℤ × Termios} {next : Termios → ℤ × Termios}
    (change : XSerialIos → XSerialIos) (assigns : Assigns ts attr done)
    (assignsNext : ∀ ts, Assigns ts (change ts.attr) (next ts)) :
    Assigns ts (change attr) (ifDone done next) := by
  rcases assignsNext done.2 with ⟨code, isAttr, isRest⟩
  rw [Unix.ifDone, if_pos assigns.code]
  exact ⟨code, isAttr.trans (congrArg change assigns.attr), isRest.trans assigns.rest⟩

/-- Legal attributes are assigned together. -/
theorem setAttr_legal (legal : xIos.Legal) :
    Assigns ts xIos.shown (iSerialTermiosSetAttr ts xIos) := by
  have baud : Assigns ts _ _ := setBaudrate_legal legal.baud
  have dbits := baud.ifDone (fun attr => { attr with dbits := xIos.dbits }) fun _ =>
    setDataBits_legal legal.dbits
  have parity := dbits.ifDone (fun attr => { attr with parity := xIos.parity }) fun _ =>
    setParity_legal legal.parity
  have sbits := parity.ifDone (fun attr => { attr with sbits := xIos.sbits }) fun _ =>
    setStopBits_legal legal.sbits
  exact sbits.ifDone (fun attr => { attr with flow := shownFlow xIos.flow }) fun _ =>
    setFlow_legal legal.flow

theorem ifDone_of_failed {done : ℤ × Termios} {next : Termios → ℤ × Termios} {code : ℤ}
    (failed : done.1 = code) (isFailure : code ≠ 0) : (ifDone done next).1 = code := by
  rw [ifDone, if_neg (failed ▸ isFailure)]
  exact failed

theorem ifDone_of_refused {done : ℤ × Termios} {next : Termios → ℤ × Termios} {attr : XSerialIos}
    (assigns : Assigns ts attr done) (refused : next done.2 = (-1, done.2)) :
    (ifDone done next).1 = -1 := by
  rw [ifDone, if_pos assigns.code, refused]

/-- The first illegal attribute is what is returned. -/
theorem setAttr_illegal (illegal : ¬xIos.Legal) :
    (iSerialTermiosSetAttr ts xIos).1 = xIos.refusal := by
  have failure : (-1 : ℤ) ≠ 0 := by decide
  rw [XSerialIos.refusal]
  by_cases isBaud : LegalBaud (toInt xIos.baud)
  · rw [if_pos isBaud]
    have baud : Assigns ts _ _ := setBaudrate_legal isBaud
    by_cases isDbits : LegalDataBits xIos.dbits
    · have dbits := baud.ifDone (fun attr => { attr with dbits := xIos.dbits }) fun _ =>
        setDataBits_legal isDbits
      by_cases isParity : LegalParity xIos.parity
      · have parity := dbits.ifDone (fun attr => { attr with parity := xIos.parity }) fun _ =>
          setParity_legal isParity
        by_cases isSbits : LegalStopBits xIos.sbits
        · have sbits := parity.ifDone (fun attr => { attr with sbits := xIos.sbits }) fun _ =>
            setStopBits_legal isSbits
          apply ifDone_of_refused sbits
          apply setFlow_illegal
          exact fun isFlow => illegal ⟨isBaud, isDbits, isParity, isSbits, isFlow⟩
        · exact ifDone_of_failed (ifDone_of_refused parity (setStopBits_illegal isSbits)) failure
      · apply ifDone_of_failed _ failure
        exact ifDone_of_failed (ifDone_of_refused dbits (setParity_illegal isParity)) failure
    · apply ifDone_of_failed _ failure
      apply ifDone_of_failed _ failure
      exact ifDone_of_failed (ifDone_of_refused baud (setDataBits_illegal isDbits)) failure
  · rw [if_neg isBaud]
    have refused : (iSerialTermiosSetBaudrate ts (toInt xIos.baud)).1 = ebadbaud := by
      rw [setBaudrate_illegal isBaud]
    have bad : ebadbaud ≠ 0 := by decide
    apply ifDone_of_failed _ bad
    apply ifDone_of_failed _ bad
    apply ifDone_of_failed _ bad
    exact ifDone_of_failed refused bad

end SetAttr

end Sysio.Unix
