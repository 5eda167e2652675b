import Sysio.Lib.Bits
import Sysio.XBee.Packets

/-!
# The samples of an I/O packet

A sample is a word for its digital lines, if there are any, and a word for each of its analog
channels. `sample_len_from_mask` leaves the analog channels out, so only the first sample is where
the readers look for it, unless there are no analog channels. And `iXBeePktSamples` reads the
number of samples of a wide packet where it is in a narrow one.
-/

namespace Sysio.XBee

open Layout

/-- `ntohs` of the word at a place. -/
def wordAt (pkt : List UInt8) (place : ℕ) : Except Fault (BitVec 16) := do
  let high ← byteAt pkt place
  let low ← byteAt pkt (place + 1)
  return high.toBitVec ++ low.toBitVec

/-- `ntohs (pkt->data[j])`. -/
def ioData (struct : XBeeStruct) (pkt : List UInt8) (j : ℕ) : Except Fault (BitVec 16) :=
  wordAt pkt (offset struct .data + 2 * j)

/-- The tests for the analog lines are made on `len` and not on the mask. -/
def sampleLenFromMask (mask : BitVec 16) : BitVec 8 :=
  let count := fun (len : BitVec 8) (bit : BitVec 32) =>
    if len.setWidth 32 &&& bit ≠ 0 then len + 1 else len
  [0x0200, 0x0400, 0x0800, 0x1000, 0x2000].foldl count (if mask &&& 0x1ff ≠ 0 then 1 else 0)

/-- `pin_vals`: 0 where there are no digital lines, or no such sample. -/
def pinVals (struct : XBeeStruct) (pkt : List UInt8) (mask : BitVec 16) (index : ℕ) :
    Except Fault (BitVec 16) :=
  if mask &&& 0x1ff ≠ 0 then
    (byteAt pkt (offset struct .numSamples)).bind fun count =>
      if index < count.toNat then ioData struct pkt (index * (sampleLenFromMask mask).toNat)
      else .ok 0
  else .ok 0

/-- The digital lines of a sample: what is returned, and the array. -/
def digitalFrom (struct : XBeeStruct) (pkt : List UInt8) (index : ℕ) :
    Except Fault (ℤ × List ℤ) := do
  let mask ← wordAt pkt (offset struct .chMask)
  let values ← pinVals struct pkt mask index
  return (((List.range 9).countP fun i => mask &&& 1#16 <<< i ≠ 0 : ℕ),
    (List.range 9).map fun i =>
      if mask &&& 1#16 <<< i ≠ 0 then if values &&& 1#16 <<< i ≠ 0 then 1 else 0 else -1)

/-- The digital lines of the sample at `index`. -/
def iXBeePktDigital (pkt : List UInt8) (index : ℕ) : Except Fault (ℤ × List ℤ) := do
  let type ← ucXBeePktType pkt
  if type = xbeePktTypeRx16Io then digitalFrom xXBeeRxIo16Pkt pkt index
  else if type = xbeePktTypeRx64Io then digitalFrom xXBeeRxIo64Pkt pkt index
  else return (-1, List.replicate 9 (-1))

/-- The variables of the loop over the analog channels; the array is filled from its start. -/
structure AnalogScan where
  array : List ℤ
  pos : ℕ
  npins : ℕ
deriving DecidableEq, Repr

/-- One turn of the loop; `word` is the place of the data from the sample on. -/
def analogTurn (mask : BitVec 16) (word : ℕ → Except Fault (BitVec 16)) (scan : AnalogScan)
    (i : ℕ) : Except Fault AnalogScan :=
  if mask &&& 0x200#16 <<< i ≠ 0 then do
    let value ← word scan.pos
    return ⟨scan.array ++ [(value.toNat : ℤ)], scan.pos + 1, scan.npins + 1⟩
  else return { scan with array := scan.array ++ [-1] }

/-- The analog channels of a sample: what is returned, and the array. -/
def analogFrom (struct : XBeeStruct) (pkt : List UInt8) (index : ℕ) :
    Except Fault (ℤ × List ℤ) := do
  let mask ← wordAt pkt (offset struct .chMask)
  let sampLen := (sampleLenFromMask mask).toNat
  let word := fun pos => ioData struct pkt (index * sampLen + pos)
  let scan ← (List.range 6).foldlM (analogTurn mask word)
    ⟨[], if mask &&& 0x1ff ≠ 0 then 1 else 0, 0⟩
  return (scan.npins, scan.array)

/-- The analog channels of the sample at `index`. -/
def iXBeePktAnalog (pkt : List UInt8) (index : ℕ) : Except Fault (ℤ × List ℤ) := do
  let type ← ucXBeePktType pkt
  if type = xbeePktTypeRx16Io then analogFrom xXBeeRxIo16Pkt pkt index
  else if type = xbeePktTypeRx64Io then analogFrom xXBeeRxIo64Pkt pkt index
  else return (-1, List.replicate 6 (-1))

/-- Both types are read as the narrow one. -/
def iXBeePktSamples (pkt : List UInt8) : Except Fault ℤ := do
  let type ← ucXBeePktType pkt
  if type = xbeePktTypeRx16Io ∨ type = xbeePktTypeRx64Io then do
    let count ← byteAt pkt (offset xXBeeRxIo16Pkt .numSamples)
    return count.toNat
  else return -1

/-! ### The packets -/

/-- The source of a packet, which tells its type. -/
inductive IoSource where
  | rx16 (s0 s1 : UInt8)
  | rx64 (s0 s1 s2 s3 s4 s5 s6 s7 : UInt8)
deriving DecidableEq, Repr

namespace IoSource

/-- The type of the packet. -/
def type : IoSource → UInt8
  | rx16 _ _ => xbeePktTypeRx16Io
  | rx64 .. => xbeePktTypeRx64Io

/-- The structure of the packet. -/
def struct : IoSource → XBeeStruct
  | rx16 _ _ => xXBeeRxIo16Pkt
  | rx64 .. => xXBeeRxIo64Pkt

/-- The bytes of the address. -/
def bytes : IoSource → List UInt8
  | rx16 s0 s1 => [s0, s1]
  | rx64 s0 s1 s2 s3 s4 s5 s6 s7 => [s0, s1, s2, s3, s4, s5, s6, s7]

end IoSource

/-- A word in network order. -/
def wordBytes (word : BitVec 16) : List UInt8 :=
  [.ofBitVec (word.extractLsb' 8 8), .ofBitVec (word.extractLsb' 0 8)]

/-- All of a packet but its samples. -/
structure IoHeader where
  start : UInt8
  high : UInt8
  low : UInt8
  source : IoSource
  rssi : UInt8
  opt : UInt8
  numSamples : UInt8
  chMask : BitVec 16
  behind : List UInt8
deriving DecidableEq, Repr

/-- The values of each sample: its digital word, and the words of its channels. -/
structure IoSamples where
  digital : ℕ → BitVec 16
  analog : ℕ → ℕ → BitVec 16

namespace IoHeader

/-- A digital line is set in the mask. -/
def HasDigital (header : IoHeader) : Prop := header.chMask &&& 0x1ff ≠ 0

instance (header : IoHeader) : Decidable header.HasDigital := inferInstanceAs (Decidable (_ ≠ _))

/-- The analog channels that are set in the mask. -/
def channels (header : IoHeader) : List ℕ :=
  (List.range 6).filter fun i => header.chMask.getLsbD (9 + i)

/-- The words of a sample as they are documented. -/
def sampleWords (header : IoHeader) (samples : IoSamples) (s : ℕ) : List (BitVec 16) :=
  (if header.HasDigital then [samples.digital s] else []) ++
    header.channels.map (samples.analog s)

/-- The bytes before the samples. -/
def front (header : IoHeader) : List UInt8 :=
  header.start :: header.high :: header.low :: header.source.type ::
    (header.source.bytes ++ header.rssi :: header.opt :: header.numSamples ::
      wordBytes header.chMask)

/-- The words of all the samples. -/
def words (header : IoHeader) (samples : IoSamples) : List (BitVec 16) :=
  (List.range header.numSamples.toNat).flatMap (header.sampleWords samples)

/-- The bytes of a packet with its samples. -/
def packet (header : IoHeader) (samples : IoSamples) : List UInt8 :=
  header.front ++ ((header.words samples).flatMap wordBytes ++ header.behind)

/-- What a reader of the digital lines is for. -/
def digitalMeant (header : IoHeader) (samples : IoSamples) (s : ℕ) : ℤ × List ℤ :=
  (((List.range 9).countP fun i => header.chMask.getLsbD i : ℕ),
    (List.range 9).map fun i =>
      if header.chMask.getLsbD i then if (samples.digital s).getLsbD i then 1 else 0 else -1)

/-- What a reader of the analog channels is for. -/
def analogMeant (header : IoHeader) (samples : IoSamples) (s : ℕ) : ℤ × List ℤ :=
  ((header.channels.length : ℕ),
    (List.range 6).map fun i =>
      if header.chMask.getLsbD (9 + i) then ((samples.analog s i).toNat : ℤ) else -1)

/-- The samples are counted and read as they are. -/
def SamplesRead (header : IoHeader) (samples : IoSamples) : Prop :=
  iXBeePktSamples (header.packet samples) = .ok header.numSamples.toNat ∧
    ∀ index < header.numSamples.toNat,
      iXBeePktDigital (header.packet samples) index = .ok (header.digitalMeant samples index) ∧
      iXBeePktAnalog (header.packet samples) index = .ok (header.analogMeant samples index)

end IoHeader

/-! ### Words of a packet -/

theorem append_wordBytes (word : BitVec 16) :
    (UInt8.ofBitVec (word.extractLsb' 8 8)).toBitVec ++
      (UInt8.ofBitVec (word.extractLsb' 0 8)).toBitVec = word := by
  apply BitVec.eq_of_getLsbD_eq
  intro i below
  rw [BitVec.getLsbD_append]
  by_cases low : i < 8
  · simp [low]
  · have place : 8 + (i - 8) = i := by omega
    simp [low, place, show i - 8 < 8 by omega]

section Words

variable {front behind : List UInt8} {words : List (BitVec 16)} {word : BitVec 16} {j : ℕ}

theorem length_wordBytes (words : List (BitVec 16)) :
    (words.flatMap wordBytes).length = 2 * words.length := by
  induction words with
  | nil => rfl
  | cons word rest hypothesis =>
      rw [List.flatMap_cons, List.length_append, hypothesis, List.length_cons, wordBytes]
      simp only [List.length_cons, List.length_nil]
      omega

/-- The word `j` of a packet is read as it was put. -/
theorem wordAt_packet (isWord : words[j]? = some word) :
    wordAt (front ++ (words.flatMap wordBytes ++ behind)) (front.length + 2 * j) = .ok word := by
  rcases List.getElem?_eq_some_iff.mp isWord with ⟨inside, get⟩
  have split : words = words.take j ++ word :: words.drop (j + 1) := by
    rw [← get, List.getElem_cons_drop, List.take_append_drop]
  have before : (front ++ (words.take j).flatMap wordBytes).length = front.length + 2 * j := by
    rw [List.length_append, length_wordBytes, List.length_take, Nat.min_eq_left (by omega)]
  have bytes : front ++ (words.flatMap wordBytes ++ behind) =
      (front ++ (words.take j).flatMap wordBytes) ++
        (wordBytes word ++ ((words.drop (j + 1)).flatMap wordBytes ++ behind)) := by
    conv_lhs => rw [split]
    simp only [List.flatMap_append, List.flatMap_cons, List.append_assoc]
  have high : byteAt (front ++ (words.flatMap wordBytes ++ behind)) (front.length + 2 * j) =
      .ok (.ofBitVec (word.extractLsb' 8 8)) := by
    rw [bytes, ← before, byteAt, List.getElem?_append_right le_rfl, Nat.sub_self]
    rfl
  have low : byteAt (front ++ (words.flatMap wordBytes ++ behind)) (front.length + 2 * j + 1) =
      .ok (.ofBitVec (word.extractLsb' 0 8)) := by
    rw [bytes, ← before, byteAt, List.getElem?_append_right (Nat.le_succ _), Nat.succ_sub le_rfl,
      Nat.sub_self]
    rfl
  simp only [wordAt, high, low, bind, Except.bind]
  exact congrArg Except.ok (append_wordBytes word)

end Words

/-- The entries of rows of one length, one behind the other. -/
theorem getElem?_flatMap_rows {Index Entry : Type} {row : Index → List Entry} {width : ℕ}
    {indices : List Index} (uniform : ∀ index ∈ indices, (row index).length = width) {i p : ℕ}
    (inside : p < width) :
    (indices.flatMap row)[i * width + p]? = indices[i]?.bind fun index => (row index)[p]? := by
  induction indices generalizing i with
  | nil => rfl
  | cons index rest hypothesis =>
      have here := uniform index List.mem_cons_self
      rw [List.flatMap_cons]
      cases i with
      | zero =>
          rw [Nat.zero_mul, Nat.zero_add, List.getElem?_append_left (by omega)]
          rfl
      | succ i =>
          have place : (i + 1) * width + p = (row index).length + (i * width + p) := by
            rw [here, Nat.succ_mul]
            omega
          rw [place, List.getElem?_append_right (Nat.le_add_right ..), Nat.add_sub_cancel_left,
            hypothesis fun index member => uniform index (List.mem_cons_of_mem _ member)]
          rfl

/-! ### The layout -/

namespace IoHeader

variable {header : IoHeader} {samples : IoSamples} {s p : ℕ}

/-- The words of one sample. -/
def width (header : IoHeader) : ℕ := (if header.HasDigital then 1 else 0) + header.channels.length

theorem length_sampleWords : (header.sampleWords samples s).length = header.width := by
  rw [sampleWords, List.length_append, List.length_map, width]
  by_cases digital : header.HasDigital
  · rw [if_pos digital, if_pos digital, List.length_singleton]
  · rw [if_neg digital, if_neg digital, List.length_nil]

theorem words_get (samples : IoSamples) (s p : ℕ) (counted : s < header.numSamples.toNat)
    (inside : p < header.width) :
    (header.words samples)[s * header.width + p]? = (header.sampleWords samples s)[p]? := by
  rw [words, getElem?_flatMap_rows (fun _ _ => length_sampleWords) inside,
    List.getElem?_range counted, Option.bind_some]

theorem front_length : header.front.length = offset header.source.struct .data := by
  rw [front]
  cases header.source <;> rfl

theorem type_packet : ucXBeePktType (header.packet samples) = .ok header.source.type := rfl

theorem chMask_packet :
    wordAt (header.packet samples) (offset header.source.struct .chMask) =
      .ok header.chMask := by
  have read : wordAt (header.packet samples) (offset header.source.struct .chMask) =
      .ok ((UInt8.ofBitVec (header.chMask.extractLsb' 8 8)).toBitVec ++
        (UInt8.ofBitVec (header.chMask.extractLsb' 0 8)).toBitVec) := by
    rw [packet, front]
    cases header.source <;> rfl
  rw [read, append_wordBytes]

theorem numSamples_packet :
    byteAt (header.packet samples) (offset header.source.struct .numSamples) =
      .ok header.numSamples := by
  rw [packet, front]
  cases header.source <;> rfl

/-- A word of the samples, as the readers find it. -/
theorem ioData_packet {j : ℕ} {word : BitVec 16}
    (isWord : (header.words samples)[j]? = some word) :
    ioData header.source.struct (header.packet samples) j = .ok word := by
  rw [ioData, ← front_length]
  exact wordAt_packet isWord

theorem digital_packet (index : ℕ) :
    iXBeePktDigital (header.packet samples) index =
      digitalFrom header.source.struct (header.packet samples) index := by
  simp only [iXBeePktDigital, type_packet, bind, Except.bind]
  cases header.source with
  | rx16 s0 s1 => rfl
  | rx64 s0 s1 s2 s3 s4 s5 s6 s7 => rfl

theorem analog_packet (index : ℕ) :
    iXBeePktAnalog (header.packet samples) index =
      analogFrom header.source.struct (header.packet samples) index := by
  simp only [iXBeePktAnalog, type_packet, bind, Except.bind]
  cases header.source with
  | rx16 s0 s1 => rfl
  | rx64 s0 s1 s2 s3 s4 s5 s6 s7 => rfl

/-- The byte that `iXBeePktSamples` reads. -/
def counted (header : IoHeader) : UInt8 :=
  match header.source with
  | .rx16 _ _ => header.numSamples
  | .rx64 _ _ _ _ s4 _ _ _ => s4

theorem iXBeePktSamples_packet :
    iXBeePktSamples (header.packet samples) = .ok header.counted.toNat := by
  have read : byteAt (header.packet samples) (offset xXBeeRxIo16Pkt .numSamples) =
      .ok header.counted := by
    rw [packet, front, counted]
    cases header.source <;> rfl
  have isIo : header.source.type = xbeePktTypeRx16Io ∨
      header.source.type = xbeePktTypeRx64Io := by
    cases header.source
    · exact .inl rfl
    · exact .inr rfl
  simp only [iXBeePktSamples, type_packet, bind, Except.bind, if_pos isIo, read]
  rfl

/-! ### The readers -/

theorem sampleLen_eq (mask : BitVec 16) :
    (sampleLenFromMask mask).toNat = if mask &&& 0x1ff ≠ 0 then 1 else 0 := by
  rw [sampleLenFromMask]
  by_cases digital : mask &&& 0x1ff ≠ 0
  · rw [if_pos digital, if_pos digital]
    rfl
  · rw [if_neg digital, if_neg digital]
    rfl

/-- The array of the digital lines, from the word that was read. -/
def digitalArray (header : IoHeader) (word : BitVec 16) : ℤ × List ℤ :=
  (((List.range 9).countP fun i => header.chMask.getLsbD i : ℕ),
    (List.range 9).map fun i =>
      if header.chMask.getLsbD i then if word.getLsbD i then 1 else 0 else -1)

/-- The digital lines are those of the word at as many words as there are samples before. -/
theorem digitalFrom_eq {index : ℕ} {word : BitVec 16} (counted : index < header.numSamples.toNat)
    (isWord : header.HasDigital → (header.words samples)[index]? = some word)
    (silent : ¬ header.HasDigital → word = 0) :
    digitalFrom header.source.struct (header.packet samples) index =
      .ok (header.digitalArray word) := by
  have read : pinVals header.source.struct (header.packet samples) header.chMask index =
      .ok word := by
    rw [pinVals]
    by_cases digital : header.chMask &&& 0x1ff ≠ 0
    · rw [if_pos digital, numSamples_packet, sampleLen_eq, if_pos digital, Nat.mul_one]
      simp only [Except.bind, if_pos counted]
      exact ioData_packet (isWord digital)
    · rw [if_neg digital, silent digital]
  simp only [digitalFrom, chMask_packet, read, bind, Except.bind]
  simp only [and_bit_ne_zero_iff, Bool.decide_eq_true]
  rfl

theorem analogBit (mask : BitVec 16) (i : ℕ) :
    mask &&& 0x200#16 <<< i ≠ 0 ↔ mask.getLsbD (9 + i) = true := by
  have shifted : 0x200#16 <<< i = 1#16 <<< (9 + i) := (BitVec.shiftLeft_add 1#16 9 i).symm
  rw [shifted, and_bit_ne_zero_iff]

/-- The loop over the channels reads its words one after the other. -/
theorem foldlM_analogTurn (mask : BitVec 16) (word : ℕ → Except Fault (BitVec 16))
    (value : ℕ → BitVec 16) (places : List ℕ) (scan : AnalogScan)
    (reads : ∀ q value', ((places.filter fun i => mask.getLsbD (9 + i)).map value)[q]? =
      some value' → word (scan.pos + q) = .ok value') :
    places.foldlM (analogTurn mask word) scan = .ok
      ⟨scan.array ++ places.map (fun i =>
          if mask.getLsbD (9 + i) then ((value i).toNat : ℤ) else -1),
        scan.pos + (places.filter fun i => mask.getLsbD (9 + i)).length,
        scan.npins + (places.filter fun i => mask.getLsbD (9 + i)).length⟩ := by
  induction places generalizing scan with
  | nil =>
      rw [List.foldlM_nil, List.map_nil, List.append_nil]
      rfl
  | cons i rest hypothesis =>
      rw [List.foldlM_cons, List.map_cons]
      by_cases set : mask.getLsbD (9 + i) = true
      · have kept : (i :: rest).filter (fun i => mask.getLsbD (9 + i)) =
            i :: rest.filter fun i => mask.getLsbD (9 + i) := List.filter_cons_of_pos set
        rw [kept] at reads ⊢
        have now : word scan.pos = .ok (value i) := reads 0 (value i) rfl
        have turn : analogTurn mask word scan i =
            .ok ⟨scan.array ++ [((value i).toNat : ℤ)], scan.pos + 1, scan.npins + 1⟩ := by
          simp only [analogTurn, if_pos ((analogBit mask i).mpr set), now, bind, Except.bind]
          rfl
        rw [turn]
        simp only [bind, Except.bind]
        rw [hypothesis _ fun q value' isWord => by
          rw [Nat.add_assoc, Nat.add_comm 1 q]
          exact reads (q + 1) value' isWord]
        simp only [set, if_true, List.append_assoc, List.singleton_append, List.length_cons]
        congr 2 <;> omega
      · have skipped : (i :: rest).filter (fun i => mask.getLsbD (9 + i)) =
            rest.filter fun i => mask.getLsbD (9 + i) := List.filter_cons_of_neg set
        rw [skipped] at reads ⊢
        have turn : analogTurn mask word scan i =
            .ok { scan with array := scan.array ++ [-1] } := by
          simp only [analogTurn, if_neg fun test => set ((analogBit mask i).mp test)]
          rfl
        rw [turn]
        simp only [bind, Except.bind]
        rw [hypothesis ⟨scan.array ++ [-1], scan.pos, scan.npins⟩ reads]
        simp only [set, Bool.false_eq_true, if_false, List.append_assoc, List.singleton_append]

/-- The words by which a reader goes from one sample to the next. -/
def stride (header : IoHeader) : ℕ := if header.HasDigital then 1 else 0

theorem length_digitalWords : (if header.HasDigital then [samples.digital s] else []).length =
    header.stride := by
  rw [stride]
  split <;> rfl

/-- The channels are those of the sample whose words are where the reader looks for them. -/
theorem analogFrom_eq {index : ℕ}
    (isSample : ∀ p < header.width, (header.words samples)[index * header.stride + p]? =
      (header.sampleWords samples s)[p]?) :
    analogFrom header.source.struct (header.packet samples) index =
      .ok (header.analogMeant samples s) := by
  have reads : ∀ q value, (header.channels.map (samples.analog s))[q]? = some value →
      ioData header.source.struct (header.packet samples)
        (index * header.stride + (header.stride + q)) = .ok value := by
    intro q value isValue
    have below : q < header.channels.length := by
      rcases List.getElem?_eq_some_iff.mp isValue with ⟨below, -⟩
      rwa [List.length_map] at below
    apply ioData_packet
    rw [isSample _ (by rw [width, stride]; omega), sampleWords,
      List.getElem?_append_right (by rw [length_digitalWords]; omega), length_digitalWords,
      Nat.add_sub_cancel_left]
    exact isValue
  have sampLen : (sampleLenFromMask header.chMask).toNat = header.stride := sampleLen_eq _
  have start : (if header.chMask &&& 0x1ff ≠ 0 then 1 else 0) = header.stride := rfl
  simp only [analogFrom, chMask_packet, sampLen, start, bind, Except.bind]
  have scanned := foldlM_analogTurn header.chMask (fun pos => ioData header.source.struct
    (header.packet samples) (index * header.stride + pos)) (samples.analog s) (List.range 6)
    ⟨[], header.stride, 0⟩ reads
  rw [scanned]
  simp only [List.nil_append, Nat.zero_add]
  rfl

theorem digitalArray_get {word : BitVec 16} {i : ℕ} (line : i < 9) :
    (header.digitalArray word).2[i]? = some
      (if header.chMask.getLsbD i then if word.getLsbD i then 1 else 0 else -1) := by
  rw [digitalArray, List.getElem?_map, List.getElem?_range line, Option.map_some]

theorem analogMeant_get {i : ℕ} (channel : i < 6) :
    (header.analogMeant samples s).2[i]? = some
      (if header.chMask.getLsbD (9 + i) then ((samples.analog s i).toNat : ℤ) else -1) := by
  rw [analogMeant, List.getElem?_map, List.getElem?_range channel, Option.map_some]

theorem digitalMeant_eq : header.digitalMeant samples s = header.digitalArray (samples.digital s) :=
  rfl

theorem bit_of_hasDigital : header.HasDigital ↔ ∃ i < 9, header.chMask.getLsbD i = true := by
  have lines : ∀ i < 16, (0x1ff : BitVec 16).getLsbD i = decide (i < 9) := by decide
  constructor
  · intro digital
    by_contra unset
    apply digital
    apply eq_zero_of_bits
    intro i
    rw [BitVec.getLsbD_and]
    by_cases inside : i < 16
    · rw [lines i inside]
      by_cases line : i < 9
      · rw [Bool.eq_false_of_not_eq_true fun set => unset ⟨i, line, set⟩, Bool.false_and]
      · rw [decide_eq_false line, Bool.and_false]
    · rw [BitVec.getLsbD_of_ge header.chMask i (Nat.not_lt.mp inside), Bool.false_and]
  · rintro ⟨i, line, set⟩ empty
    have bit := congrArg (fun word => word.getLsbD i) empty
    change (header.chMask &&& 0x1ff).getLsbD i = (0#16).getLsbD i at bit
    rw [BitVec.getLsbD_and, set, lines i (by omega), decide_eq_true line,
      BitVec.getLsbD_zero] at bit
    cases bit

/-- Without digital lines the word does not matter. -/
theorem digitalArray_of_not (silent : ¬ header.HasDigital) (word other : BitVec 16) :
    header.digitalArray word = header.digitalArray other := by
  have unset : ∀ i ∈ List.range 9, header.chMask.getLsbD i = false := by
    intro i member
    by_contra set
    exact silent (bit_of_hasDigital.mpr ⟨i, List.mem_range.mp member, by simpa using set⟩)
  rw [digitalArray, digitalArray]
  congr 1
  apply List.map_congr_left
  intro i member
  rw [unset i member, if_neg Bool.false_ne_true, if_neg Bool.false_ne_true]

/-! ### When the samples are read -/

/-- The readers find a sample where the words before it are as many as they count. -/
theorem samplesRead_of (counts : header.counted = header.numSamples)
    (strides : header.numSamples.toNat ≤ 1 ∨ header.channels = []) (samples : IoSamples) :
    header.SamplesRead samples := by
  refine ⟨by rw [iXBeePktSamples_packet, counts], fun index counted => ?_⟩
  have step : index * header.stride = index * header.width := by
    rcases strides with single | none
    · have first : index = 0 := by omega
      rw [first, Nat.zero_mul, Nat.zero_mul]
    · rw [width, none, List.length_nil, Nat.add_zero, stride]
  have isSample : ∀ p < header.width, (header.words samples)[index * header.stride + p]? =
      (header.sampleWords samples index)[p]? := by
    intro p inside
    rw [step, words_get samples index p counted inside]
  constructor
  · rw [digital_packet, digitalMeant_eq]
    by_cases digital : header.HasDigital
    · refine digitalFrom_eq counted (fun _ => ?_) fun silent => absurd digital silent
      have place : index = index * header.stride + 0 := by
        rw [stride, if_pos digital, Nat.mul_one, Nat.add_zero]
      have first : 0 < header.width := by
        rw [width, if_pos digital]
        omega
      rw [place, isSample 0 first, ← place, sampleWords, if_pos digital]
      rfl
    · rw [digitalArray_of_not digital (samples.digital index) 0]
      exact digitalFrom_eq counted (fun has => absurd has digital) fun _ => rfl
  · rw [analog_packet]
    exact analogFrom_eq isSample

/-- The second of two samples differs from the first in all its bits. -/
def differing : IoSamples where
  digital s := if s = 1 then 0xffff else 0
  analog s _ := if s = 1 then 1 else 0

/-- With analog channels, the second sample is not where the readers look for it. -/
theorem not_samplesRead_differing (several : 1 < header.numSamples.toNat)
    (analog : header.channels ≠ []) : ¬ header.SamplesRead differing := by
  rintro ⟨-, reads⟩
  rcases reads 1 several with ⟨digital_read, analog_read⟩
  rcases List.exists_mem_of_ne_nil _ analog with ⟨channel, member⟩
  rcases List.mem_filter.mp member with ⟨isChannel, set⟩
  have positive : 0 < header.channels.length := List.length_pos_of_mem member
  by_cases digital : header.HasDigital
  · -- the reader of the digital lines takes the first channel of the first sample
    have isWord : (header.words differing)[1]? = some 0 := by
      have second : 1 < header.width := by
        rw [width, if_pos digital]
        omega
      have get := words_get differing 0 1 (by omega) second
      rw [Nat.zero_mul, Nat.zero_add] at get
      rw [get, sampleWords, if_pos digital, List.singleton_append, List.getElem?_cons_succ,
        List.getElem?_map, List.getElem?_eq_getElem positive]
      rfl
    rw [digital_packet,
      digitalFrom_eq several (fun _ => isWord) fun silent => absurd digital silent,
      digitalMeant_eq] at digital_read
    rcases bit_of_hasDigital.mp digital with ⟨i, line, isLine⟩
    have at_line := congrArg (fun result => result.2[i]?) (Except.ok.inj digital_read)
    simp only [digitalArray_get line] at at_line
    have ones : ∀ i < 9, ((differing.digital 1).getLsbD i) = true := by decide
    have zero : (0 : BitVec 16).getLsbD i = false := BitVec.getLsbD_zero
    rw [isLine, if_pos rfl, if_pos rfl, ones i line, if_pos rfl, zero,
      if_neg Bool.false_ne_true] at at_line
    exact absurd at_line (by decide)
  · -- the reader of the channels takes those of the first sample
    have isSample : ∀ p < header.width, (header.words differing)[1 * header.stride + p]? =
        (header.sampleWords differing 0)[p]? := by
      intro p inside
      have get := words_get differing 0 p (by omega) inside
      rw [stride, if_neg digital, Nat.mul_zero]
      rwa [Nat.zero_mul] at get
    rw [analog_packet, analogFrom_eq isSample] at analog_read
    have at_channel := congrArg (fun result => result.2[channel]?) (Except.ok.inj analog_read)
    simp only [analogMeant_get (List.mem_range.mp isChannel)] at at_channel
    rw [if_pos set, if_pos set] at at_channel
    change some (((0 : BitVec 16).toNat : ℕ) : ℤ) =
      some (((1 : BitVec 16).toNat : ℕ) : ℤ) at at_channel
    exact absurd at_channel (by decide)

/-- The samples of a packet are counted and read, whatever they are, exactly if the number is
where it is read, and there is one sample at most or no analog channel. -/
theorem samplesRead_iff (header : IoHeader) :
    (∀ samples, header.SamplesRead samples) ↔
      header.counted = header.numSamples ∧
        (header.numSamples.toNat ≤ 1 ∨ header.channels = []) := by
  constructor
  · intro reads
    constructor
    · have counts := (reads differing).1
      rw [iXBeePktSamples_packet] at counts
      exact UInt8.toNat_inj.mp (Int.ofNat_inj.mp (Except.ok.inj counts))
    · by_contra several
      rw [not_or, Nat.not_le] at several
      exact not_samplesRead_differing several.1 several.2 (reads differing)
  · rintro ⟨counts, strides⟩ samples
    exact samplesRead_of counts strides samples

end IoHeader

/-- Two samples of one digital line and one channel: the second line is read as the first
channel. -/
theorem not_samplesRead_second :
    ¬ IoHeader.SamplesRead ⟨0x7E, 0, 18, .rx16 1 2, 0x28, 0, 2, 0x0201, [0]⟩
      ⟨fun s => if s = 1 then 1 else 0, fun _ _ => 0⟩ := by
  rintro ⟨-, reads⟩
  exact absurd (reads 1 (by decide)).1 (by decide)

end Sysio.XBee
