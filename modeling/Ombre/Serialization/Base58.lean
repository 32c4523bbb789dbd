import Ombre.Basic.Types
import Ombre.Basic.Difficulty
import Ombre.Lib.BlockCode
import Ombre.Serialization.Varint

/-!
# Base58

`tools::base58` of `common/base58.cpp`, the text form of addresses. `encode`
cuts its bytes into blocks of 8, reads each block as a big-endian number and
writes it with the digits of `alphabet`, 11 characters for a full block and
`encoded_block_sizes[n]` for a last block of `n` bytes. `decode` cuts the text
into blocks of 11 and refuses a character outside the alphabet, a last block of
a length no block is encoded to, and a value that does not fit the bytes of its
block. `encode_addr` puts the varint of a tag before the data and the first
four bytes of `cn_fast_hash` of both after it; `decode_addr` checks them.

Strings are byte strings, `List UInt8`. `encode_block` and `decode_block` write
into a window of the buffer of `encode` and `decode`; each is modelled as the
block it writes, and the buffer as their concatenation.
-/

namespace Ombre

namespace Base58

/-- `alphabet`: `123456789ABCDEFGHJKLMNPQRSTUVWXYZabcdefghijkmnopqrstuvwxyz`. -/
def alphabet : List UInt8 :=
  ['1', '2', '3', '4', '5', '6', '7', '8', '9', 'A', 'B', 'C', 'D', 'E', 'F', 'G', 'H', 'J', 'K',
    'L', 'M', 'N', 'P', 'Q', 'R', 'S', 'T', 'U', 'V', 'W', 'X', 'Y', 'Z', 'a', 'b', 'c', 'd', 'e',
    'f', 'g', 'h', 'i', 'j', 'k', 'm', 'n', 'o', 'p', 'q', 'r', 's', 't', 'u', 'v', 'w', 'x', 'y',
    'z'].map Char.toUInt8

/-- `alphabet_size`, `sizeof(alphabet) - 1` -/
def alphabetSize : ℕ := 58

/-- `encoded_block_sizes` -/
def encodedBlockSizes : List ℕ := [0, 2, 3, 5, 6, 7, 9, 10, 11]

/-- `full_block_size`, the last index of `encoded_block_sizes` -/
def fullBlockSize : ℕ := 8

/-- `full_encoded_block_size`, `encoded_block_sizes[full_block_size]` -/
def fullEncodedBlockSize : ℕ := 11

/-- `addr_checksum_size` -/
def addrChecksumSize : ℕ := 4

/-- `reverse_alphabet`: the digit of a character; `none` for `-1`, a character
outside the alphabet. -/
def reverseAlphabet (letter : UInt8) : Option ℕ := alphabet.idxOf? letter

/-- `decoded_block_sizes`: the size of the block an encoded block of this size
decodes to; `none` for `-1`, a size no block is encoded to. -/
def decodedBlockSizes (encodedBlockSize : ℕ) : Option ℕ := encodedBlockSizes.idxOf? encodedBlockSize

/-- `uint_8be_to_64`: the bytes as a big-endian number, shifted in one at a time. -/
def uint8beTo64 (data : List UInt8) : UInt64 :=
  data.foldl (fun res b => (res <<< 8) ||| b.toUInt64) 0

/-- `uint_64_to_8be`: the `size` low bytes of `num`, most significant first, as
`memcpy` copies them from the end of `SWAP64BE(num)`. -/
def uint64To8be (num : UInt64) (size : ℕ) : List UInt8 :=
  ((List.range 8).reverse.map fun i => (num >>> (8 * i).toUInt64).toUInt8).drop (8 - size)

/-- The loop of `encode_block`: while `0 < num`, the digit of `num % 58`, then
`num /= 58`. These are the characters it writes from the end of the block
backwards. -/
def encodeBlockLoop (num : UInt64) : List UInt8 :=
  if 0 < num then
    let remainder := num % alphabetSize.toUInt64
    alphabet.getD remainder.toNat 0 :: encodeBlockLoop (num / alphabetSize.toUInt64)
  else []
termination_by num.toNat
decreasing_by
  have hpos : 0 < num.toNat := UInt64.lt_iff_toNat_lt.mp ‹0 < num›
  rw [UInt64.toNat_div]
  exact Nat.div_lt_self hpos (by decide)

/-- `encode_block(block, size, res)` on the `encoded_block_sizes[size]`
characters from `res`, which `encode` filled with `alphabet[0]`: the loop writes
its characters from the last of them backwards. -/
def encodeBlock (block : List UInt8) : List UInt8 :=
  let chars := encodeBlockLoop (uint8beTo64 block)
  List.replicate (encodedBlockSizes.getD block.length 0 - chars.length) (alphabet.getD 0 0) ++
    chars.reverse

/-- The loop of `decode_block`, over the characters of the block from its
last: `res_num` the value read so far and `order` the weight of the next digit.
Stops with `none` at a character outside the alphabet, and at a digit that
would carry the value past 64 bits, which the high word of `mul128` or a sum
below `res_num` shows. -/
def decodeBlockLoop : List UInt8 → UInt64 → UInt64 → Option UInt64
  | [], resNum, _ => some resNum
  | letter :: rest, resNum, order =>
    match reverseAlphabet letter with
    | none => none
    | some digit =>
      let (productLo, productHi) := mul128 order digit.toUInt64
      let tmp := resNum + productLo
      if tmp < resNum ∨ productHi ≠ 0 then none
      -- never overflows, `58^10 < 2^64`
      else decodeBlockLoop rest tmp (order * alphabetSize.toUInt64)

/-- `decode_block(block, size, res)`: the `decoded_block_sizes[size]` bytes the
block encodes. -/
def decodeBlock (block : List UInt8) : Option (List UInt8) :=
  match decodedBlockSizes block.length with
  | none => none
  -- `res_size <= 0`
  | some 0 => none
  | some resSize =>
    match decodeBlockLoop block.reverse 0 1 with
    | none => none
    | some resNum =>
      if resSize < fullBlockSize ∧ (1 : UInt64) <<< (8 * resSize).toUInt64 ≤ resNum then none
      else some (uint64To8be resNum resSize)

/-- `encode(data)`: the full blocks, then the last block if there is one. -/
def encode (data : List UInt8) : List UInt8 :=
  if data.isEmpty then []
  else
    let lastBlockSize := data.length % fullBlockSize
    (Blocks.full fullBlockSize data).flatMap encodeBlock ++
      if 0 < lastBlockSize then encodeBlock (Blocks.rest fullBlockSize data) else []

/-- `decode(enc, data)`: `none` where it returns `false`. -/
def decode (enc : List UInt8) : Option (List UInt8) :=
  if enc.isEmpty then some []
  else
    let lastBlockSize := enc.length % fullEncodedBlockSize
    match decodedBlockSizes lastBlockSize with
    | none => none
    | some _ => do
      let blocks ← (Blocks.full fullEncodedBlockSize enc).mapM decodeBlock
      let last ← if 0 < lastBlockSize then decodeBlock (Blocks.rest fullEncodedBlockSize enc) else some []
      pure (blocks.flatten ++ last)

/-- `encode_addr(tag, data)`: `encode` of the varint of `tag`, then `data`,
then the first `addr_checksum_size` bytes of `cn_fast_hash` of the two. -/
def encodeAddr (cnFastHash : List UInt8 → Hash) (tag : UInt64) (data : List UInt8) : List UInt8 :=
  let buf := writeVarint tag.toNat ++ data
  let hash := cnFastHash buf
  encode (buf ++ hash.bytes.take addrChecksumSize)

/-- `decode_addr(addr, tag, data)`: the tag and the data, `none` where it
returns `false`. -/
def decodeAddr (cnFastHash : List UInt8 → Hash) (addr : List UInt8) : Option (UInt64 × List UInt8) :=
  match decode addr with
  | none => none
  | some addrData =>
    if addrData.length ≤ addrChecksumSize then none
    else
      let checksum := addrData.drop (addrData.length - addrChecksumSize)
      let addrData := addrData.take (addrData.length - addrChecksumSize)
      let expectedChecksum := (cnFastHash addrData).bytes.take addrChecksumSize
      if expectedChecksum ≠ checksum then none
      else
        let (read, tag, _) := readVarint 64 addrData
        if read ≤ 0 then none
        else some (UInt64.ofNat tag, addrData.drop read.toNat)

/-! ## The tables -/

section Tables

theorem length_alphabet : alphabet.length = alphabetSize := rfl

theorem reverseAlphabet_getD : ∀ d : Fin alphabetSize, reverseAlphabet (alphabet.getD d 0) = some d := by
  set_option maxRecDepth 20000 in decide

theorem getD_of_reverseAlphabet {letter : UInt8} {digit : ℕ} (h : reverseAlphabet letter = some digit) :
    digit < alphabetSize ∧ alphabet.getD digit 0 = letter := by
  obtain ⟨hlt, heq, -⟩ := List.idxOf?_eq_some_iff.mp h
  exact ⟨hlt, by rw [List.getD_eq_getElem _ _ hlt, heq]⟩

theorem decodedBlockSizes_getD {n : ℕ} (h : n ≤ fullBlockSize) :
    decodedBlockSizes (encodedBlockSizes.getD n 0) = some n := by
  have key : ∀ n : Fin (fullBlockSize + 1), decodedBlockSizes (encodedBlockSizes.getD n 0) = some n := by
    decide
  exact key ⟨n, Nat.lt_succ_of_le h⟩

theorem getD_of_decodedBlockSizes {m n : ℕ} (h : decodedBlockSizes m = some n) :
    n ≤ fullBlockSize ∧ encodedBlockSizes.getD n 0 = m := by
  obtain ⟨hlt, heq, -⟩ := List.idxOf?_eq_some_iff.mp h
  exact ⟨Nat.le_of_lt_succ hlt, by rw [List.getD_eq_getElem _ _ hlt, heq]⟩

/-- Every block of `n` bytes fits the digits of its encoded size. -/
theorem pow_le_pow_encodedBlockSizes {n : ℕ} (h : n ≤ fullBlockSize) :
    256 ^ n ≤ alphabetSize ^ encodedBlockSizes.getD n 0 := by
  have key : ∀ n : Fin (fullBlockSize + 1), 256 ^ n.val ≤ alphabetSize ^ encodedBlockSizes.getD n 0 := by
    decide
  exact key ⟨n, Nat.lt_succ_of_le h⟩

/-- Only the full block takes `full_encoded_block_size` characters, and a
non-empty block takes some. -/
theorem encodedBlockSizes_bounds {n : ℕ} (h : n ≤ fullBlockSize) :
    encodedBlockSizes.getD n 0 ≤ fullEncodedBlockSize ∧
      (encodedBlockSizes.getD n 0 < fullEncodedBlockSize ↔ n < fullBlockSize) ∧
      (0 < encodedBlockSizes.getD n 0 ↔ 0 < n) := by
  have key : ∀ n : Fin (fullBlockSize + 1), encodedBlockSizes.getD n 0 ≤ fullEncodedBlockSize ∧
      (encodedBlockSizes.getD n 0 < fullEncodedBlockSize ↔ n.val < fullBlockSize) ∧
      (0 < encodedBlockSizes.getD n 0 ↔ 0 < n.val) := by
    decide
  exact key ⟨n, Nat.lt_succ_of_le h⟩

end Tables

/-! ## Bytes as numbers -/

section Bytes

/-- The number a byte string denotes, most significant byte first. -/
def bigEndianValue (data : List UInt8) : ℕ := Nat.ofDigits 256 (data.reverse.map UInt8.toNat)

theorem toNat_lt_of_mem_map {data : List UInt8} {x : ℕ} (h : x ∈ data.map UInt8.toNat) : x < 256 := by
  obtain ⟨b, -, rfl⟩ := List.mem_map.mp h
  exact b.toNat_lt

theorem bigEndianValue_lt (data : List UInt8) : bigEndianValue data < 256 ^ data.length := by
  have hdigits : ∀ x ∈ data.reverse.map UInt8.toNat, x < 256 := fun x hx =>
    toNat_lt_of_mem_map (by rwa [List.map_reverse, List.mem_reverse] at hx)
  have h := Nat.ofDigits_lt_base_pow_length (by decide : 1 < 256) hdigits
  rwa [List.length_map, List.length_reverse] at h

theorem bigEndianValue_append_singleton (data : List UInt8) (b : UInt8) :
    bigEndianValue (data ++ [b]) = b.toNat + 256 * bigEndianValue data := by
  simp [bigEndianValue, Nat.ofDigits_cons]

theorem uint8beTo64_append_singleton (data : List UInt8) (b : UInt8) :
    uint8beTo64 (data ++ [b]) = (uint8beTo64 data <<< 8) ||| b.toUInt64 := by
  simp [uint8beTo64, List.foldl_append]

/-- `uint_8be_to_64` reads the big-endian value of up to eight bytes. -/
theorem toNat_uint8beTo64 {data : List UInt8} (h : data.length ≤ 8) :
    (uint8beTo64 data).toNat = bigEndianValue data := by
  induction data using List.reverseRecOn with
  | nil => rfl
  | append_singleton data b ih =>
    rw [List.length_append, List.length_singleton] at h
    have hval := ih (by omega)
    -- the bytes so far fill at most 56 bits, so the shift drops nothing
    have hlt : bigEndianValue data < 2 ^ 56 :=
      calc bigEndianValue data < 256 ^ data.length := bigEndianValue_lt data
        _ ≤ 256 ^ 7 := Nat.pow_le_pow_right (by decide) (by omega)
        _ = 2 ^ 56 := by norm_num
    have hshift : (uint8beTo64 data <<< 8).toNat = bigEndianValue data * 2 ^ 8 := by
      rw [UInt64.toNat_shiftLeft, hval, Nat.shiftLeft_eq, Nat.mod_eq_of_lt] <;> simp
      omega
    rw [uint8beTo64_append_singleton, UInt64.toNat_or, hshift, UInt8.toNat_toUInt64, Nat.lor_comm,
      ← Nat.shiftLeft_eq, or_shiftLeft_eq_add b.toNat_lt, bigEndianValue_append_singleton]
    omega

@[simp] theorem length_uint64To8be {size : ℕ} (num : UInt64) (h : size ≤ 8) :
    (uint64To8be num size).length = size := by
  simp [uint64To8be]
  omega

/-- `uint_64_to_8be` takes byte `i` of `num` by a shift, most significant first. -/
theorem map_toNat_uint64To8be {size : ℕ} (num : UInt64) (h : size ≤ 8) :
    (uint64To8be num size).map UInt8.toNat =
      ((List.range size).map fun i => num.toNat / 256 ^ i % 256).reverse := by
  have hrange : (List.range 8).reverse.drop (8 - size) = (List.range size).reverse := by
    rw [show 8 = size + (8 - size) by omega, List.range_add, List.reverse_append,
      List.drop_left' (by simp)]
  rw [uint64To8be, ← List.map_drop, hrange, List.map_map, List.map_reverse]
  congr 1
  apply List.map_congr_left
  intro i hi
  have hi8 : 8 * i < 64 := by simp at hi; omega
  simp [UInt64.toNat_shiftRight, Nat.shiftRight_eq_div_pow, Nat.mod_eq_of_lt hi8, pow_mul]

theorem uint64To8be_bigEndianValue {data : List UInt8} (h : data.length ≤ 8) :
    uint64To8be (UInt64.ofNat (bigEndianValue data)) data.length = data := by
  have hv := bigEndianValue_lt data
  have hv64 : bigEndianValue data < 2 ^ 64 :=
    lt_of_lt_of_le hv (by rw [show 2 ^ 64 = 256 ^ 8 by norm_num]; exact Nat.pow_le_pow_right (by decide) h)
  apply List.map_injective_iff.mpr (fun a b hab => UInt8.toNat_inj.mp hab)
  rw [map_toNat_uint64To8be _ h, UInt64.toNat_ofNat', Nat.mod_eq_of_lt hv64,
    ← Nat.digitsAppend_eq_map_range (by decide) hv]
  have hmem : data.reverse.map UInt8.toNat ∈
      {L : List ℕ | L.length = data.length ∧ ∀ x ∈ L, x < 256} :=
    ⟨by simp, fun x hx => toNat_lt_of_mem_map (by rwa [List.map_reverse, List.mem_reverse] at hx)⟩
  rw [bigEndianValue, (Nat.setInvOn_digitsAppend_ofDigits (by decide : 1 < 256) data.length).1 hmem,
    List.map_reverse, List.reverse_reverse]

theorem bigEndianValue_uint64To8be {size : ℕ} {num : UInt64} (h : size ≤ 8) (hn : num.toNat < 256 ^ size) :
    bigEndianValue (uint64To8be num size) = num.toNat := by
  rw [bigEndianValue, List.map_reverse, map_toNat_uint64To8be _ h, List.reverse_reverse,
    ← Nat.digitsAppend_eq_map_range (by decide) hn]
  exact (Nat.setInvOn_digitsAppend_ofDigits (by decide : 1 < 256) size).2 hn

end Bytes

/-! ## One block -/

section Block

@[simp] theorem toNat_alphabetSize : alphabetSize.toUInt64.toNat = alphabetSize := rfl

/-- The loop of `encode_block` writes the base-58 digits of `num`, lowest first. -/
theorem encodeBlockLoop_eq (num : UInt64) :
    encodeBlockLoop num = (Nat.digits alphabetSize num.toNat).map (alphabet.getD · 0) := by
  fun_induction encodeBlockLoop num with
  | case1 num hpos _ ih =>
    have hpos' : 0 < num.toNat := UInt64.lt_iff_toNat_lt.mp hpos
    rw [Nat.digits_def' (by decide) hpos', List.map_cons, ih, UInt64.toNat_div, UInt64.toNat_mod,
      toNat_alphabetSize]
  | case2 num hzero =>
    have hnum : num.toNat = 0 := by
      rw [UInt64.lt_iff_toNat_lt] at hzero
      simpa using hzero
    rw [hnum, Nat.digits_zero, List.map_nil]

theorem bigEndianValue_lt_pow {block : List UInt8} (h : block.length ≤ fullBlockSize) :
    bigEndianValue block < alphabetSize ^ encodedBlockSizes.getD block.length 0 :=
  lt_of_lt_of_le (bigEndianValue_lt block)
    (pow_le_pow_encodedBlockSizes h)

/-- `encode_block` writes the value of the block with `encoded_block_sizes[size]`
base-58 digits, the most significant first. -/
theorem encodeBlock_eq {block : List UInt8} (h : block.length ≤ fullBlockSize) :
    encodeBlock block = ((Nat.digitsAppend alphabetSize (encodedBlockSizes.getD block.length 0)
      (bigEndianValue block)).map (alphabet.getD · 0)).reverse := by
  simp only [encodeBlock]
  rw [encodeBlockLoop_eq, toNat_uint8beTo64 h, Nat.digitsAppend, List.map_append, List.map_replicate,
    List.reverse_append, List.reverse_replicate, List.length_map]

theorem length_encodeBlock {block : List UInt8} (h : block.length ≤ fullBlockSize) :
    (encodeBlock block).length = encodedBlockSizes.getD block.length 0 := by
  rw [encodeBlock_eq h, List.length_reverse, List.length_map,
    Nat.length_digitsAppend (by decide) _ (bigEndianValue_lt_pow h)]

theorem mapM_reverseAlphabet_map {ds : List ℕ} (h : ∀ d ∈ ds, d < alphabetSize) :
    (ds.map (alphabet.getD · 0)).mapM reverseAlphabet = some ds := by
  rw [List.mapM_option_eq_some_iff, List.forall₂_map_left_iff, List.forall₂_same]
  exact fun d hd => reverseAlphabet_getD ⟨d, h d hd⟩

theorem eq_map_of_mapM_reverseAlphabet {cs : List UInt8} {ds : List ℕ}
    (h : cs.mapM reverseAlphabet = some ds) :
    cs = ds.map (alphabet.getD · 0) ∧ ∀ d ∈ ds, d < alphabetSize := by
  rw [List.mapM_option_eq_some_iff] at h
  induction h with
  | nil => simp
  | cons hc _ ih =>
    obtain ⟨hlt, hget⟩ := getD_of_reverseAlphabet hc
    obtain ⟨rfl, hall⟩ := ih
    exact ⟨by rw [List.map_cons, hget], List.forall_mem_cons.mpr ⟨hlt, hall⟩⟩

/-- One digit of `decode_block`: the test refuses exactly a sum past 64 bits,
and otherwise the sum does not wrap. -/
theorem decodeBlockLoop_digit (resNum order : UInt64) {digit : ℕ} (hd : digit < alphabetSize) :
    ((resNum + (mul128 order digit.toUInt64).1 < resNum ∨ (mul128 order digit.toUInt64).2 ≠ 0) ↔
      2 ^ 64 ≤ resNum.toNat + order.toNat * digit) ∧
    (resNum.toNat + order.toNat * digit < 2 ^ 64 →
      (resNum + (mul128 order digit.toUInt64).1).toNat = resNum.toNat + order.toNat * digit) := by
  have hspec := mul128_spec order digit.toUInt64
  have hdigit : digit.toUInt64.toNat = digit := by
    simp only [Nat.toUInt64_eq, UInt64.toNat_ofNat']
    exact Nat.mod_eq_of_lt (lt_trans hd (by decide))
  rw [hdigit] at hspec
  generalize (mul128 order digit.toUInt64).1 = lo at hspec ⊢
  generalize (mul128 order digit.toUInt64).2 = hi at hspec ⊢
  have := resNum.toNat_lt
  have := lo.toNat_lt
  rw [add_lt_iff_carry, ne_eq, ← UInt64.toNat_inj, UInt64.toNat_zero, UInt64.toNat_add]
  constructor
  · omega
  · intro hlt
    omega

theorem ofNat_pow_mul_alphabetSize (j : ℕ) :
    UInt64.ofNat (alphabetSize ^ j) * alphabetSize.toUInt64 = UInt64.ofNat (alphabetSize ^ (j + 1)) := by
  rw [← UInt64.toNat_inj, UInt64.toNat_mul]
  simp only [UInt64.toNat_ofNat', Nat.toUInt64_eq]
  rw [Nat.pow_succ]
  exact (Nat.mul_mod _ _ _).symm

/-- The loop of `decode_block` from the digit of weight `58^j`: it reads the
base-58 value of the characters, lowest digit first, and refuses a character
outside the alphabet or a value past 64 bits. -/
theorem decodeBlockLoop_eq : ∀ (cs : List UInt8) (resNum : UInt64) (j : ℕ),
    j + cs.length ≤ fullEncodedBlockSize →
    decodeBlockLoop cs resNum (UInt64.ofNat (alphabetSize ^ j)) =
      (cs.mapM reverseAlphabet).bind fun ds =>
        if resNum.toNat + alphabetSize ^ j * Nat.ofDigits alphabetSize ds < 2 ^ 64 then
          some (UInt64.ofNat (resNum.toNat + alphabetSize ^ j * Nat.ofDigits alphabetSize ds))
        else none
  | [], resNum, j, _ => by simp [decodeBlockLoop, resNum.toNat_lt]
  | c :: cs, resNum, j, hj => by
    rw [List.length_cons] at hj
    -- the weight `58^j` is exact while a digit is left to read
    have horder : (UInt64.ofNat (alphabetSize ^ j)).toNat = alphabetSize ^ j := by
      rw [UInt64.toNat_ofNat', Nat.mod_eq_of_lt]
      calc alphabetSize ^ j ≤ alphabetSize ^ 10 :=
            Nat.pow_le_pow_right (by decide) (by simp only [fullEncodedBlockSize] at hj; omega)
        _ < 2 ^ 64 := by decide
    rw [decodeBlockLoop, List.mapM_cons]
    cases hc : reverseAlphabet c with
    | none => simp
    | some d =>
      obtain ⟨hd, -⟩ := getD_of_reverseAlphabet hc
      obtain ⟨hiff, hexact⟩ := decodeBlockLoop_digit resNum (UInt64.ofNat (alphabetSize ^ j)) hd
      rw [horder] at hiff hexact
      simp only
      split_ifs with hover
      · -- the value passes 64 bits already at this digit
        have hge := hiff.mp hover
        cases cs.mapM reverseAlphabet with
        | none => simp
        | some ds =>
          have hle : alphabetSize ^ j * d ≤ alphabetSize ^ j * Nat.ofDigits alphabetSize (d :: ds) :=
            Nat.mul_le_mul_left _ (by rw [Nat.ofDigits_cons]; omega)
          simp only [Option.bind_eq_bind, Option.pure_def, Option.bind_some]
          rw [if_neg (by omega)]
      · have hlt : resNum.toNat + alphabetSize ^ j * d < 2 ^ 64 := by
          by_contra hge
          exact hover (hiff.mpr (by omega))
        rw [ofNat_pow_mul_alphabetSize, decodeBlockLoop_eq cs _ (j + 1) (by omega), hexact hlt]
        cases cs.mapM reverseAlphabet with
        | none => simp
        | some ds =>
          -- the digits read after this one weigh `58^(j+1)`
          have hsum : resNum.toNat + alphabetSize ^ j * d + alphabetSize ^ (j + 1) * Nat.ofDigits alphabetSize ds =
              resNum.toNat + alphabetSize ^ j * Nat.ofDigits alphabetSize (d :: ds) := by
            rw [Nat.ofDigits_cons, Nat.pow_succ]
            ring
          simp only [Option.bind_eq_bind, Option.pure_def, Option.bind_some, hsum]

theorem decodeBlockLoop_start {cs : List UInt8} (h : cs.length ≤ fullEncodedBlockSize) :
    decodeBlockLoop cs 0 1 = (cs.mapM reverseAlphabet).bind fun ds =>
      if Nat.ofDigits alphabetSize ds < 2 ^ 64 then some (UInt64.ofNat (Nat.ofDigits alphabetSize ds))
      else none := by
  simpa using decodeBlockLoop_eq cs 0 0 (by omega)

/-- The check of a partial block refuses exactly a value that does not fit its
bytes; a full block fits any 64-bit value. -/
theorem partialBlockCheck_iff {resSize : ℕ} (resNum : UInt64) (h : resSize ≤ fullBlockSize) :
    (resSize < fullBlockSize ∧ (1 : UInt64) <<< (8 * resSize).toUInt64 ≤ resNum) ↔
      256 ^ resSize ≤ resNum.toNat := by
  have := resNum.toNat_lt
  rcases Nat.lt_or_ge resSize fullBlockSize with hlt | hge
  · have h8 : 8 * resSize < 64 := by simp only [fullBlockSize] at hlt; omega
    have hshift : ((1 : UInt64) <<< (8 * resSize).toUInt64).toNat = 256 ^ resSize := by
      have hs : (8 * resSize).toUInt64.toNat % 64 = 8 * resSize := by
        simp only [Nat.toUInt64_eq, UInt64.toNat_ofNat']
        omega
      rw [UInt64.toNat_shiftLeft, hs, UInt64.toNat_one, Nat.one_shiftLeft,
        Nat.mod_eq_of_lt (Nat.pow_lt_pow_right (by decide) h8), pow_mul]
      rfl
    rw [UInt64.le_iff_toNat_le, hshift]
    simp [hlt]
  · -- a full block: `256^8 = 2^64`
    have hfull : resSize = 8 := le_antisymm h hge
    subst hfull
    simp only [fullBlockSize, lt_irrefl, false_and, false_iff, not_le]
    exact lt_of_lt_of_eq this (by norm_num)

/-- What `decode_block` checks before it writes its bytes. -/
theorem decodeBlock_eq_some_iff {block out : List UInt8} :
    decodeBlock block = some out ↔
      ∃ resSize resNum, decodedBlockSizes block.length = some resSize ∧ resSize ≠ 0 ∧
        decodeBlockLoop block.reverse 0 1 = some resNum ∧
        ¬(resSize < fullBlockSize ∧ (1 : UInt64) <<< (8 * resSize).toUInt64 ≤ resNum) ∧
        uint64To8be resNum resSize = out := by
  unfold decodeBlock
  split
  · simp_all
  · simp_all
  · rename_i resSize hsize hne
    split
    · simp_all
    · split_ifs <;> simp_all

/-- **A block round trip.** A block of one to eight bytes that `encode_block`
wrote decodes back to it. -/
theorem decodeBlock_encodeBlock {block : List UInt8} (hpos : 0 < block.length)
    (h : block.length ≤ fullBlockSize) : decodeBlock (encodeBlock block) = some block := by
  have hval := bigEndianValue_lt_pow h
  have hv64 : bigEndianValue block < 2 ^ 64 :=
    calc bigEndianValue block < 256 ^ block.length := bigEndianValue_lt block
      _ ≤ 256 ^ 8 := Nat.pow_le_pow_right (by decide) h
      _ = 2 ^ 64 := by norm_num
  have hfits : (UInt64.ofNat (bigEndianValue block)).toNat = bigEndianValue block := by
    rw [UInt64.toNat_ofNat', Nat.mod_eq_of_lt hv64]
  have hlen := length_encodeBlock h
  have hdigits : ∀ d ∈ Nat.digitsAppend alphabetSize (encodedBlockSizes.getD block.length 0)
      (bigEndianValue block), d < alphabetSize :=
    fun d hd => Nat.lt_of_mem_digitsAppend (by decide) _ _ hd
  have hvalue : Nat.ofDigits alphabetSize (Nat.digitsAppend alphabetSize
      (encodedBlockSizes.getD block.length 0) (bigEndianValue block)) = bigEndianValue block :=
    (Nat.setInvOn_digitsAppend_ofDigits (by decide) _).2 hval
  have hloop : decodeBlockLoop (encodeBlock block).reverse 0 1 =
      some (UInt64.ofNat (bigEndianValue block)) := by
    rw [decodeBlockLoop_start (by
        rw [List.length_reverse, hlen]
        exact (encodedBlockSizes_bounds h).1),
      encodeBlock_eq h, List.reverse_reverse, mapM_reverseAlphabet_map hdigits, Option.bind_some,
      hvalue, if_pos hv64]
  refine decodeBlock_eq_some_iff.mpr ⟨block.length, _, ?_, by omega, hloop, ?_, uint64To8be_bigEndianValue h⟩
  · rw [hlen]
    exact decodedBlockSizes_getD h
  · rw [partialBlockCheck_iff _ h, hfits, not_le]
    exact bigEndianValue_lt block

/-- A block `decode_block` accepts is the one `encode_block` writes for the
bytes it decodes to. -/
theorem encodeBlock_of_decodeBlock {block out : List UInt8} (h : decodeBlock block = some out) :
    encodeBlock out = block ∧ decodedBlockSizes block.length = some out.length := by
  obtain ⟨resSize, resNum, hsize, -, hloop, hcheck, rfl⟩ := decodeBlock_eq_some_iff.mp h
  obtain ⟨hle, hE⟩ := getD_of_decodedBlockSizes hsize
  have hblock : block.reverse.length ≤ fullEncodedBlockSize := by
    rw [List.length_reverse, ← hE]
    exact (encodedBlockSizes_bounds hle).1
  rw [decodeBlockLoop_start hblock] at hloop
  obtain ⟨ds, hds, hloop⟩ := Option.bind_eq_some_iff.mp hloop
  split_ifs at hloop with hlt
  cases hloop
  obtain ⟨hrev, hdig⟩ := eq_map_of_mapM_reverseAlphabet hds
  have hfits : (UInt64.ofNat (Nat.ofDigits alphabetSize ds)).toNat = Nat.ofDigits alphabetSize ds := by
    rw [UInt64.toNat_ofNat', Nat.mod_eq_of_lt hlt]
  rw [partialBlockCheck_iff _ hle, hfits, not_le] at hcheck
  have hlen := length_uint64To8be (UInt64.ofNat (Nat.ofDigits alphabetSize ds)) hle
  have hval : bigEndianValue (uint64To8be (UInt64.ofNat (Nat.ofDigits alphabetSize ds)) resSize) =
      Nat.ofDigits alphabetSize ds := by
    rw [bigEndianValue_uint64To8be hle (by rwa [hfits]), hfits]
  -- the characters are the digits of the value, so they are its fixed-width digits
  have hdslen : ds.length = encodedBlockSizes.getD resSize 0 := by
    have h := congrArg List.length hrev
    rw [List.length_reverse, List.length_map] at h
    rw [hE, h]
  have hinv : Nat.digitsAppend alphabetSize (encodedBlockSizes.getD resSize 0)
      (Nat.ofDigits alphabetSize ds) = ds :=
    (Nat.setInvOn_digitsAppend_ofDigits (by decide) _).1 ⟨hdslen, hdig⟩
  refine ⟨?_, by rw [hsize, hlen]⟩
  rw [encodeBlock_eq (by rw [hlen]; exact hle), hlen, hval, hinv, ← hrev, List.reverse_reverse]

end Block

/-! ## The codec -/

section Codec

theorem encodeBlock_nil : encodeBlock [] = [] := by
  simp [@encodeBlock_eq [] (Nat.zero_le _), Nat.digitsAppend, bigEndianValue, encodedBlockSizes]

/-- `encode` is the full blocks encoded, then the last block; an empty last
block encodes to nothing. -/
theorem encode_eq (data : List UInt8) :
    encode data = ((Blocks.full fullBlockSize data).map encodeBlock).flatten ++
      encodeBlock (Blocks.rest fullBlockSize data) := by
  by_cases hnil : data = []
  · subst hnil
    simp [encode, Blocks.full, Blocks.rest, encodeBlock_nil]
  · have hrest : (Blocks.rest fullBlockSize data).length = data.length % fullBlockSize :=
      Blocks.length_rest _ _
    simp only [encode, List.isEmpty_iff, hnil, if_false, List.flatMap_def]
    split_ifs with hpos
    · rfl
    · rw [List.length_eq_zero_iff.mp (by omega : (Blocks.rest fullBlockSize data).length = 0),
        encodeBlock_nil]

/-- Full blocks that `decode_block` accepts are what `encode_block` writes for
the eight bytes each decodes to. -/
theorem encodeBlocks_of_decodeBlocks {cs os : List (List UInt8)}
    (h : List.Forall₂ (fun c o => decodeBlock c = some o) cs os)
    (hcs : ∀ c ∈ cs, c.length = fullEncodedBlockSize) :
    os.map encodeBlock = cs ∧ ∀ o ∈ os, o.length = fullBlockSize := by
  induction h with
  | nil => simp
  | @cons c o cs os hc _ ih =>
    obtain ⟨henc, hsize⟩ := encodeBlock_of_decodeBlock hc
    obtain ⟨ih₁, ih₂⟩ := ih fun c' hc' => hcs c' (List.mem_cons_of_mem c hc')
    -- `decoded_block_sizes[full_encoded_block_size]` is `full_block_size`
    have hfull : decodedBlockSizes fullEncodedBlockSize = some fullBlockSize := by decide
    rw [hcs c List.mem_cons_self, hfull] at hsize
    exact ⟨by rw [List.map_cons, henc, ih₁], List.forall_mem_cons.mpr ⟨(Option.some.inj hsize).symm, ih₂⟩⟩

theorem decode_encode (data : List UInt8) : decode (encode data) = some data := by
  have hbs : ∀ b ∈ Blocks.full fullBlockSize data, b.length = fullBlockSize :=
    fun b hb => Blocks.length_of_mem_full hb
  have hr : (Blocks.rest fullBlockSize data).length < fullBlockSize := by
    rw [Blocks.length_rest]
    exact Nat.mod_lt _ (by decide)
  have hbounds := encodedBlockSizes_bounds hr.le
  have hlast := length_encodeBlock hr.le
  have hlast_lt : (encodeBlock (Blocks.rest fullBlockSize data)).length < fullEncodedBlockSize := by
    rw [hlast]
    exact hbounds.2.1.mpr hr
  have henc : ∀ c ∈ (Blocks.full fullBlockSize data).map encodeBlock, c.length = fullEncodedBlockSize := by
    intro c hc
    obtain ⟨b, hb, rfl⟩ := List.mem_map.mp hc
    rw [length_encodeBlock (le_of_eq (hbs b hb)), hbs b hb]
    rfl
  have hfull := Blocks.full_flatten_append henc hlast_lt
  have hrest := Blocks.rest_flatten_append henc hlast_lt
  rw [← encode_eq] at hfull hrest
  have hmod : (encode data).length % fullEncodedBlockSize =
      (encodeBlock (Blocks.rest fullBlockSize data)).length := by
    rw [← Blocks.length_rest, hrest]
  have hdecoded : decodedBlockSizes (encodeBlock (Blocks.rest fullBlockSize data)).length =
      some (Blocks.rest fullBlockSize data).length := by
    rw [hlast]
    exact decodedBlockSizes_getD hr.le
  have hblocks : ((Blocks.full fullBlockSize data).map encodeBlock).mapM decodeBlock =
      some (Blocks.full fullBlockSize data) := by
    rw [List.mapM_option_eq_some_iff, List.forall₂_map_left_iff, List.forall₂_same]
    intro b hb
    exact decodeBlock_encodeBlock (by rw [hbs b hb]; decide) (le_of_eq (hbs b hb))
  by_cases hnil : encode data = []
  · -- only empty data encodes to nothing
    rw [hnil] at hfull hrest
    have hbs' : Blocks.full fullBlockSize data = [] := by
      rw [Blocks.full_of_length_lt (by decide), eq_comm, List.map_eq_nil_iff] at hfull
      exact hfull
    have hr' : (Blocks.rest fullBlockSize data).length = 0 := by
      rw [Blocks.rest_of_length_lt (by decide)] at hrest
      have := congrArg List.length hrest
      rw [hlast, List.length_nil] at this
      by_contra hpos
      have := hbounds.2.2.mpr (by omega)
      omega
    have hdata := Blocks.flatten_full_append_rest fullBlockSize data
    rw [hbs', List.length_eq_zero_iff.mp hr'] at hdata
    rw [hnil, ← hdata]
    rfl
  unfold decode
  simp only [List.isEmpty_iff, hnil, if_false, hmod, hdecoded, Option.bind_eq_bind]
  rw [hfull, hblocks, Option.bind_some, hrest]
  -- the last block, empty exactly when the data fills whole blocks
  split_ifs with hpos
  · rw [decodeBlock_encodeBlock (hbounds.2.2.mp (by omega)) hr.le, Option.bind_some, Option.pure_def,
      Blocks.flatten_full_append_rest]
  · have hzero : ¬0 < (Blocks.rest fullBlockSize data).length := fun h => by
      have := hbounds.2.2.mpr h
      omega
    have hdata := Blocks.flatten_full_append_rest fullBlockSize data
    rw [List.length_eq_zero_iff.mp (by omega : (Blocks.rest fullBlockSize data).length = 0)] at hdata
    rw [Option.bind_some, Option.pure_def, hdata]

theorem encode_decode {enc data : List UInt8} (h : decode enc = some data) : encode data = enc := by
  by_cases hnil : enc = []
  · subst hnil
    simp only [decode, List.isEmpty_nil, if_true, Option.some.injEq] at h
    subst h
    rfl
  unfold decode at h
  simp only [List.isEmpty_iff, hnil, if_false] at h
  split at h
  · cases h
  simp only [Option.bind_eq_bind] at h
  obtain ⟨os, hos, h⟩ := Option.bind_eq_some_iff.mp h
  have hcs : ∀ c ∈ Blocks.full fullEncodedBlockSize enc, c.length = fullEncodedBlockSize :=
    fun c hc => Blocks.length_of_mem_full hc
  obtain ⟨hmap, hos8⟩ := encodeBlocks_of_decodeBlocks (List.mapM_option_eq_some_iff.mp hos) hcs
  have ht : (Blocks.rest fullEncodedBlockSize enc).length = enc.length % fullEncodedBlockSize :=
    Blocks.length_rest _ _
  -- the last block encodes back, and holds fewer than eight bytes
  obtain ⟨o, hlast, rfl⟩ : ∃ o, (encodeBlock o = Blocks.rest fullEncodedBlockSize enc ∧
      o.length < fullBlockSize) ∧ data = os.flatten ++ o := by
    split_ifs at h with hpos
    · obtain ⟨o, ho, h⟩ := Option.bind_eq_some_iff.mp h
      rw [Option.pure_def, Option.some.injEq] at h
      obtain ⟨henc, hsize⟩ := encodeBlock_of_decodeBlock ho
      obtain ⟨hle, hE⟩ := getD_of_decodedBlockSizes hsize
      have hlt : encodedBlockSizes.getD o.length 0 < fullEncodedBlockSize := by
        rw [hE, ht]
        exact Nat.mod_lt _ (by decide)
      exact ⟨o, ⟨henc, (encodedBlockSizes_bounds hle).2.1.mp hlt⟩, h.symm⟩
    · rw [Option.bind_some, Option.pure_def, Option.some.injEq] at h
      refine ⟨[], ⟨?_, by decide⟩, h.symm⟩
      rw [encodeBlock_nil, eq_comm, ← List.length_eq_zero_iff]
      omega
  rw [encode_eq, Blocks.full_flatten_append hos8 hlast.2, Blocks.rest_flatten_append hos8 hlast.2,
    hmap, hlast.1, Blocks.flatten_full_append_rest]

/-- **Base58 is a bijection between byte strings and the strings it accepts.**
`decode` accepts a string exactly when it is the encoding of the bytes it
decodes to: `decode (encode d) = some d` for every `d`, and every string that
`decode` accepts is `encode` of its result. -/
theorem decode_eq_some_iff_encode_eq (enc data : List UInt8) : decode enc = some data ↔ encode data = enc :=
  ⟨encode_decode, fun h => h ▸ decode_encode data⟩

end Codec

/-! ## Addresses -/

section Address

variable (cnFastHash : List UInt8 → Hash)

theorem length_checksum (buf : List UInt8) :
    ((cnFastHash buf).bytes.take addrChecksumSize).length = addrChecksumSize := by
  rw [List.length_take, (cnFastHash buf).length_eq]
  rfl

/-- `decode_addr` reads back the tag and the data `encode_addr` wrote, whatever
bytes the data starts with. -/
theorem decodeAddr_encodeAddr (tag : UInt64) (data : List UInt8) :
    decodeAddr cnFastHash (encodeAddr cnFastHash tag data) = some (tag, data) := by
  have hcs := length_checksum cnFastHash (writeVarint tag.toNat ++ data)
  have hvarint := List.length_pos_of_ne_nil (writeVarint_ne_nil tag.toNat)
  have hlen : (writeVarint tag.toNat ++ data ++ (cnFastHash (writeVarint tag.toNat ++ data)).bytes.take
      addrChecksumSize).length - addrChecksumSize = (writeVarint tag.toNat ++ data).length := by
    simp only [List.length_append, hcs]
    omega
  unfold decodeAddr encodeAddr
  rw [decode_encode]
  simp only
  rw [if_neg (by simp only [List.length_append, hcs]; omega), hlen, List.drop_left' rfl,
    List.take_left' rfl, if_neg (not_not.mpr rfl), readVarint_writeVarint tag.toNat_lt,
    if_neg (by omega)]
  -- the varint is read to its last byte, so the data follows it
  simp

/-- `decode_addr` accepts only strings whose last four decoded bytes are the
first four bytes of `cn_fast_hash` of the bytes before them. -/
theorem checksum_of_decodeAddr {addr : List UInt8} {tag : UInt64} {data : List UInt8}
    (h : decodeAddr cnFastHash addr = some (tag, data)) :
    ∃ addrData, decode addr = some addrData ∧ addrChecksumSize < addrData.length ∧
      addrData.drop (addrData.length - addrChecksumSize) =
        (cnFastHash (addrData.take (addrData.length - addrChecksumSize))).bytes.take addrChecksumSize := by
  unfold decodeAddr at h
  split at h
  · cases h
  · rename_i addrData hdecode
    simp only at h
    split_ifs at h with hlen hsum
    exact ⟨addrData, hdecode, by omega, (not_not.mp hsum).symm⟩

/-- **The address envelope.** For any `cn_fast_hash`, `decode_addr` reads back
every tag and data `encode_addr` wrote, and accepts only strings that decode to
bytes ending in the checksum of the bytes before it. -/
theorem decodeAddr_encodeAddr_checksum :
    (∀ tag data, decodeAddr cnFastHash (encodeAddr cnFastHash tag data) = some (tag, data)) ∧
      ∀ addr tag data, decodeAddr cnFastHash addr = some (tag, data) →
        ∃ addrData, decode addr = some addrData ∧ addrChecksumSize < addrData.length ∧
          addrData.drop (addrData.length - addrChecksumSize) =
            (cnFastHash (addrData.take (addrData.length - addrChecksumSize))).bytes.take addrChecksumSize :=
  ⟨decodeAddr_encodeAddr cnFastHash, fun _ _ _ h => checksum_of_decodeAddr cnFastHash h⟩

/-- With the hash that sends everything to `null_hash`: the address of tag 0 and
no data is read back, and carries the checksum. -/
theorem decodeAddr_encodeAddr_checksum_nullHash :
    decodeAddr (fun _ => nullHash) (encodeAddr (fun _ => nullHash) 0 []) = some (0, []) ∧
      ∃ addrData, decode (encodeAddr (fun _ => nullHash) 0 []) = some addrData ∧
        addrChecksumSize < addrData.length ∧
        addrData.drop (addrData.length - addrChecksumSize) = nullHash.bytes.take addrChecksumSize :=
  ⟨(decodeAddr_encodeAddr_checksum _).1 0 [],
    (decodeAddr_encodeAddr_checksum _).2 _ 0 [] ((decodeAddr_encodeAddr_checksum _).1 0 [])⟩

end Address

end Base58

end Ombre
