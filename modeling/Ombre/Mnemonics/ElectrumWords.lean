import Ombre.Mnemonics.Language
import Ombre.Basic.Amount
import Ombre.Basic.Types
import Ombre.Lib.BlockCode

/-!
# Electrum-style mnemonic seeds

`Electrum14Words` and `Electrum25Words` of `electrum-words.cpp`. A key is cut
into 32-bit values, each written as three indices into a list of `N = 1626`
words: the value's base-`N` digits, lowest first, each added to the index
before it modulo `N` (`valueToIndices`). The 25-word seed of a 32-byte key ends
with a copy of one of its words, chosen by a CRC-32 of the words' prefixes; the
14-word seed of a 16-byte key ends with two words that write a 12-bit CRC of
the key and a byte `extra`. Reading a seed back trims and splits the text,
finds the seed's language (`find_seed_language`), the index of each word
(`match_words`), checks the checksum and rebuilds each value in 32-bit
arithmetic (`indicesToValue`), refusing a value that does not give back its
first index.

The bytes of a key are read and written as 32-bit values stored least
significant byte first (`readUInt32`, `uint32Bytes`), the `memcpy` and the
`uint32_t *` casts of the source on a little-endian machine. `boost::crc_32_type`
is the reflected CRC-32 computed a bit at a time (`crc32`), the function boost
computes from its table; `calc_crc12` keeps the source's table. Out-of-range
reads, which the source leaves undefined, read a default.

A seed is read back as the key it was written from, in both forms, when its
words are read in the language it was written in: when each is found under its
own index by its prefix and no language after it in `find_seed_language`'s
order holds every word (`wordsToBytes_bytesToWords`,
`wordsToBytes_bytesToWords_extra`); the Spanish seed of "brazo" shows that the
last condition is needed.
-/

namespace Ombre

/-- `crypto::secret_key` -/
abbrev SecretKey := Pod 32

namespace Electrum

open Ombre.Language

/-- `Electrum::get_language_list` -/
def getLanguageList : List Base :=
  [german, english, spanish, french, italian, dutch, portuguese, russian, japanese,
    chineseSimplified, esperanto, lojban]

/-- The language `bytes_to_words` writes in: the first of `get_language_list`
whose name or English name is `languageName`. -/
def findLanguage (languageName : String) : Option Base :=
  getLanguageList.find? fun b => b.languageName == languageName || b.englishLanguageName == languageName

end Electrum

namespace ElectrumWords

open Ombre.Language Tokens

/-- `seed_length` -/
def seedLength : ℕ := 24

/-- `crc12_table` -/
def crc12Table : List UInt16 := [
  0x000, 0x987, 0xa89, 0x30e, 0xc95, 0x512, 0x61c, 0xf9b, 0x0ad, 0x92a, 0xa24, 0x3a3, 0xc38, 0x5bf, 0x6b1, 0xf36,
  0x15a, 0x8dd, 0xbd3, 0x254, 0xdcf, 0x448, 0x746, 0xec1, 0x1f7, 0x870, 0xb7e, 0x2f9, 0xd62, 0x4e5, 0x7eb, 0xe6c,
  0x2b4, 0xb33, 0x83d, 0x1ba, 0xe21, 0x7a6, 0x4a8, 0xd2f, 0x219, 0xb9e, 0x890, 0x117, 0xe8c, 0x70b, 0x405, 0xd82,
  0x3ee, 0xa69, 0x967, 0x0e0, 0xf7b, 0x6fc, 0x5f2, 0xc75, 0x343, 0xac4, 0x9ca, 0x04d, 0xfd6, 0x651, 0x55f, 0xcd8,
  0x568, 0xcef, 0xfe1, 0x666, 0x9fd, 0x07a, 0x374, 0xaf3, 0x5c5, 0xc42, 0xf4c, 0x6cb, 0x950, 0x0d7, 0x3d9, 0xa5e,
  0x432, 0xdb5, 0xebb, 0x73c, 0x8a7, 0x120, 0x22e, 0xba9, 0x49f, 0xd18, 0xe16, 0x791, 0x80a, 0x18d, 0x283, 0xb04,
  0x7dc, 0xe5b, 0xd55, 0x4d2, 0xb49, 0x2ce, 0x1c0, 0x847, 0x771, 0xef6, 0xdf8, 0x47f, 0xbe4, 0x263, 0x16d, 0x8ea,
  0x686, 0xf01, 0xc0f, 0x588, 0xa13, 0x394, 0x09a, 0x91d, 0x62b, 0xfac, 0xca2, 0x525, 0xabe, 0x339, 0x037, 0x9b0,
  0xad0, 0x357, 0x059, 0x9de, 0x645, 0xfc2, 0xccc, 0x54b, 0xa7d, 0x3fa, 0x0f4, 0x973, 0x6e8, 0xf6f, 0xc61, 0x5e6,
  0xb8a, 0x20d, 0x103, 0x884, 0x71f, 0xe98, 0xd96, 0x411, 0xb27, 0x2a0, 0x1ae, 0x829, 0x7b2, 0xe35, 0xd3b, 0x4bc,
  0x864, 0x1e3, 0x2ed, 0xb6a, 0x4f1, 0xd76, 0xe78, 0x7ff, 0x8c9, 0x14e, 0x240, 0xbc7, 0x45c, 0xddb, 0xed5, 0x752,
  0x93e, 0x0b9, 0x3b7, 0xa30, 0x5ab, 0xc2c, 0xf22, 0x6a5, 0x993, 0x014, 0x31a, 0xa9d, 0x506, 0xc81, 0xf8f, 0x608,
  0xfb8, 0x63f, 0x531, 0xcb6, 0x32d, 0xaaa, 0x9a4, 0x023, 0xf15, 0x692, 0x59c, 0xc1b, 0x380, 0xa07, 0x909, 0x08e,
  0xee2, 0x765, 0x46b, 0xdec, 0x277, 0xbf0, 0x8fe, 0x179, 0xe4f, 0x7c8, 0x4c6, 0xd41, 0x2da, 0xb5d, 0x853, 0x1d4,
  0xd0c, 0x48b, 0x785, 0xe02, 0x199, 0x81e, 0xb10, 0x297, 0xda1, 0x426, 0x728, 0xeaf, 0x134, 0x8b3, 0xbbd, 0x23a,
  0xc56, 0x5d1, 0x6df, 0xf58, 0x0c3, 0x944, 0xa4a, 0x3cd, 0xcfb, 0x57c, 0x672, 0xff5, 0x06e, 0x9e9, 0xae7, 0x360]

/-- `update_crc12` -/
def updateCrc12 (crcv : UInt32) (data : UInt8) : UInt32 :=
  let idx := ((crcv >>> 4) ^^^ data.toUInt32).toUInt8
  (crc12Table.getD idx.toNat 0).toUInt32 ^^^ (crcv <<< 8)

/-- `calc_crc12`: the bytes of the key, then `extra`, and the low 12 bits. -/
def calcCrc12 (key : List UInt8) (extra : UInt8) : UInt32 :=
  updateCrc12 (key.foldl updateCrc12 0) extra &&& 0xfff

/-- One bit of `boost::crc_32_type`, the reflected CRC-32 (polynomial
`0x04C11DB7`, reflected `0xEDB88320`). -/
def crc32Shift (c : UInt32) : UInt32 :=
  if c &&& 1 = 1 then (c >>> 1) ^^^ 0xEDB88320 else c >>> 1

/-- `boost::crc_32_type`: the bytes taken in from `0xFFFFFFFF`, each xored in
and shifted through eight times, and `checksum()` the final value xored with
`0xFFFFFFFF`. -/
def crc32 (bytes : List UInt8) : UInt32 :=
  bytes.foldl (fun c b => Nat.repeat crc32Shift 8 (c ^^^ b.toUInt32)) 0xFFFFFFFF ^^^ 0xFFFFFFFF

/-- The 32-bit value stored at bytes `i` to `i + 3` of `src`. -/
def readUInt32 (src : List UInt8) (i : ℕ) : UInt32 :=
  UInt32.ofNat ((src.getD i 0).toNat + 2 ^ 8 * (src.getD (i + 1) 0).toNat +
    2 ^ 16 * (src.getD (i + 2) 0).toNat + 2 ^ 24 * (src.getD (i + 3) 0).toNat)

/-- The four bytes a 32-bit value is stored as. -/
def uint32Bytes (v : UInt32) : List UInt8 :=
  [UInt8.ofNat v.toNat, UInt8.ofNat (v.toNat / 2 ^ 8), UInt8.ofNat (v.toNat / 2 ^ 16),
    UInt8.ofNat (v.toNat / 2 ^ 24)]

theorem length_uint32Bytes (v : UInt32) : (uint32Bytes v).length = 4 := rfl

/-- A value is read back from the bytes it is stored as. -/
theorem readUInt32_uint32Bytes_append (v : UInt32) (rest : List UInt8) :
    readUInt32 (uint32Bytes v ++ rest) 0 = v := by
  apply UInt32.toNat_inj.mp
  have hv := v.toNat_lt
  simp [readUInt32, uint32Bytes]
  omega

theorem readUInt32_append_right {l r : List UInt8} {i : ℕ} (h : l.length ≤ i) :
    readUInt32 (l ++ r) i = readUInt32 r (i - l.length) := by
  unfold readUInt32
  rw [List.getD_append_right _ _ _ _ h, List.getD_append_right _ _ _ _ (by omega),
    List.getD_append_right _ _ _ _ (by omega), List.getD_append_right _ _ _ _ (by omega)]
  have e1 : i + 1 - l.length = i - l.length + 1 := by omega
  have e2 : i + 2 - l.length = i - l.length + 2 := by omega
  have e3 : i + 3 - l.length = i - l.length + 3 := by omega
  rw [e1, e2, e3]

/-- Values stored one after another are read back at every fourth byte. -/
theorem readUInt32_flatMap : ∀ (vs : List UInt32) (i : ℕ), i < vs.length →
    readUInt32 (vs.flatMap uint32Bytes) (i * 4) = vs.getD i 0
  | [], i, h => absurd h (by simp)
  | v :: vs, 0, _ => by
    rw [List.flatMap_cons, Nat.zero_mul, readUInt32_uint32Bytes_append]
    rfl
  | v :: vs, i + 1, h => by
    rw [List.flatMap_cons, readUInt32_append_right (by rw [length_uint32Bytes]; omega),
      length_uint32Bytes, show (i + 1) * 4 - 4 = i * 4 by omega,
      readUInt32_flatMap vs i (by simpa using h)]
    rfl

/-- Four bytes are read as a value and stored back as themselves. -/
theorem uint32Bytes_readUInt32_cons (a b c d : UInt8) (rest : List UInt8) :
    uint32Bytes (readUInt32 (a :: b :: c :: d :: rest) 0) = [a, b, c, d] := by
  have ha := a.toNat_lt
  have hb := b.toNat_lt
  have hc := c.toNat_lt
  have hd := d.toNat_lt
  have hv : (readUInt32 (a :: b :: c :: d :: rest) 0).toNat =
      a.toNat + 2 ^ 8 * b.toNat + 2 ^ 16 * c.toNat + 2 ^ 24 * d.toNat := by
    simp only [readUInt32, List.getD_cons_zero, List.getD_cons_succ, UInt32.toNat_ofNat']
    omega
  simp only [uint32Bytes, hv, List.cons.injEq, and_true]
  refine ⟨?_, ?_, ?_, ?_⟩ <;> apply UInt8.toNat_inj.mp <;> simp only [UInt8.toNat_ofNat'] <;> omega

theorem readUInt32_drop (src : List UInt8) (i : ℕ) : readUInt32 (src.drop i) 0 = readUInt32 src i := by
  simp only [readUInt32, List.getD_eq_getElem?_getD, List.getElem?_drop]
  rfl

/-- The value read at a fourth byte is stored back as the block it was read from. -/
theorem uint32Bytes_readUInt32 {src : List UInt8} {i : ℕ} (h : i * 4 + 4 ≤ src.length) :
    uint32Bytes (readUInt32 src (i * 4)) = Blocks.block 4 src i := by
  have hlen : 4 ≤ (src.drop (i * 4)).length := by
    rw [List.length_drop]
    omega
  obtain ⟨a, b, c, d, rest, hr⟩ : ∃ a b c d rest, src.drop (i * 4) = a :: b :: c :: d :: rest := by
    rcases hd : src.drop (i * 4) with _ | ⟨a, _ | ⟨b, _ | ⟨c, _ | ⟨d, rest⟩⟩⟩⟩ <;> rw [hd] at hlen <;>
      simp at hlen
    exact ⟨a, b, c, d, rest, rfl⟩
  rw [← readUInt32_drop, Blocks.block, hr, uint32Bytes_readUInt32_cons]
  rfl

/-- The values read at every fourth byte, stored back, give the bytes read. -/
theorem flatMap_uint32Bytes_readUInt32 {src : List UInt8} {n : ℕ} (h : src.length = n * 4) :
    ((List.range n).map fun i => readUInt32 src (i * 4)).flatMap uint32Bytes = src := by
  have hblock : ∀ i ∈ List.range n, uint32Bytes (readUInt32 src (i * 4)) = Blocks.block 4 src i := by
    intro i hi
    have hi := List.mem_range.mp hi
    exact uint32Bytes_readUInt32 (by rw [h]; omega)
  rw [List.flatMap_map, List.flatMap_congr hblock, List.flatMap_def,
    Blocks.flatten_map_block_range, ← h, List.take_length]

/-- The three word indices `bytes_to_words` writes a value as. -/
def valueToIndices (wordListLength val : UInt32) : UInt32 × UInt32 × UInt32 :=
  let w1 := val % wordListLength
  let w2 := ((val / wordListLength) + w1) % wordListLength
  let w3 := (((val / wordListLength) / wordListLength) + w2) % wordListLength
  (w1, w2, w3)

/-- The value `words_to_bytes` rebuilds from three word indices. -/
def indicesToValue (wordListLength w1 w2 w3 : UInt32) : UInt32 :=
  w1 + wordListLength * (((wordListLength - w1) + w2) % wordListLength) +
    wordListLength * wordListLength * (((wordListLength - w2) + w3) % wordListLength)

theorem toNat_add_of_lt32 {a b : UInt32} (h : a.toNat + b.toNat < 2 ^ 32) :
    (a + b).toNat = a.toNat + b.toNat := by
  rw [UInt32.toNat_add, Nat.mod_eq_of_lt h]

theorem toNat_mul_of_lt32 {a b : UInt32} (h : a.toNat * b.toNat < 2 ^ 32) :
    (a * b).toNat = a.toNat * b.toNat := by
  rw [UInt32.toNat_mul, Nat.mod_eq_of_lt h]

/-- The difference `(N - a + b) % N` of two indices below `N = 1626`, as numbers. -/
theorem toNat_sub_add_mod {a b : UInt32} (ha : a.toNat < 1626) (hb : b.toNat < 1626) :
    ((1626 - a + b) % 1626).toNat = (1626 - a.toNat + b.toNat) % 1626 := by
  have hle : a ≤ 1626 := UInt32.le_iff_toNat_le.mpr (by simp; omega)
  have hsub : (1626 - a).toNat = 1626 - a.toNat := by
    rw [UInt32.toNat_sub_of_le _ _ hle]
    rfl
  rw [UInt32.toNat_mod, toNat_add_of_lt32 (by rw [hsub]; omega), hsub]
  rfl

/-- The indices of a value, as numbers: no sum wraps. -/
theorem toNat_valueToIndices (val : UInt32) :
    (valueToIndices 1626 val).1.toNat = val.toNat % 1626 ∧
    (valueToIndices 1626 val).2.1.toNat = (val.toNat / 1626 + val.toNat % 1626) % 1626 ∧
    (valueToIndices 1626 val).2.2.toNat =
      (val.toNat / 1626 / 1626 + (val.toNat / 1626 + val.toNat % 1626) % 1626) % 1626 := by
  have hv := val.toNat_lt
  have hq : (val / 1626 + val % 1626).toNat = val.toNat / 1626 + val.toNat % 1626 := by
    rw [toNat_add_of_lt32 (by simp only [UInt32.toNat_div, UInt32.toNat_mod, UInt32.reduceToNat]; omega)]
    simp only [UInt32.toNat_div, UInt32.toNat_mod, UInt32.reduceToNat]
  have hw2 : ((val / 1626 + val % 1626) % 1626).toNat =
      (val.toNat / 1626 + val.toNat % 1626) % 1626 := by
    rw [UInt32.toNat_mod, hq]
    rfl
  refine ⟨by simp [valueToIndices], hw2, ?_⟩
  simp only [valueToIndices]
  rw [UInt32.toNat_mod,
    toNat_add_of_lt32 (by rw [hw2]; simp only [UInt32.toNat_div, UInt32.reduceToNat]; omega), hw2]
  simp only [UInt32.toNat_div, UInt32.reduceToNat]

/-- A value is rebuilt from the indices it is written as, without wrapping:
`1626 ^ 3` exceeds `2 ^ 32`, so the third digit is below `1626`. -/
theorem indicesToValue_valueToIndices (val : UInt32) :
    indicesToValue 1626 (valueToIndices 1626 val).1 (valueToIndices 1626 val).2.1
      (valueToIndices 1626 val).2.2 = val := by
  have hv := val.toNat_lt
  obtain ⟨h1, h2, h3⟩ := toNat_valueToIndices val
  generalize valueToIndices 1626 val = ws at h1 h2 h3
  obtain ⟨w1, w2, w3⟩ := ws
  dsimp only at h1 h2 h3 ⊢
  have hd1 := toNat_sub_add_mod (a := w1) (b := w2) (by omega) (by omega)
  have hd2 := toNat_sub_add_mod (a := w2) (b := w3) (by omega) (by omega)
  -- the two differences are the value's higher digits
  have e1 : (1626 - w1.toNat + w2.toNat) % 1626 = val.toNat / 1626 % 1626 := by
    rw [h1, h2]
    omega
  have e2 : (1626 - w2.toNat + w3.toNat) % 1626 = val.toNat / 1626 / 1626 := by
    rw [h2, h3]
    omega
  rw [e1] at hd1
  rw [e2] at hd2
  -- the three terms of the sum, none of them wrapping
  have m1 : ((1626 : UInt32) * ((1626 - w1 + w2) % 1626)).toNat = 1626 * (val.toNat / 1626 % 1626) := by
    rw [toNat_mul_of_lt32 (by rw [hd1]; simp only [UInt32.reduceToNat]; omega), hd1]
    rfl
  have m2 : ((1626 : UInt32) * 1626 * ((1626 - w2 + w3) % 1626)).toNat =
      2643876 * (val.toNat / 1626 / 1626) := by
    rw [toNat_mul_of_lt32 (by rw [hd2]; simp only [UInt32.reduceMul, UInt32.reduceToNat]; omega), hd2]
    rfl
  have s1 : (w1 + 1626 * ((1626 - w1 + w2) % 1626)).toNat =
      val.toNat % 1626 + 1626 * (val.toNat / 1626 % 1626) := by
    rw [toNat_add_of_lt32 (by rw [m1, h1]; omega), m1, h1]
  apply UInt32.toNat_inj.mp
  unfold indicesToValue
  rw [toNat_add_of_lt32 (by rw [s1, m2]; omega), s1, m2]
  omega

/-- The text `bytes_to_words` writes for a word index: `word_list[w]`. -/
def word (language : Base) (w : UInt32) : List Char := (language.wordList.getD w.toNat "").toList

/-- The words of a seed text: `boost::algorithm::trim`, then `boost::split` at
spaces with `token_compress_on`. -/
def seedWords (words : List Char) : List (List Char) := splitCompress ' ' (trim words)

/-- The words `bytes_to_words` writes for one value. -/
def valueWords (language : Base) (val : UInt32) : List (List Char) :=
  let (w1, w2, w3) := valueToIndices (UInt32.ofNat language.wordList.length) val
  [word language w1, word language w2, word language w3]

/-- The indices of the words `bytes_to_words` writes for one value. -/
def valueIndices (language : Base) (val : UInt32) : List UInt32 :=
  let (w1, w2, w3) := valueToIndices (UInt32.ofNat language.wordList.length) val
  [w1, w2, w3]

theorem valueWords_eq_map (language : Base) (val : UInt32) :
    valueWords language val = (valueIndices language val).map (word language) := rfl

/-- The indices of the words `bytes_to_words` writes for the values of `src`,
three for each. -/
def wordIndices (language : Base) (src : List UInt8) : List UInt32 :=
  (List.range (src.length / 4)).flatMap fun i => valueIndices language (readUInt32 src (i * 4))

theorem length_wordIndices (language : Base) (src : List UInt8) :
    (wordIndices language src).length = src.length / 4 * 3 := by
  simp [wordIndices, valueIndices, List.length_flatMap]

/-- The indices of a list of `N = 1626` words are below `N`. -/
theorem toNat_lt_of_mem_wordIndices {language : Base} (hlen : language.wordList.length = 1626)
    {src : List UInt8} {w : UInt32} (hw : w ∈ wordIndices language src) : w.toNat < 1626 := by
  have hN : UInt32.ofNat language.wordList.length = 1626 := by rw [hlen]; rfl
  obtain ⟨i, -, hw⟩ := List.mem_flatMap.mp hw
  obtain ⟨h1, h2, h3⟩ := toNat_valueToIndices (readUInt32 src (i * 4))
  simp only [valueIndices, hN, List.mem_cons, List.not_mem_nil, or_false] at hw
  rcases hw with rfl | rfl | rfl
  · rw [h1]; exact Nat.mod_lt _ (by decide)
  · rw [h2]; exact Nat.mod_lt _ (by decide)
  · rw [h3]; exact Nat.mod_lt _ (by decide)

/-- A word of the list is in `word_map`. -/
theorem inWordMap_word {language : Base} {w : UInt32} (hw : w.toNat < language.wordList.length) :
    language.inWordMap (word language w) = true := by
  rw [word, Base.inWordMap_toList, List.getD_eq_getElem _ _ hw, List.contains_iff_mem]
  exact List.getElem_mem hw

/-- `match_words` reads back the indices of words each found under its own
index. -/
theorem matchWords_map_word {lang : Base} : ∀ {ws : List UInt32},
    (∀ w ∈ ws, lang.trimmedWordIndex (utf8Prefix (word lang w) lang.uniquePrefixLength) = some w.toNat) →
    matchWords lang (ws.map (word lang)) = some ws
  | [], _ => rfl
  | w :: ws, h => by
    have ih := matchWords_map_word (fun v hv => h v (List.mem_cons_of_mem w hv))
    rw [matchWords] at ih ⊢
    rw [List.map_cons, List.mapM_cons, ih, h w List.mem_cons_self]
    simp [UInt32.ofNat_toNat]

/-- Nonempty words without white space, joined by spaces, are read back as those
words. -/
theorem seedWords_intercalate {ws : List (List Char)} (hws : ws ≠ []) (hne : ∀ w ∈ ws, w ≠ [])
    (hsp : ∀ w ∈ ws, ∀ c ∈ w, isspace c = false) : seedWords ([' '].intercalate ws) = ws := by
  have hsep : ∀ w ∈ ws, ' ' ∉ w := fun w hw hc => by
    simpa [isspace] using hsp w hw ' ' hc
  have hhead : ∀ c ∈ ([' '].intercalate ws).head?, isspace c = false := by
    obtain ⟨w, rest, rfl⟩ := List.exists_cons_of_ne_nil hws
    obtain ⟨c, cs, hw⟩ := List.exists_cons_of_ne_nil (hne w List.mem_cons_self)
    intro c' hc'
    rw [hw, List.intercalate_cons_cons_left, List.head?_cons, Option.mem_some_iff] at hc'
    subst hc'
    exact hsp w List.mem_cons_self c (by rw [hw]; exact List.mem_cons_self)
  have hlast : ∀ c ∈ ([' '].intercalate ws).getLast?, isspace c = false := by
    obtain ⟨init, w, rfl⟩ := (List.eq_nil_or_concat ws).resolve_left hws
    rw [List.concat_eq_append] at hne hsp ⊢
    have hw : w ∈ init ++ [w] := by simp
    intro c hc
    rw [← flatMap_append_intercalate, List.intercalate_singleton, List.getLast?_append,
      List.getLast?_eq_some_getLast (hne w hw), Option.some_or] at hc
    exact hsp w hw c (List.mem_of_mem_getLast? (by rwa [List.getLast?_eq_some_getLast (hne w hw)]))
  rw [seedWords, trim_eq_self hhead hlast, splitCompress_intercalate hsep hne hws]

/-- The value `words_to_bytes` rebuilds from group `i` of the matched indices. -/
def groupValue (wordListLength : UInt32) (matchedIndices : List UInt32) (i : ℕ) : UInt32 :=
  indicesToValue wordListLength (matchedIndices.getD (i * 3) 0) (matchedIndices.getD (i * 3 + 1) 0)
    (matchedIndices.getD (i * 3 + 2) 0)

/-- The loop of `words_to_bytes` over `count` groups of three indices: each
group's value, refused when it does not give back its first index, stored as
four bytes. -/
def decodeGroups (wordListLength : UInt32) (matchedIndices : List UInt32) (count : ℕ) :
    Option (List UInt8) :=
  (List.range count).foldlM (fun dst i =>
    let val := groupValue wordListLength matchedIndices i
    if val % wordListLength = matchedIndices.getD (i * 3) 0 then some (dst ++ uint32Bytes val)
    else none) []

/-- Groups whose values give back their first index are all decoded, each value
stored as four bytes. -/
theorem decodeGroups_eq_some {wordListLength : UInt32} {matchedIndices : List UInt32} :
    ∀ {count : ℕ}, (∀ i < count, groupValue wordListLength matchedIndices i % wordListLength =
        matchedIndices.getD (i * 3) 0) →
      decodeGroups wordListLength matchedIndices count =
        some (((List.range count).map (groupValue wordListLength matchedIndices)).flatMap uint32Bytes)
  | 0, _ => rfl
  | n + 1, h => by
    have ih : decodeGroups wordListLength matchedIndices n = _ :=
      decodeGroups_eq_some (fun i hi => h i (by omega))
    rw [decodeGroups] at ih ⊢
    rw [List.range_succ, List.foldlM_append, ih]
    simp only [Option.bind_eq_bind, Option.bind_some, List.foldlM_cons, List.foldlM_nil,
      Option.pure_def, Option.bind_fun_some]
    rw [if_pos (h n (by omega)), List.map_append, List.flatMap_append]
    rfl

/-- The loop of `words_to_bytes` rebuilds the bytes whose word indices it is
given, whatever indices follow them. -/
theorem decodeGroups_wordIndices {language : Base} (hlen : language.wordList.length = 1626)
    {src : List UInt8} {n : ℕ} (hsrc : src.length = n * 4) (t : List UInt32) :
    decodeGroups 1626 (wordIndices language src ++ t) n = some src := by
  have hN : UInt32.ofNat language.wordList.length = 1626 := by rw [hlen]; rfl
  have hdiv : src.length / 4 = n := by omega
  -- group `i` holds the indices of value `i`
  have hget : ∀ i < n, ∀ j < 3, (wordIndices language src ++ t).getD (i * 3 + j) 0 =
      (valueIndices language (readUInt32 src (i * 4))).getD j 0 := by
    intro i hi j hj
    have hlt : i * 3 + j < (wordIndices language src).length := by
      rw [length_wordIndices, hdiv]
      omega
    have hthree : ∀ i, (valueIndices language (readUInt32 src (i * 4))).length = 3 := fun _ => rfl
    rw [List.getD_append _ _ _ _ hlt, wordIndices, hdiv, Blocks.getD_flatMap_range hthree 0 hj hi]
  have hgroup : ∀ i < n, groupValue 1626 (wordIndices language src ++ t) i = readUInt32 src (i * 4) := by
    intro i hi
    have h0 := hget i hi 0 (by omega)
    rw [Nat.add_zero] at h0
    rw [groupValue, h0, hget i hi 1 (by omega), hget i hi 2 (by omega)]
    simp only [valueIndices, hN]
    exact indicesToValue_valueToIndices _
  rw [decodeGroups_eq_some]
  · rw [List.map_congr_left (fun i hi => hgroup i (List.mem_range.mp hi)),
      flatMap_uint32Bytes_readUInt32 hsrc]
  · intro i hi
    have h0 := hget i hi 0 (by omega)
    rw [Nat.add_zero] at h0
    rw [hgroup i hi, h0]
    simp only [valueIndices, hN, valueToIndices]
    rfl

theorem groupValue_replicate {wordListLength w : UInt32} {k i : ℕ} (hi : i * 3 + 2 < k) :
    groupValue wordListLength (List.replicate k w) i = indicesToValue wordListLength w w w := by
  rw [groupValue, List.getD_replicate w (by omega), List.getD_replicate w (by omega),
    List.getD_replicate w hi]

end ElectrumWords

namespace Electrum14Words

open Ombre.Language ElectrumWords

/-- `Electrum14Words::bytes_to_words` of the 16 bytes of a key and `extra`: four
values of three words each, then the two words of `calc_crc12(src, extra) << 8 | extra`. -/
def bytesToWords (src : List UInt8) (extra : UInt8) (languageName : String) : Option (List Char) :=
  match Electrum.findLanguage languageName with
  | none => none
  | some language =>
    let wordListLength := UInt32.ofNat language.wordList.length
    let words := (List.range 4).foldl (fun words i =>
      let (w1, w2, w3) := valueToIndices wordListLength (readUInt32 src (i * 4))
      words ++ word language w1 ++ ' ' :: word language w2 ++ ' ' :: word language w3 ++ [' ']) []
    let checksum := (calcCrc12 src extra <<< 8) ||| extra.toUInt32
    let w1 := checksum % wordListLength
    let w2 := ((checksum / wordListLength) + w1) % wordListLength
    some (words ++ word language w1 ++ ' ' :: word language w2)

/-- `Electrum14Words::words_to_bytes`: the 16 bytes of the key, `extra` and the
language's name. A seed of 12 words has no checksum and leaves `extra` as it
was given. -/
def wordsToBytes (words : List Char) (extra : UInt8) : Option (List UInt8 × UInt8 × String) :=
  let seed := seedWords words
  if seed.length ≠ 14 ∧ seed.length ≠ 12 then none else
  match findSeedLanguage seed with
  | none => none
  | some language =>
    match matchWords language seed with
    | none => none
    | some matchedIndices =>
      let wordListLength := UInt32.ofNat language.wordList.length
      match decodeGroups wordListLength matchedIndices (seed.length / 3) with
      | none => none
      | some dst =>
        if seed.length = 14 then
          let w1 := matchedIndices.getD 12 0
          let w2 := matchedIndices.getD 13 0
          let val := (w1 + wordListLength * (((wordListLength - w1) + w2) % wordListLength)) &&& 0xfffff
          let extra := (val &&& 0xff).toUInt8
          let val := val >>> 8
          if calcCrc12 dst extra ≠ val then none else some (dst, extra, language.languageName)
        else some (dst, extra, language.languageName)

end Electrum14Words

namespace Electrum25Words

open Ombre.Language ElectrumWords Tokens

/-- `create_checksum_index`: the CRC-32 of the words' prefixes, as UTF-8 bytes,
modulo `seed_length`. -/
def createChecksumIndex (wordList : List (List Char)) (uniquePrefixLength : ℕ) : UInt32 :=
  let trimmedWords := (wordList.map (trimmed uniquePrefixLength)).flatten
  crc32 (trimmedWords.flatMap String.utf8EncodeChar) % UInt32.ofNat seedLength

/-- `checksum_test`: the last word against the word of the others that
`create_checksum_index` picks, compared by their prefixes. -/
def checksumTest (seed : List (List Char)) (uniquePrefixLength : ℕ) : Bool :=
  match seed.getLast? with
  | none => false
  | some lastWord =>
    let seed := seed.dropLast
    let checksum := seed.getD (createChecksumIndex seed uniquePrefixLength).toNat []
    trimmed uniquePrefixLength checksum == trimmed uniquePrefixLength lastWord

/-- `Electrum25Words::words_to_bytes(words, dst, len, language_name)`: the bytes
of the seed and the language's name. With `len = 0` any number of words is
read and the last one is taken as a checksum. -/
def wordsToBytesBuf (words : List Char) (len : ℕ) : Option (List UInt8 × String) :=
  let seed := seedWords words
  if len % 4 ≠ 0 then none else
  -- a 26th word, a second checksum some wallets write, is ignored
  let seed := if seed.length = 26 then seed.dropLast else seed
  let expected := len * 8 * 3 / 32
  if len ≠ 0 ∧ seed.length ≠ expected / 2 ∧ seed.length ≠ expected ∧ seed.length ≠ expected + 1 then
    none
  else
  let hasChecksum := len = 0 ∨ seed.length = expected + 1
  match findSeedLanguage seed with
  | none => none
  | some language =>
    match matchWords language seed with
    | none => none
    | some matchedIndices =>
      if hasChecksum ∧ checksumTest seed language.uniquePrefixLength = false then none else
      let seed := if hasChecksum then seed.dropLast else seed
      (decodeGroups (UInt32.ofNat language.wordList.length) matchedIndices (seed.length / 3)).map
        fun dst => (dst, language.languageName)

/-- `Electrum25Words::words_to_bytes(words, dst, language_name)` of a secret key:
the seed read with `len = 32`, refused unless it gives 32 bytes. -/
def wordsToBytes (words : List Char) : Option (SecretKey × String) :=
  match wordsToBytesBuf words 32 with
  | none => none
  | some (s, languageName) => if h : s.length = 32 then some (⟨s, h⟩, languageName) else none

/-- One turn of the loop of `bytes_to_words`: the words of the value at byte
`i * 4` appended to `words`, each followed by a space, and to `words_store`. -/
def appendValueWords (language : Base) (src : List UInt8) (acc : List Char × List (List Char))
    (i : ℕ) : List Char × List (List Char) :=
  let (w1, w2, w3) := valueToIndices (UInt32.ofNat language.wordList.length) (readUInt32 src (i * 4))
  (acc.1 ++ word language w1 ++ ' ' :: word language w2 ++ ' ' :: word language w3 ++ [' '],
    acc.2 ++ [word language w1, word language w2, word language w3])

/-- `Electrum25Words::bytes_to_words(src, len, words, language_name)`: three
words for each value of `src`, then, in place of the last space, a space and the
word `create_checksum_index` picks. -/
def bytesToWordsBuf (src : List UInt8) (languageName : String) : Option (List Char) :=
  if src.length % 4 ≠ 0 ∨ src.length = 0 then none else
  match Electrum.findLanguage languageName with
  | none => none
  | some language =>
    let (words, wordsStore) :=
      (List.range (src.length / 4)).foldl (appendValueWords language src) ([], [])
    some (words.dropLast ++
      ' ' :: wordsStore.getD (createChecksumIndex wordsStore language.uniquePrefixLength).toNat [])

/-- `Electrum25Words::bytes_to_words(src, words, language_name)` of a secret key. -/
def bytesToWords (src : SecretKey) (languageName : String) : Option (List Char) :=
  bytesToWordsBuf src.bytes languageName

/-! ## Reading the functions -/

theorem appendValueWords_eq (language : Base) (src : List UInt8)
    (acc : List Char × List (List Char)) (i : ℕ) :
    appendValueWords language src acc i =
      (acc.1 ++ (valueWords language (readUInt32 src (i * 4))).flatMap (· ++ [' ']),
        acc.2 ++ valueWords language (readUInt32 src (i * 4))) := by
  simp [appendValueWords, valueWords]

/-- `words_store` after the loop of `bytes_to_words`: the words of the values of
`src`, in order. -/
def wordsStore (language : Base) (src : List UInt8) : List (List Char) :=
  (List.range (src.length / 4)).flatMap fun i => valueWords language (readUInt32 src (i * 4))

/-- The loop of `bytes_to_words` keeps `words` as the words stored so far, each
followed by a space. -/
theorem foldl_appendValueWords (language : Base) (src : List UInt8) :
    ∀ n : ℕ, (List.range n).foldl (appendValueWords language src) ([], []) =
      (((List.range n).flatMap fun i => valueWords language (readUInt32 src (i * 4))).flatMap
          (· ++ [' ']),
        (List.range n).flatMap fun i => valueWords language (readUInt32 src (i * 4)))
  | 0 => rfl
  | n + 1 => by
    rw [List.range_succ, List.foldl_append, foldl_appendValueWords language src n, List.foldl_cons,
      List.foldl_nil, appendValueWords_eq, List.flatMap_append, List.flatMap_append,
      List.flatMap_singleton]

/-- `bytes_to_words` writes the words of the values and the checksum word,
joined by spaces. -/
theorem bytesToWordsBuf_eq {src : List UInt8} {languageName : String} {language : Base}
    (hlen : src.length % 4 = 0) (hpos : 0 < src.length)
    (hlang : Electrum.findLanguage languageName = some language) :
    bytesToWordsBuf src languageName = some ([' '].intercalate (wordsStore language src ++
      [(wordsStore language src).getD
        (createChecksumIndex (wordsStore language src) language.uniquePrefixLength).toNat []])) := by
  have hne : wordsStore language src ≠ [] := by
    rw [wordsStore, Ne, List.flatMap_eq_nil_iff]
    intro h
    have h0 := h 0 (List.mem_range.mpr (by omega))
    simp [valueWords] at h0
  rw [bytesToWordsBuf, if_neg (by omega), hlang]
  dsimp only
  have hstore : ((List.range (src.length / 4)).flatMap fun i =>
      valueWords language (readUInt32 src (i * 4))) = wordsStore language src := rfl
  rw [foldl_appendValueWords, hstore]
  dsimp only
  rw [dropLast_flatMap_append ' ' _ hne]

theorem wordsStore_eq_map (language : Base) (src : List UInt8) :
    wordsStore language src = (wordIndices language src).map (word language) := by
  rw [wordsStore, wordIndices, List.map_flatMap]
  rfl

theorem createChecksumIndex_lt (wordList : List (List Char)) (uniquePrefixLength : ℕ) :
    (createChecksumIndex wordList uniquePrefixLength).toNat < seedLength := by
  have h24 : (UInt32.ofNat seedLength).toNat = seedLength := rfl
  rw [createChecksumIndex, UInt32.toNat_mod, h24]
  exact Nat.mod_lt _ (by decide)

/-- The checksum test passes on a seed of one word repeated: whichever word the
index picks is that word. -/
theorem checksumTest_replicate {n : ℕ} (hn : seedLength ≤ n) (w : List Char) (k : ℕ) :
    checksumTest (List.replicate (n + 1) w) k = true := by
  have hidx := createChecksumIndex_lt (List.replicate n w) k
  rw [checksumTest, List.getLast?_replicate, if_neg (Nat.succ_ne_zero n)]
  dsimp only
  rw [List.dropLast_replicate, Nat.add_sub_cancel, List.getD_replicate w (by omega)]
  exact beq_self_eq_true _

/-- The word `bytes_to_words` appends passes `checksum_test`. -/
theorem checksumTest_append_checksum (ws : List (List Char)) (n : ℕ) :
    checksumTest (ws ++ [ws.getD (createChecksumIndex ws n).toNat []]) n = true := by
  rw [checksumTest, List.getLast?_concat]
  dsimp only
  rw [List.dropLast_concat]
  exact beq_self_eq_true _

/-- The language `words_to_bytes` reports is the one `find_seed_language` picks
for the seed's words, a 26th word dropped. -/
theorem wordsToBytesBuf_language {words : List Char} {len : ℕ} {dst : List UInt8}
    {languageName : String} (h : wordsToBytesBuf words len = some (dst, languageName)) :
    ∃ seed language, seed.Sublist (seedWords words) ∧ findSeedLanguage seed = some language ∧
      languageName = language.languageName := by
  unfold wordsToBytesBuf at h
  dsimp only at h
  generalize hseed : (if (seedWords words).length = 26 then (seedWords words).dropLast
    else seedWords words) = seed at h
  have hsub : seed.Sublist (seedWords words) := by
    rw [← hseed]
    split
    · exact List.dropLast_sublist _
    · exact List.Sublist.refl _
  split at h
  · cases h
  split at h
  · cases h
  split at h
  · cases h
  rename_i language hlang
  refine ⟨seed, language, hsub, hlang, ?_⟩
  split at h
  · cases h
  split at h
  · cases h
  obtain ⟨dst', -, hpair⟩ := Option.map_eq_some_iff.mp h
  exact (Prod.mk.inj hpair).2.symm

/-- A seed of 25 words whose checksum passes is read as its first 24 words. -/
theorem wordsToBytesBuf_of_checksum {words : List Char} {language : Base}
    {matchedIndices : List UInt32} (hlen : (seedWords words).length = 25)
    (hlang : findSeedLanguage (seedWords words) = some language)
    (hmatch : matchWords language (seedWords words) = some matchedIndices)
    (hck : checksumTest (seedWords words) language.uniquePrefixLength = true) :
    wordsToBytesBuf words 32 =
      (decodeGroups (UInt32.ofNat language.wordList.length) matchedIndices 8).map
        fun dst => (dst, language.languageName) := by
  simp [wordsToBytesBuf, hlen, hlang, hmatch, hck]

theorem wordsToBytesBuf_of_wordsToBytes {words : List Char} {key : SecretKey}
    {languageName : String} (h : wordsToBytes words = some (key, languageName)) :
    wordsToBytesBuf words 32 = some (key.bytes, languageName) := by
  unfold wordsToBytes at h
  split at h
  · cases h
  · rename_i s name hbuf
    split at h
    · cases h
      exact hbuf
    · cases h

/-! ## Reading a seed back -/

section RoundTrip

variable {s : SecretKey} {languageName : String} {L : Base} {j : ℕ}

/-- **The seed of a key is read back.** A key written in a language of `N = 1626`
words is read back with that language's name when its words are nonempty and
without spaces, each word is found under its own index by its prefix, and each
language after it in `find_seed_language`'s order misses one of its words. -/
theorem wordsToBytes_bytesToWords (hlang : Electrum.findLanguage languageName = some L)
    (hj : seedLanguages[j]? = some L) (hlen : L.wordList.length = 1626)
    (hwords : ∀ w ∈ wordIndices L s.bytes, word L w ≠ [] ∧ ∀ c ∈ word L w, isspace c = false)
    (hindex : ∀ w ∈ wordIndices L s.bytes,
      L.trimmedWordIndex (utf8Prefix (word L w) L.uniquePrefixLength) = some w.toNat)
    (hlater : ∀ L' ∈ seedLanguages.drop (j + 1),
      ∃ w ∈ wordIndices L s.bytes, L'.inWordMap (word L w) = false) :
    (bytesToWords s languageName).bind wordsToBytes = some (s, L.languageName) := by
  have h32 : s.bytes.length = 8 * 4 := s.length_eq
  have hcount : (wordIndices L s.bytes).length = 24 := by rw [length_wordIndices, h32]
  -- the checksum word is the word of one of the indices
  set c := (createChecksumIndex ((wordIndices L s.bytes).map (word L)) L.uniquePrefixLength).toNat
  have hc : c < (wordIndices L s.bytes).length := by
    rw [hcount]
    exact createChecksumIndex_lt _ _
  set ws := wordIndices L s.bytes ++ [(wordIndices L s.bytes).getD c 0]
  have hws : ∀ w ∈ ws, w ∈ wordIndices L s.bytes := by
    intro w hw
    rcases List.mem_append.mp hw with hw | hw
    · exact hw
    · rw [List.mem_singleton.mp hw, List.getD_eq_getElem _ _ hc]
      exact List.getElem_mem hc
  have hcw : ((wordIndices L s.bytes).map (word L)).getD c [] = word L ((wordIndices L s.bytes).getD c 0) := by
    rw [List.getD_eq_getElem _ _ (by rwa [List.length_map]), List.getElem_map,
      List.getD_eq_getElem _ _ hc]
  have htext : bytesToWords s languageName = some ([' '].intercalate (ws.map (word L))) := by
    rw [bytesToWords, bytesToWordsBuf_eq (by rw [h32]) (by rw [h32]; omega) hlang, wordsStore_eq_map,
      hcw, List.map_append, List.map_singleton]
  -- the text is split back into its words
  have hseed : seedWords ([' '].intercalate (ws.map (word L))) = ws.map (word L) :=
    seedWords_intercalate (by simp [ws]) (fun w hw => by
      obtain ⟨v, hv, rfl⟩ := List.mem_map.mp hw
      exact (hwords v (hws v hv)).1) (fun w hw => by
      obtain ⟨v, hv, rfl⟩ := List.mem_map.mp hw
      exact (hwords v (hws v hv)).2)
  have hfind : findSeedLanguage (ws.map (word L)) = some L := by
    refine findSeedLanguage_of_full (by simp [ws]) hj ?_ ?_
    · intro w hw
      obtain ⟨v, hv, rfl⟩ := List.mem_map.mp hw
      apply inWordMap_word
      rw [hlen]
      exact toNat_lt_of_mem_wordIndices hlen (hws v hv)
    · intro L' hL'
      obtain ⟨v, hv, hmiss⟩ := hlater L' hL'
      exact ⟨word L v, List.mem_map_of_mem (List.mem_append_left _ hv), hmiss⟩
  have hmatch : matchWords L (ws.map (word L)) = some ws :=
    matchWords_map_word fun w hw => hindex w (hws w hw)
  have hck : checksumTest (ws.map (word L)) L.uniquePrefixLength = true := by
    rw [List.map_append, List.map_singleton, ← hcw]
    exact checksumTest_append_checksum _ _
  rw [← hseed] at hfind hmatch hck
  have hbuf := wordsToBytesBuf_of_checksum
    (by rw [hseed, List.length_map, List.length_append, hcount]; rfl) hfind hmatch hck
  have hN : UInt32.ofNat L.wordList.length = 1626 := by rw [hlen]; rfl
  rw [hN, decodeGroups_wordIndices hlen h32] at hbuf
  rw [htext, Option.bind_some, wordsToBytes, hbuf, Option.map_some]
  dsimp only
  rw [dif_pos s.length_eq]

/-- "backi", the first Lojban word: a word without spaces, found under its own
index by its prefix. -/
theorem word_lojban_zero :
    (word lojban 0 ≠ [] ∧ ∀ c ∈ word lojban 0, isspace c = false) ∧
      lojban.trimmedWordIndex (utf8Prefix (word lojban 0) lojban.uniquePrefixLength) =
        some (0 : UInt32).toNat := by
  have hbacki : word lojban 0 = "backi".toList := by decide
  rw [hbacki]
  exact ⟨⟨by simp, by simp [isspace]⟩, by decide⟩

/-- The Lojban list has `N = 1626` words. -/
theorem length_lojban_wordList : lojban.wordList.length = 1626 := by
  set_option maxRecDepth 20000 in decide

/-- The zero key in Lojban, "backi" 25 times, is read back; no language comes
after Lojban. -/
theorem wordsToBytes_bytesToWords_lojban :
    (bytesToWords (Pod.zero 32) lojban.languageName).bind wordsToBytes =
      some (Pod.zero 32, lojban.languageName) := by
  have hzero : wordIndices lojban (Pod.zero 32).bytes = List.replicate 24 0 := by
    set_option maxRecDepth 20000 in decide
  obtain ⟨hwords, hindex⟩ := word_lojban_zero
  refine wordsToBytes_bytesToWords (j := 11) rfl rfl length_lojban_wordList ?_ ?_ ?_ <;> rw [hzero]
  · exact fun w hw => List.eq_of_mem_replicate hw ▸ hwords
  · exact fun w hw => List.eq_of_mem_replicate hw ▸ hindex
  · exact fun L' hL' => absurd hL' List.not_mem_nil

end RoundTrip

/-! ## A seed read in another language

A seed is read in the language `find_seed_language` picks, the last of the
highest score; every word of a seed is in the list of its language, so a later
language holding all of them is picked in its place. Spanish and Lojban share
nine words, "brazo" among them, so the Spanish seed of "brazo" 25 times, that of
the key of eight values 272, is read as Lojban, with the Lojban index of
"brazo", 80, in place of 272. -/

/-- A seed written in a language is never read back in that language when a
later language of `find_seed_language`'s order holds all its words. -/
theorem bytesToWords_wordsToBytes_misreadsLanguage {s : SecretKey} {i j : ℕ} (hij : i < j)
    {L L' : Base} (hL : seedLanguages[i]? = some L) (hL' : seedLanguages[j]? = some L')
    (hfull : ∀ words ∈ bytesToWords s L.languageName, ∀ w ∈ seedWords words,
      L'.inWordMap w = true) :
    ∀ key languageName, (bytesToWords s L.languageName).bind wordsToBytes =
      some (key, languageName) → languageName ≠ L.languageName := by
  intro key languageName h
  obtain ⟨words, hwords, hkey⟩ := Option.bind_eq_some_iff.mp h
  obtain ⟨seed, language, hsub, hfind, rfl⟩ :=
    wordsToBytesBuf_language (wordsToBytesBuf_of_wordsToBytes hkey)
  -- every word of the seed read is in `L'`, which comes after `L`
  have hmem := findSeedLanguage_mem_drop hL'
    (fun w hw => hfull words hwords w (hsub.subset hw)) hfind
  intro hname
  exact languageName_not_mem_drop hij hL (hname ▸ List.mem_map_of_mem hmem)

/-- The Spanish key whose seed is "brazo" 25 times: eight values 272, the index
of "brazo" in the Spanish list. -/
def brazoKey : SecretKey := ⟨(List.replicate 8 (272 : UInt32)).flatMap uint32Bytes, rfl⟩

/-- "brazo" 25 times. -/
def brazoSeed : List Char := [' '].intercalate (List.replicate 25 "brazo".toList)

/-- The key Lojban reads from `brazoSeed`: eight values 80, the index of "brazo"
in the Lojban list. -/
def lojbanBrazoKey : SecretKey := ⟨(List.replicate 8 (80 : UInt32)).flatMap uint32Bytes, rfl⟩

theorem flatMap_range_replicate {β : Type} (b : β) (k : ℕ) :
    ∀ n : ℕ, ((List.range n).flatMap fun _ => List.replicate k b) = List.replicate (n * k) b
  | 0 => by simp
  | n + 1 => by
    rw [List.range_succ, List.flatMap_append, flatMap_range_replicate b k n, List.flatMap_singleton,
      ← List.replicate_add, Nat.succ_mul]

theorem bytesToWords_brazoKey : bytesToWords brazoKey spanish.languageName = some brazoSeed := by
  have hvalue : ∀ i ∈ List.range (brazoKey.bytes.length / 4),
      valueWords spanish (readUInt32 brazoKey.bytes (i * 4)) = List.replicate 3 "brazo".toList := by
    intro i hi
    have hi8 : i < 8 := List.mem_range.mp hi
    have hread : readUInt32 brazoKey.bytes (i * 4) = 272 := by
      rw [brazoKey, readUInt32_flatMap _ i (by simpa using hi8), List.getD_replicate _ hi8]
    have hword : spanish.wordList.getD 272 "" = "brazo" := by
      set_option maxRecDepth 20000 in decide
    have hlen : spanish.wordList.length = 1626 := by
      set_option maxRecDepth 20000 in decide
    rw [hread, valueWords, hlen, show valueToIndices (UInt32.ofNat 1626) 272 = (272, 272, 272) by decide]
    simp only [word, UInt32.reduceToNat, hword, List.replicate]
  have hstore : wordsStore spanish brazoKey.bytes = List.replicate 24 "brazo".toList := by
    rw [wordsStore, List.flatMap_congr hvalue, show brazoKey.bytes.length / 4 = 8 from rfl]
    exact flatMap_range_replicate _ 3 8
  rw [bytesToWords, bytesToWordsBuf_eq (by rfl) (by decide) rfl, hstore,
    List.getD_replicate _ (show _ < 24 from createChecksumIndex_lt _ _), ← List.replicate_succ']
  rfl

theorem seedWords_brazoSeed : seedWords brazoSeed = List.replicate 25 "brazo".toList := by
  have hspace : ∀ c ∈ "brazo".toList, isspace c = false := by simp [isspace]
  exact seedWords_intercalate (by simp)
    (fun w hw => by rw [List.eq_of_mem_replicate hw]; simp)
    (fun w hw => by rw [List.eq_of_mem_replicate hw]; exact hspace)

theorem inWordMap_lojban_brazo : lojban.inWordMap "brazo".toList = true := by
  rw [Base.inWordMap_toList]
  set_option maxRecDepth 20000 in decide

theorem wordsToBytes_brazoSeed :
    wordsToBytes brazoSeed = some (lojbanBrazoKey, lojban.languageName) := by
  have hlang : findSeedLanguage (List.replicate 25 "brazo".toList) = some lojban :=
    findSeedLanguage_lojban (by simp) (fun w hw => by
      rw [List.eq_of_mem_replicate hw]
      exact inWordMap_lojban_brazo)
  have hmatch := matchWords_replicate (show lojban.trimmedWordIndex
    (utf8Prefix "brazo".toList lojban.uniquePrefixLength) = some 80 by
      set_option maxRecDepth 20000 in decide) 25
  have hck : checksumTest (List.replicate 25 "brazo".toList) lojban.uniquePrefixLength = true :=
    checksumTest_replicate (n := 24) (le_refl _) _ _
  have hlen : UInt32.ofNat lojban.wordList.length = 1626 := by rw [length_lojban_wordList]; rfl
  -- the eight groups all read 80
  have hdecode : decodeGroups 1626 (List.replicate 25 (UInt32.ofNat 80)) 8 =
      some lojbanBrazoKey.bytes := by
    rw [decodeGroups_eq_some (by decide)]
    rfl
  rw [← seedWords_brazoSeed] at hlang hmatch hck
  have hbuf := wordsToBytesBuf_of_checksum (by rw [seedWords_brazoSeed]; rfl) hlang hmatch hck
  rw [hlen, hdecode] at hbuf
  rw [wordsToBytes, hbuf]
  rfl

/-- The Spanish seed of `brazoKey` is read back as Lojban, with another key. -/
theorem bytesToWords_wordsToBytes_misreadsLanguage_brazo :
    bytesToWords brazoKey spanish.languageName = some brazoSeed ∧
      wordsToBytes brazoSeed = some (lojbanBrazoKey, lojban.languageName) ∧
      ∀ key languageName, (bytesToWords brazoKey spanish.languageName).bind wordsToBytes =
        some (key, languageName) → languageName ≠ spanish.languageName := by
  refine ⟨bytesToWords_brazoKey, wordsToBytes_brazoSeed, ?_⟩
  refine bytesToWords_wordsToBytes_misreadsLanguage (i := 4) (j := 11) (by decide) rfl rfl ?_
  intro words hwords w hw
  rw [bytesToWords_brazoKey, Option.mem_some_iff] at hwords
  rw [← hwords, seedWords_brazoSeed] at hw
  rw [List.eq_of_mem_replicate hw]
  exact inWordMap_lojban_brazo

end Electrum25Words

namespace Electrum14Words

open Ombre.Language ElectrumWords Electrum25Words Tokens

/-! ## Reading a 14-word seed back

The two last words write `calc_crc12(src, extra) << 8 | extra`, a number below
`2 ^ 20`, hence below `N ^ 2`, as two indices: the number modulo `N`, and its
quotient added to that index modulo `N`. `words_to_bytes` rebuilds it without
wrapping, takes `extra` from its low byte and checks the CRC in the rest. -/

/-- The indices of the two checksum words `bytes_to_words` writes. -/
def checksumIndices (wordListLength : UInt32) (src : List UInt8) (extra : UInt8) : List UInt32 :=
  let checksum := (calcCrc12 src extra <<< 8) ||| extra.toUInt32
  let w1 := checksum % wordListLength
  [w1, ((checksum / wordListLength) + w1) % wordListLength]

theorem toNat_calcCrc12_lt (key : List UInt8) (extra : UInt8) : (calcCrc12 key extra).toNat < 2 ^ 12 := by
  rw [calcCrc12, UInt32.toNat_and, show (0xfff : UInt32).toNat = 2 ^ 12 - 1 from rfl,
    Nat.and_two_pow_sub_one_eq_mod]
  exact Nat.mod_lt _ (by decide)

/-- The checksum number: the CRC above the byte `extra`. -/
theorem toNat_checksum (key : List UInt8) (extra : UInt8) :
    ((calcCrc12 key extra <<< 8) ||| extra.toUInt32).toNat = (calcCrc12 key extra).toNat * 256 + extra.toNat := by
  have hcrc := toNat_calcCrc12_lt key extra
  have he := extra.toNat_lt
  rw [UInt32.toNat_or, UInt32.toNat_shiftLeft, UInt8.toNat_toUInt32,
    show (8 : UInt32).toNat % 32 = 8 from rfl, Nat.mod_eq_of_lt (by rw [Nat.shiftLeft_eq]; omega),
    ← Nat.shiftLeft_add_eq_or_of_lt (by omega : extra.toNat < 2 ^ 8), Nat.shiftLeft_eq]

/-- Two indices of a number below `2 ^ 20` give it back in 32-bit arithmetic. -/
theorem checksum_of_indices {c : UInt32} (hc : c.toNat < 2 ^ 20) :
    (c % 1626 + 1626 * ((1626 - c % 1626 + (c / 1626 + c % 1626) % 1626) % 1626)) &&& 0xfffff = c := by
  have hw1 : (c % 1626).toNat = c.toNat % 1626 := by simp
  have hq : (c / 1626 + c % 1626).toNat = c.toNat / 1626 + c.toNat % 1626 := by
    rw [toNat_add_of_lt32 (by simp only [UInt32.toNat_div, UInt32.toNat_mod, UInt32.reduceToNat]; omega)]
    simp
  have hw2 : ((c / 1626 + c % 1626) % 1626).toNat = (c.toNat / 1626 + c.toNat % 1626) % 1626 := by
    rw [UInt32.toNat_mod, hq]
    rfl
  have hd := toNat_sub_add_mod (a := c % 1626) (b := (c / 1626 + c % 1626) % 1626)
    (by rw [hw1]; omega) (by rw [hw2]; omega)
  rw [hw1, hw2] at hd
  -- the difference of the two indices is the quotient, below `1626`
  have hquot : (1626 - c.toNat % 1626 + (c.toNat / 1626 + c.toNat % 1626) % 1626) % 1626 = c.toNat / 1626 := by
    omega
  rw [hquot] at hd
  have hmul : ((1626 : UInt32) * ((1626 - c % 1626 + (c / 1626 + c % 1626) % 1626) % 1626)).toNat =
      1626 * (c.toNat / 1626) := by
    rw [toNat_mul_of_lt32 (by rw [hd]; simp only [UInt32.reduceToNat]; omega), hd]
    rfl
  have hsum : (c % 1626 + 1626 * ((1626 - c % 1626 + (c / 1626 + c % 1626) % 1626) % 1626)).toNat = c.toNat := by
    rw [toNat_add_of_lt32 (by rw [hw1, hmul]; omega), hw1, hmul]
    omega
  apply UInt32.toNat_inj.mp
  rw [UInt32.toNat_and, hsum, show (0xfffff : UInt32).toNat = 2 ^ 20 - 1 from rfl,
    Nat.and_two_pow_sub_one_eq_mod, Nat.mod_eq_of_lt hc]

/-- The checksum number gives back `extra` from its low byte and the CRC from
the bytes above it. -/
theorem checksum_bytes (key : List UInt8) (extra : UInt8) :
    (((calcCrc12 key extra <<< 8) ||| extra.toUInt32) &&& 0xff).toUInt8 = extra ∧
      ((calcCrc12 key extra <<< 8) ||| extra.toUInt32) >>> 8 = calcCrc12 key extra := by
  have hc := toNat_checksum key extra
  have he := extra.toNat_lt
  constructor
  · apply UInt8.toNat_inj.mp
    rw [UInt32.toNat_toUInt8, UInt32.toNat_and, hc, show (0xff : UInt32).toNat = 2 ^ 8 - 1 from rfl,
      Nat.and_two_pow_sub_one_eq_mod]
    omega
  · apply UInt32.toNat_inj.mp
    rw [UInt32.toNat_shiftRight, hc, show (8 : UInt32).toNat % 32 = 8 from rfl, Nat.shiftRight_eq_div_pow]
    omega

/-- The text `bytes_to_words` writes: the words of the four values and the two
checksum words, joined by spaces. -/
theorem bytesToWords_eq {src : List UInt8} (hsrc : src.length = 16) (extra : UInt8)
    {languageName : String} {L : Base} (hlang : Electrum.findLanguage languageName = some L) :
    bytesToWords src extra languageName = some ([' '].intercalate
      ((wordIndices L src ++ checksumIndices (UInt32.ofNat L.wordList.length) src extra).map (word L))) := by
  rw [bytesToWords, hlang]
  dsimp only
  -- the loop writes what the loop of the 25-word seed writes in `words`
  rw [@List.foldl_hom _ _ _ Prod.fst (appendValueWords L src) _ _ ([], []) (fun _ _ => rfl),
    foldl_appendValueWords]
  have hstore : ((List.range 4).flatMap fun i => valueWords L (readUInt32 src (i * 4))) =
      (wordIndices L src).map (word L) := by
    rw [← wordsStore_eq_map, wordsStore, hsrc]
  rw [hstore, List.map_append, checksumIndices, List.map_cons, List.map_cons, List.map_nil,
    ← flatMap_append_intercalate]
  simp

section RoundTrip

variable {src : List UInt8} {languageName : String} {L : Base} {j : ℕ}

/-- **The 14-word seed of a key is read back**, with the byte `extra` it
carries in place of the one `words_to_bytes` is given, under the conditions of
the 25-word seed on its fourteen words. -/
theorem wordsToBytes_bytesToWords_extra (hsrc : src.length = 16) (extra extra' : UInt8)
    (hlang : Electrum.findLanguage languageName = some L)
    (hj : seedLanguages[j]? = some L) (hlen : L.wordList.length = 1626)
    (hwords : ∀ w ∈ wordIndices L src ++ checksumIndices 1626 src extra,
      word L w ≠ [] ∧ ∀ c ∈ word L w, isspace c = false)
    (hindex : ∀ w ∈ wordIndices L src ++ checksumIndices 1626 src extra,
      L.trimmedWordIndex (utf8Prefix (word L w) L.uniquePrefixLength) = some w.toNat)
    (hlater : ∀ L' ∈ seedLanguages.drop (j + 1),
      ∃ w ∈ wordIndices L src ++ checksumIndices 1626 src extra, L'.inWordMap (word L w) = false) :
    (bytesToWords src extra languageName).bind (fun words => wordsToBytes words extra') =
      some (src, extra, L.languageName) := by
  have hN : UInt32.ofNat L.wordList.length = 1626 := by rw [hlen]; rfl
  have h12 : (wordIndices L src).length = 12 := by rw [length_wordIndices, hsrc]
  set c := (calcCrc12 src extra <<< 8) ||| extra.toUInt32 with hcdef
  set ws := wordIndices L src ++ checksumIndices 1626 src extra
  have hcount : ws.length = 14 := by simp [ws, h12, checksumIndices]
  have hne : ws.map (word L) ≠ [] := by
    rw [Ne, ← List.length_eq_zero_iff, List.length_map, hcount]
    omega
  have hlt : ∀ w ∈ ws, w.toNat < 1626 := by
    intro w hw
    rcases List.mem_append.mp hw with hw | hw
    · exact toNat_lt_of_mem_wordIndices hlen hw
    · simp only [checksumIndices, List.mem_cons, List.not_mem_nil, or_false] at hw
      rcases hw with rfl | rfl <;> rw [UInt32.toNat_mod] <;> exact Nat.mod_lt _ (by decide)
  have htext : bytesToWords src extra languageName = some ([' '].intercalate (ws.map (word L))) := by
    rw [bytesToWords_eq hsrc extra hlang, hN]
  have hseed : seedWords ([' '].intercalate (ws.map (word L))) = ws.map (word L) :=
    seedWords_intercalate hne (fun w hw => by
      obtain ⟨v, hv, rfl⟩ := List.mem_map.mp hw
      exact (hwords v hv).1) (fun w hw => by
      obtain ⟨v, hv, rfl⟩ := List.mem_map.mp hw
      exact (hwords v hv).2)
  have hfind : findSeedLanguage (ws.map (word L)) = some L := by
    refine findSeedLanguage_of_full hne hj ?_ ?_
    · intro w hw
      obtain ⟨v, hv, rfl⟩ := List.mem_map.mp hw
      apply inWordMap_word
      rw [hlen]
      exact hlt v hv
    · intro L' hL'
      obtain ⟨v, hv, hmiss⟩ := hlater L' hL'
      exact ⟨word L v, List.mem_map_of_mem hv, hmiss⟩
  have hmatch : matchWords L (ws.map (word L)) = some ws := matchWords_map_word hindex
  have hdecode : decodeGroups 1626 ws (14 / 3) = some src :=
    decodeGroups_wordIndices hlen (by rw [hsrc]) _
  -- the two checksum words give back the checksum number
  have hw12 : ws.getD 12 0 = c % 1626 := by
    rw [List.getD_append_right _ _ _ _ (by rw [h12]), h12]
    rfl
  have hw13 : ws.getD 13 0 = (c / 1626 + c % 1626) % 1626 := by
    rw [List.getD_append_right _ _ _ _ (by rw [h12]; omega), h12]
    rfl
  have hval : (ws.getD 12 0 + 1626 * ((1626 - ws.getD 12 0 + ws.getD 13 0) % 1626)) &&& 0xfffff = c := by
    have hc : c.toNat < 2 ^ 20 := by
      rw [hcdef, toNat_checksum]
      have := toNat_calcCrc12_lt src extra
      have := extra.toNat_lt
      omega
    rw [hw12, hw13]
    exact checksum_of_indices hc
  obtain ⟨hextra, hcrc⟩ := checksum_bytes src extra
  rw [htext, Option.bind_some, wordsToBytes]
  simp only [hseed, List.length_map, hcount, hfind, hmatch, hN, hdecode, hval]
  -- a seed of 14 words: `extra` and the CRC are read from the checksum number
  rw [if_neg (by decide), if_pos trivial, hextra, hcrc, if_neg (not_not.mpr rfl)]

/-- The zero key with `extra` zero in Lojban, "backi" 14 times, is read back
with `extra` zero whatever byte `words_to_bytes` is given. -/
theorem wordsToBytes_bytesToWords_extra_lojban :
    (bytesToWords (List.replicate 16 0) 0 lojban.languageName).bind (fun words => wordsToBytes words 7) =
      some (List.replicate 16 0, 0, lojban.languageName) := by
  have hzero : wordIndices lojban (List.replicate 16 0) ++ checksumIndices 1626 (List.replicate 16 0) 0 =
      List.replicate 14 0 := by
    set_option maxRecDepth 20000 in decide
  obtain ⟨hwords, hindex⟩ := word_lojban_zero
  refine wordsToBytes_bytesToWords_extra (j := 11) rfl 0 7 rfl rfl length_lojban_wordList ?_ ?_ ?_ <;>
    rw [hzero]
  · exact fun w hw => List.eq_of_mem_replicate hw ▸ hwords
  · exact fun w hw => List.eq_of_mem_replicate hw ▸ hindex
  · exact fun L' hL' => absurd hL' List.not_mem_nil

end RoundTrip

end Electrum14Words

end Ombre
