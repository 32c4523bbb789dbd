import Mathlib

/-!
# Varints

`write_varint` and `read_varint` of `common/varint.h`. A varint holds an
unsigned integer seven bits a byte, lowest first, with the high bit set on
every byte but the last. Both templates compute on the integer's value, so one
definition over `ℕ` serves every unsigned type; the width `read_varint<bits>`
checks against is a parameter.

The reader gives back what the writer wrote, whatever follows it in the input,
and stops right after the bytes the writer wrote (`readVarint_writeVarint`).
Conversely, a count the reader returns comes from those bytes and no others
(`readVarint_canonical`), except on an input that ends before a byte without
the high bit: `read_varint` then returns the number of bytes it read, as on
success (`readVarint_cutOff`).
-/

namespace Ombre

/-- `EVARINT_OVERFLOW` -/
def evarintOverflow : Int := -1

/-- `EVARINT_REPRESENT` -/
def evarintRepresent : Int := -2

/-- `write_varint(dest, i)`: while `0x80 ≤ i`, the low seven bits of `i` with
the high bit set, then `i >>= 7`; last, `i` itself. -/
def writeVarint (i : ℕ) : List UInt8 :=
  if i ≥ 0x80 then ((i.toUInt8 &&& 0x7f) ||| 0x80) :: writeVarint (i >>> 7)
  else [i.toUInt8]
termination_by i
decreasing_by
  rw [Nat.shiftRight_eq_div_pow]
  omega

/-- The loop of `read_varint<bits>`, at the byte that goes to `shift`, with
`read` bytes read and `write` assembled so far. Returns what `read_varint`
returns, the value it leaves in `write` and the bytes from where it leaves
`first`: past every byte it looked at, the one that failed a check included. -/
def readVarintLoop (bits : ℕ) : List UInt8 → ℕ → ℕ → ℕ → Int × ℕ × List UInt8
  | [], _, read, write => (read, write, [])
  | byte :: rest, shift, read, write =>
    let read := read + 1
    if shift + 7 ≥ bits ∧ byte.toNat ≥ 1 <<< (bits - shift) then (evarintOverflow, write, rest)
    else if byte = 0 ∧ shift ≠ 0 then (evarintRepresent, write, rest)
    else
      let write := write ||| (byte &&& 0x7f).toNat <<< shift
      -- no next byte
      if byte &&& 0x80 = 0 then (read, write, rest)
      else readVarintLoop bits rest (shift + 7) read write

/-- `read_varint<bits>(first, last, write)`: the number of bytes read, or an
error code, the value left in `write` and the input after `first`. An input
that ends before a byte without the high bit is read to its end. -/
def readVarint (bits : ℕ) (input : List UInt8) : Int × ℕ × List UInt8 :=
  readVarintLoop bits input 0 0 0

/-! ## The bytes -/

section Bytes

theorem toNat_and_0x7f (b : UInt8) : (b &&& 0x7f).toNat = b.toNat % 128 := by
  rw [UInt8.toNat_and]
  exact Nat.and_two_pow_sub_one_eq_mod _ 7

theorem and_0x80_eq_zero_iff (b : UInt8) : b &&& 0x80 = 0 ↔ b.toNat < 128 := by
  have h : (0x80 : UInt8).toNat = 2 ^ 7 := rfl
  have := b.toNat_lt
  rw [← UInt8.toNat_inj, UInt8.toNat_and, h, Nat.and_two_pow, Nat.testBit_eq_decide_div_mod_eq]
  by_cases hb : b.toNat < 128
  · have : b.toNat / 128 % 2 = 0 := by omega
    simp [this, hb]
  · have : b.toNat / 128 % 2 = 1 := by omega
    simp [this, hb]

/-- A byte `write_varint` writes before the last: the low seven bits of `i`
and the high bit. -/
theorem toNat_continuationByte (i : ℕ) : ((i.toUInt8 &&& 0x7f) ||| 0x80).toNat = i % 128 + 128 := by
  have h : (0x80 : UInt8).toNat = 2 ^ 7 := rfl
  have hlow : i.toUInt8.toNat % 128 < 2 ^ 7 := Nat.mod_lt _ (by decide)
  rw [UInt8.toNat_or, toNat_and_0x7f, h, Nat.or_two_pow_eq_add_of_lt hlow]
  simp

/-- Bits put above the bits already assembled add their value. -/
theorem or_shiftLeft_eq_add {w s : ℕ} (hw : w < 2 ^ s) (x : ℕ) : w ||| x <<< s = w + x * 2 ^ s := by
  rw [Nat.lor_comm, ← Nat.shiftLeft_add_eq_or_of_lt hw, Nat.shiftLeft_eq, Nat.add_comm]

end Bytes

/-! ## Writing and reading back -/

theorem writeVarint_of_lt {i : ℕ} (h : i < 0x80) : writeVarint i = [i.toUInt8] := by
  rw [writeVarint, if_neg (by omega)]

theorem writeVarint_of_ge {i : ℕ} (h : 0x80 ≤ i) :
    writeVarint i = ((i.toUInt8 &&& 0x7f) ||| 0x80) :: writeVarint (i / 128) := by
  rw [writeVarint, if_pos h, Nat.shiftRight_eq_div_pow]

theorem writeVarint_ne_nil (i : ℕ) : writeVarint i ≠ [] := by
  rcases Nat.lt_or_ge i 0x80 with h | h
  · simp [writeVarint_of_lt h]
  · simp [writeVarint_of_ge h]

/-- A value below `128 ^ (k + 1)` takes at most `k + 1` bytes. -/
theorem length_writeVarint_le : ∀ (k i : ℕ), i < 128 ^ (k + 1) → (writeVarint i).length ≤ k + 1
  | 0, i, h => by
    rw [writeVarint_of_lt (by simpa using h), List.length_singleton]
  | k + 1, i, h => by
    rcases Nat.lt_or_ge i 0x80 with hlt | hge
    · rw [writeVarint_of_lt hlt, List.length_singleton]
      omega
    · have hdiv : i / 128 < 128 ^ (k + 1) := Nat.div_lt_of_lt_mul (by rwa [← Nat.pow_succ'])
      rw [writeVarint_of_ge hge, List.length_cons]
      have := length_writeVarint_le k (i / 128) hdiv
      omega

/-- A group of seven bits put at `shift`, above what is written below it,
keeps the value below the next group. -/
theorem add_group_lt {write g shift : ℕ} (hw : write < 2 ^ shift) (hg : g < 128) :
    write + g * 2 ^ shift < 2 ^ (shift + 7) :=
  calc write + g * 2 ^ shift < (g + 1) * 2 ^ shift := by rw [Nat.add_one_mul]; omega
    _ ≤ 128 * 2 ^ shift := Nat.mul_le_mul_right _ hg
    _ = 2 ^ (shift + 7) := by ring

/-- A value that fits in `bits` once put at `shift` passes the overflow check
there, and so does each of its seven-bit groups. -/
theorem lt_two_pow_sub_of_mul_lt {i shift bits : ℕ} (hi : i * 2 ^ shift < 2 ^ bits)
    (hpos : shift ≠ 0 → 0 < i) : i < 2 ^ (bits - shift) := by
  rcases Nat.eq_zero_or_pos i with rfl | hi0
  · exact Nat.two_pow_pos _
  have hle : shift ≤ bits := by
    by_contra hlt
    have : 2 ^ bits ≤ 2 ^ shift := Nat.pow_le_pow_right (by decide) (by omega)
    have : 2 ^ shift ≤ i * 2 ^ shift := Nat.le_mul_of_pos_left _ hi0
    omega
  rw [← Nat.pow_sub_mul_pow 2 hle] at hi
  exact Nat.lt_of_mul_lt_mul_right hi

/-- **Reading what was written.** From `shift`, past `write` bits already
assembled, the loop reads the bytes `write_varint` wrote for `i` and nothing
after them, and adds `i` at `shift`, when `i` fits there and is not a zero
after the first group. -/
theorem readVarintLoop_writeVarint (bits : ℕ) (rest : List UInt8) (i : ℕ) :
    ∀ (shift read write : ℕ), write < 2 ^ shift → i * 2 ^ shift < 2 ^ bits →
      (shift ≠ 0 → 0 < i) →
      readVarintLoop bits (writeVarint i ++ rest) shift read write =
        (((read + (writeVarint i).length : ℕ) : Int), write + i * 2 ^ shift, rest) := by
  induction i using Nat.strong_induction_on with
  | _ i ih =>
    intro shift read write hw hi hpos
    have hfit := lt_two_pow_sub_of_mul_lt hi hpos
    rcases Nat.lt_or_ge i 0x80 with hlt | hge
    · -- the last byte: `i` itself, which passes both checks
      have hbyte : i.toUInt8.toNat = i := by simp; omega
      have hover : ¬(shift + 7 ≥ bits ∧ i.toUInt8.toNat ≥ 1 <<< (bits - shift)) := by
        rw [hbyte, Nat.one_shiftLeft]
        omega
      have hzero : ¬(i.toUInt8 = 0 ∧ shift ≠ 0) := by
        rintro ⟨h0, hs⟩
        have := congrArg UInt8.toNat h0
        rw [hbyte, UInt8.toNat_zero] at this
        have := hpos hs
        omega
      have hlast : i.toUInt8 &&& 0x80 = 0 := (and_0x80_eq_zero_iff _).mpr (by omega)
      rw [writeVarint_of_lt hlt, List.singleton_append, readVarintLoop, if_neg hover, if_neg hzero,
        if_pos hlast, toNat_and_0x7f, hbyte, Nat.mod_eq_of_lt hlt, or_shiftLeft_eq_add hw]
      simp
    · -- a continuation byte, then the varint of `i / 128` seven bits higher
      have hbyte := toNat_continuationByte i
      have hover : ¬(shift + 7 ≥ bits ∧ ((i.toUInt8 &&& 0x7f) ||| 0x80).toNat ≥ 1 <<< (bits - shift)) := by
        have : 2 ^ 7 ≤ 2 ^ (bits - shift) := by omega
        have : 7 ≤ bits - shift := (Nat.pow_le_pow_iff_right (by decide)).mp this
        omega
      have hzero : ¬((i.toUInt8 &&& 0x7f) ||| 0x80 = 0 ∧ shift ≠ 0) := by
        rintro ⟨h0, -⟩
        have := congrArg UInt8.toNat h0
        rw [hbyte] at this
        simp at this
      have hnext : ¬((i.toUInt8 &&& 0x7f) ||| 0x80) &&& 0x80 = 0 := by
        rw [and_0x80_eq_zero_iff, hbyte]
        omega
      have hlow : (((i.toUInt8 &&& 0x7f) ||| 0x80) &&& 0x7f).toNat = i % 128 := by
        rw [toNat_and_0x7f, hbyte]
        omega
      have hw' : write + i % 128 * 2 ^ shift < 2 ^ (shift + 7) := add_group_lt hw (Nat.mod_lt _ (by decide))
      have hi' : i / 128 * 2 ^ (shift + 7) < 2 ^ bits := by
        calc i / 128 * 2 ^ (shift + 7) = i / 128 * 128 * 2 ^ shift := by rw [Nat.pow_add]; ring
          _ ≤ i * 2 ^ shift := Nat.mul_le_mul_right _ (Nat.div_mul_le_self i 128)
          _ < 2 ^ bits := hi
      rw [writeVarint_of_ge hge, List.cons_append, readVarintLoop, if_neg hover, if_neg hzero,
        if_neg hnext, hlow, or_shiftLeft_eq_add hw,
        ih (i / 128) (by omega) (shift + 7) (read + 1) _ hw' hi' (fun _ => by omega)]
      -- the two groups make up `i`
      have hsplit : i % 128 * 2 ^ shift + i / 128 * 2 ^ (shift + 7) = i * 2 ^ shift :=
        calc i % 128 * 2 ^ shift + i / 128 * 2 ^ (shift + 7)
            = (i % 128 + 128 * (i / 128)) * 2 ^ shift := by rw [Nat.pow_add]; ring
          _ = i * 2 ^ shift := by rw [Nat.mod_add_div]
      simp only [List.length_cons]
      refine Prod.ext ?_ (Prod.ext ?_ rfl)
      · push_cast; ring
      · simp only; omega

theorem readVarint_writeVarint {bits i : ℕ} (h : i < 2 ^ bits) (rest : List UInt8) :
    readVarint bits (writeVarint i ++ rest) = (((writeVarint i).length : Int), i, rest) := by
  have := readVarintLoop_writeVarint bits rest i 0 0 0 (by decide) (by simpa using h) (by simp)
  simpa [readVarint] using this

/-- A byte without the high bit is a varint of its own. -/
theorem readVarint_single {bits : ℕ} (hbits : 7 < bits) {v : UInt8} (hv : v < 0x80)
    (rest : List UInt8) : readVarint bits (v :: rest) = (1, v.toNat, rest) := by
  have hlt : v.toNat < 128 := UInt8.lt_iff_toNat_lt.mp hv
  have hover : ¬(0 + 7 ≥ bits ∧ v.toNat ≥ 1 <<< (bits - 0)) := by omega
  have hzero : ¬(v = 0 ∧ 0 ≠ 0) := fun h => h.2 rfl
  have hlast : v &&& 0x80 = 0 := (and_0x80_eq_zero_iff v).mpr hlt
  rw [readVarint, readVarintLoop, if_neg hover, if_neg hzero, if_pos hlast, toNat_and_0x7f,
    Nat.mod_eq_of_lt hlt, Nat.shiftLeft_zero, Nat.zero_or]
  rfl

/-- A first byte with the high bit set, then a zero byte: the zero byte fails
the check for a redundant encoding, and `write` keeps the first byte's seven
bits, the value the single byte `v` gives. -/
theorem readVarint_padded {bits : ℕ} (hbits : 7 < bits) {v : UInt8} (hv : v < 0x80)
    (rest : List UInt8) : readVarint bits ((v ||| 0x80) :: 0 :: rest) = (evarintRepresent, v.toNat, rest) := by
  have hlt : v.toNat < 2 ^ 7 := UInt8.lt_iff_toNat_lt.mp hv
  have hbyte : (v ||| 0x80).toNat = v.toNat + 128 := by
    have h : (0x80 : UInt8).toNat = 2 ^ 7 := rfl
    rw [UInt8.toNat_or, h, Nat.or_two_pow_eq_add_of_lt hlt]
  have hover : ¬(0 + 7 ≥ bits ∧ (v ||| 0x80).toNat ≥ 1 <<< (bits - 0)) := by omega
  have hzero : ¬(v ||| 0x80 = 0 ∧ 0 ≠ 0) := fun h => h.2 rfl
  have hnext : ¬(v ||| 0x80) &&& 0x80 = 0 := by
    rw [and_0x80_eq_zero_iff, hbyte]
    omega
  have hlow : ((v ||| 0x80) &&& 0x7f).toNat = v.toNat := by
    rw [toNat_and_0x7f, hbyte]
    omega
  -- the zero byte passes the overflow check: it is below any bound
  have hover' : ¬(0 + 7 + 7 ≥ bits ∧ (0 : UInt8).toNat ≥ 1 <<< (bits - (0 + 7))) := by
    rw [Nat.one_shiftLeft]
    have := Nat.two_pow_pos (bits - (0 + 7))
    simp only [UInt8.toNat_zero]
    omega
  rw [readVarint, readVarintLoop, if_neg hover, if_neg hzero, if_neg hnext, readVarintLoop,
    if_neg hover', if_pos ⟨rfl, by decide⟩, hlow, Nat.shiftLeft_zero, Nat.zero_or]

/-- The loop leaves no more bytes than it was given. -/
theorem length_readVarintLoop_le (bits : ℕ) :
    ∀ (s : List UInt8) (shift read write : ℕ), (readVarintLoop bits s shift read write).2.2.length ≤ s.length
  | [], _, _, _ => by simp [readVarintLoop]
  | byte :: rest, shift, read, write => by
    have ih := length_readVarintLoop_le bits rest (shift + 7) (read + 1)
    rw [readVarintLoop]
    dsimp only
    split_ifs
    · simp
    · simp
    · simp
    · exact Nat.le_succ_of_le (ih _)

/-! ## What the reader accepts -/

/-- A byte that the loop continues past is the one `write_varint` writes first
for a `j` whose low seven bits are the byte's. -/
theorem continuationByte_eq {byte : UInt8} {j : ℕ} (hhigh : 128 ≤ byte.toNat)
    (hj : j % 128 = byte.toNat % 128) : (j.toUInt8 &&& 0x7f) ||| 0x80 = byte := by
  rw [← UInt8.toNat_inj, toNat_continuationByte]
  have := byte.toNat_lt
  omega

/-- A group of seven bits that passes the overflow check at `shift` fits in
`bits` there. -/
theorem mul_two_pow_lt_of_check {g shift bits : ℕ} (hg : g < 128)
    (hcheck : ¬(shift + 7 ≥ bits ∧ g ≥ 1 <<< (bits - shift))) : g * 2 ^ shift < 2 ^ bits := by
  rw [Nat.one_shiftLeft] at hcheck
  by_cases hroom : shift + 7 ≥ bits
  · have hg' : g < 2 ^ (bits - shift) := by omega
    by_cases hle : shift ≤ bits
    · calc g * 2 ^ shift < 2 ^ (bits - shift) * 2 ^ shift := Nat.mul_lt_mul_of_pos_right hg' (Nat.two_pow_pos _)
        _ = 2 ^ bits := by rw [← Nat.pow_add, Nat.sub_add_cancel hle]
    · -- past the width the check leaves only a zero group
      have : g = 0 := by rw [Nat.sub_eq_zero_of_le (by omega)] at hg'; omega
      simp [this]
  · calc g * 2 ^ shift < 2 ^ 7 * 2 ^ shift := Nat.mul_lt_mul_of_pos_right hg (Nat.two_pow_pos _)
      _ = 2 ^ (shift + 7) := by rw [← Nat.pow_add, Nat.add_comm]
      _ ≤ 2 ^ bits := Nat.pow_le_pow_right (by decide) (by omega)

/-- A continuation byte passes the overflow check only with seven bits to spare. -/
theorem add_seven_lt_of_check {byte shift bits : ℕ} (hhigh : 128 ≤ byte)
    (hcheck : ¬(shift + 7 ≥ bits ∧ byte ≥ 1 <<< (bits - shift))) : shift + 7 < bits := by
  by_contra hroom
  have : 2 ^ (bits - shift) ≤ 2 ^ 7 := Nat.pow_le_pow_right (by decide) (by omega)
  rw [Nat.one_shiftLeft] at hcheck
  omega

/-- A group below the groups above it: a value with a nonzero part at
`shift + 7` that fits in `bits` still fits with a group added at `shift`. -/
theorem group_add_mul_lt {g j shift bits : ℕ} (hg : g < 128) (hj : 0 < j)
    (hfit : j * 2 ^ (shift + 7) < 2 ^ bits) : (g + 128 * j) * 2 ^ shift < 2 ^ bits := by
  have hjlt : j < 2 ^ (bits - (shift + 7)) := lt_two_pow_sub_of_mul_lt hfit (fun _ => hj)
  have hle : shift + 7 ≤ bits := by
    by_contra h
    rw [Nat.sub_eq_zero_of_le (by omega)] at hjlt
    omega
  have hbits : 2 ^ bits = 2 ^ (bits - (shift + 7)) * 2 ^ 7 * 2 ^ shift := by
    rw [← Nat.pow_add, ← Nat.pow_add]
    congr 1
    omega
  rw [hbits]
  apply Nat.mul_lt_mul_of_pos_right _ (Nat.two_pow_pos _)
  have : (j + 1) * 2 ^ 7 ≤ 2 ^ (bits - (shift + 7)) * 2 ^ 7 := Nat.mul_le_mul_right _ hjlt
  omega

/-- **What the reader's loop accepts.** From `shift`, past `write` bits
assembled, the loop fails with an error code; or it reads the bytes
`write_varint` writes for some `j` that fits at `shift` and is not zero after
the first group, and adds `j` there; or it reads the whole input, every byte of
which has the high bit set. -/
theorem readVarintLoop_cases (bits : ℕ) :
    ∀ (input : List UInt8) (shift read write : ℕ) (n : Int) (v : ℕ) (rest : List UInt8),
      write < 2 ^ shift → readVarintLoop bits input shift read write = (n, v, rest) →
      n = evarintOverflow ∨ n = evarintRepresent ∨
        (∃ j, input = writeVarint j ++ rest ∧ n = ((read + (writeVarint j).length : ℕ) : Int) ∧
          v = write + j * 2 ^ shift ∧ j * 2 ^ shift < 2 ^ bits ∧ (shift ≠ 0 → 0 < j)) ∨
        (rest = [] ∧ n = ((read + input.length : ℕ) : Int) ∧ ∀ b ∈ input, 128 ≤ b.toNat)
  | [], shift, read, write, n, v, rest, _, h => by
    simp only [readVarintLoop, Prod.mk.injEq] at h
    obtain ⟨rfl, -, rfl⟩ := h
    simp
  | byte :: bytes, shift, read, write, n, v, rest, hw, h => by
    rw [readVarintLoop] at h
    dsimp only at h
    by_cases hover : shift + 7 ≥ bits ∧ byte.toNat ≥ 1 <<< (bits - shift)
    · rw [if_pos hover, Prod.mk.injEq] at h
      exact .inl h.1.symm
    rw [if_neg hover] at h
    by_cases hzero : byte = 0 ∧ shift ≠ 0
    · rw [if_pos hzero, Prod.mk.injEq] at h
      exact .inr (.inl h.1.symm)
    rw [if_neg hzero, toNat_and_0x7f, or_shiftLeft_eq_add hw] at h
    by_cases hlast : byte &&& 0x80 = 0
    · -- the last byte: `j` is its value
      rw [if_pos hlast] at h
      simp only [Prod.mk.injEq] at h
      obtain ⟨rfl, rfl, rfl⟩ := h
      have hlt : byte.toNat < 128 := (and_0x80_eq_zero_iff byte).mp hlast
      have hbyte : byte.toNat.toUInt8 = byte := by simp
      refine .inr (.inr (.inl ⟨byte.toNat, ?_, ?_, ?_, mul_two_pow_lt_of_check hlt hover, ?_⟩))
      · rw [writeVarint_of_lt hlt, hbyte, List.singleton_append]
      · rw [writeVarint_of_lt hlt, List.length_singleton]
      · rw [Nat.mod_eq_of_lt hlt]
      · intro hs
        have hne : byte ≠ 0 := fun h0 => hzero ⟨h0, hs⟩
        rw [Nat.pos_iff_ne_zero, Ne, ← UInt8.toNat_zero, UInt8.toNat_inj]
        exact hne
    · -- a continuation byte, then what the loop reads seven bits higher
      rw [if_neg hlast] at h
      have hhigh : 128 ≤ byte.toNat := Nat.le_of_not_lt (mt (and_0x80_eq_zero_iff byte).mpr hlast)
      have hroom := add_seven_lt_of_check hhigh hover
      have hw' : write + byte.toNat % 128 * 2 ^ shift < 2 ^ (shift + 7) :=
        add_group_lt hw (Nat.mod_lt _ (by decide))
      rcases readVarintLoop_cases bits bytes (shift + 7) (read + 1) _ n v rest hw' h with
        h1 | h2 | ⟨j, hin, hn, hv, hfit, hpos⟩ | ⟨hrest, hn, hall⟩
      · exact .inl h1
      · exact .inr (.inl h2)
      · have hj : 0 < j := hpos (by omega)
        have hmod : byte.toNat % 128 < 128 := Nat.mod_lt _ (by decide)
        have hwrite : writeVarint (byte.toNat % 128 + 128 * j) = byte :: writeVarint j := by
          rw [writeVarint_of_ge (by omega), continuationByte_eq hhigh (by omega)]
          congr 2
          omega
        refine .inr (.inr (.inl ⟨byte.toNat % 128 + 128 * j, ?_, ?_, ?_, group_add_mul_lt hmod hj hfit,
          fun _ => by omega⟩))
        · rw [hwrite, hin, List.cons_append]
        · rw [hn, hwrite, List.length_cons]
          push_cast
          ring
        · rw [hv, Nat.pow_add]
          ring
      · refine .inr (.inr (.inr ⟨hrest, ?_, ?_⟩))
        · rw [hn, List.length_cons]
          push_cast
          ring
        · intro b hb
          rcases List.mem_cons.mp hb with rfl | hb
          · exact hhigh
          · exact hall b hb

/-- **The varint codec.** Reading what `write_varint` wrote for a value that
fits in `bits` gives the value and the count of its bytes, whatever follows.
A positive count comes from reading exactly the bytes `write_varint` writes
for the value read, which fits in `bits`, or from an input that ends inside a
varint, every byte of which is read. -/
theorem readVarint_canonical (bits : ℕ) :
    (∀ v, v < 2 ^ bits → ∀ rest,
      readVarint bits (writeVarint v ++ rest) = (((writeVarint v).length : Int), v, rest)) ∧
    (∀ input n v rest, readVarint bits input = (n, v, rest) → 0 < n →
      (input = writeVarint v ++ rest ∧ n = (writeVarint v).length ∧ v < 2 ^ bits) ∨
      (rest = [] ∧ n = input.length ∧ ∀ b ∈ input, 128 ≤ b.toNat)) := by
  refine ⟨fun v hv rest => readVarint_writeVarint hv rest, ?_⟩
  intro input n v rest h hn
  rcases readVarintLoop_cases bits input 0 0 0 n v rest (by decide) h with
    h1 | h2 | ⟨j, hin, hn', hv, hfit, -⟩ | ⟨hrest, hn', hall⟩
  · rw [h1] at hn
    exact absurd hn (by decide)
  · rw [h2] at hn
    exact absurd hn (by decide)
  · -- the value read is `j` itself
    have hvj : v = j := by simpa using hv
    subst hvj
    exact .inl ⟨hin, by simpa using hn', by simpa using hfit⟩
  · exact .inr ⟨hrest, by simpa using hn', hall⟩

/-- The varint of 300 read back with a byte after it, and the one byte `0x81`
read as a varint cut off by the end of the input. -/
theorem readVarint_canonical_cutOff :
    readVarint 64 (writeVarint 300 ++ [7]) = (((writeVarint 300).length : Int), 300, [7]) ∧
      ((([0x81] : List UInt8) = writeVarint 1 ++ [] ∧ (1 : Int) = ((writeVarint 1).length : Int) ∧
          1 < 2 ^ 64) ∨
        (([] : List UInt8) = [] ∧ (1 : Int) = (([0x81] : List UInt8).length : Int) ∧
          ∀ b ∈ ([0x81] : List UInt8), 128 ≤ b.toNat)) :=
  ⟨(readVarint_canonical 64).1 300 (by decide) [7],
    (readVarint_canonical 64).2 [0x81] 1 1 [] (by decide) (by decide)⟩

/-- The one byte `0x81` has the high bit set and nothing after it: the reader
counts it and gives 1, which `write_varint` writes as `0x01`. -/
theorem readVarint_cutOff : readVarint 64 [0x81] = (1, 1, []) ∧ writeVarint 1 ≠ [0x81] := by
  refine ⟨by decide, ?_⟩
  rw [writeVarint_of_lt (by decide)]
  decide

end Ombre
