import Ombre.Basic.Config

/-!
# Amounts as text

`parse_amount` and `print_money` of `cryptonote_format_utils.cpp`, with
`string_tools::get_xtype_from_string` at `uint64_t`. `print_money` writes the
decimal digits of an amount, padded with zeros, with a point `d` digits from the
right; `parse_amount` trims white space, drops the trailing zeros of the
fraction past `d` digits, refuses a longer fraction, erases the point, pads the
fraction to `d` digits and reads the digits as a 64-bit number. `d` is the
global `default_decimal_point`, which only ever holds 9, 6, 3 or 0.

Strings are lists of characters. `boost::lexical_cast<uint64_t>` is modelled by
what it does on the strings of digits it is given here: their value when it is
below `2 ^ 64`, failure otherwise.

Printing then parsing gives the amount back (`parseAmount_printMoney`). A string
parses exactly when, trimmed, it is digits with at most one point, its fraction
is at most `d` digits once its trailing zeros are removed and its value scaled by
`10 ^ d` fits 64 bits (`parseAmount_of_split`, `parseAmount_of_not_mem`), except
that with `d = 0` a fraction of zeros after an empty integer part, `".0"`, is
refused: the loop drops every zero and leaves nothing to read.
-/

namespace Ombre

/-- The values `default_decimal_point` can hold: it starts at
`CRYPTONOTE_DISPLAY_DECIMAL_POINT`, and `set_default_decimal_point` stores 9, 6,
3 or 0 and throws on anything else. -/
structure DecimalPoint where
  val : ℕ
  valid : val = 9 ∨ val = 6 ∨ val = 3 ∨ val = 0

/-- `default_decimal_point` as the program starts. -/
def DecimalPoint.initial : DecimalPoint := ⟨cryptonoteDisplayDecimalPoint, .inl rfl⟩

/-- `set_default_decimal_point` -/
def setDefaultDecimalPoint (decimalPoint : ℕ) : Except String DecimalPoint :=
  if h : decimalPoint = 9 ∨ decimalPoint = 6 ∨ decimalPoint = 3 ∨ decimalPoint = 0 then .ok ⟨decimalPoint, h⟩
  else .error ("Invalid decimal point specification: " ++ toString decimalPoint)

/-- `std::isspace` in the C locale. -/
def isspace (c : Char) : Bool :=
  c == ' ' || c == '\t' || c == '\n' || c == '\x0b' || c == '\x0c' || c == '\r'

/-- `boost::algorithm::trim`: the white space at the right end removed, then at
the left. -/
def trim (s : List Char) : List Char :=
  (s.reverse.dropWhile isspace).reverse.dropWhile isspace

/-- The loop `while (default_decimal_point < fraction_size && '0' == str_amount.back())`
of `parse_amount`, dropping the last character and counting it off the fraction. -/
def dropTrailingZeros (defaultDecimalPoint : ℕ) : ℕ → List Char → ℕ × List Char
  | 0, s => (0, s)
  | fractionSize + 1, s =>
    if defaultDecimalPoint < fractionSize + 1 ∧ s.getLast? = some '0' then
      dropTrailingZeros defaultDecimalPoint fractionSize s.dropLast
    else (fractionSize + 1, s)

/-- `string_tools::get_xtype_from_string` at `uint64_t`: every character must be
a digit; `boost::lexical_cast` then refuses an empty string and a value past
`2 ^ 64 - 1`, and otherwise returns the value of the digits. -/
def getXtypeFromString (strId : List Char) : Option UInt64 :=
  if strId.all Char.isDigit then
    if strId ≠ [] ∧ Nat.ofDigitChars 10 strId 0 < 2 ^ 64 then
      some (UInt64.ofNat (Nat.ofDigitChars 10 strId 0))
    else none
  else none

/-- The branch of `parse_amount` on `find_first_of('.')`: with a point, the
fraction's trailing zeros past `d` digits dropped, a longer fraction refused and
the point erased; the size of the fraction is returned with the digits. -/
def removePoint (defaultDecimalPoint : ℕ) (strAmount : List Char) : Option (ℕ × List Char) :=
  match strAmount.idxOf? '.' with
  | some pointIndex =>
    let (fractionSize, strAmount) :=
      dropTrailingZeros defaultDecimalPoint (strAmount.length - pointIndex - 1) strAmount
    if defaultDecimalPoint < fractionSize then none
    else some (fractionSize, strAmount.eraseIdx pointIndex)
  | none => some (0, strAmount)

/-- `parse_amount`: the amount in atomic units written by `strAmount`, with
`default_decimal_point` digits after the point. -/
def parseAmount (defaultDecimalPoint : DecimalPoint) (strAmount : List Char) : Option UInt64 :=
  match removePoint defaultDecimalPoint.val (trim strAmount) with
  | none => none
  | some (fractionSize, strAmount) =>
    if strAmount = [] then none
    else
      getXtypeFromString (if fractionSize < defaultDecimalPoint.val then
        strAmount ++ List.replicate (defaultDecimalPoint.val - fractionSize) '0' else strAmount)

/-- `print_money`: the decimal digits of `amount`, padded with zeros to one more
than the decimal point and the point put that many digits from the right;
`(unsigned int)-1` asks for `default_decimal_point`. -/
def printMoney (defaultDecimalPoint : DecimalPoint) (amount : UInt64) (decimalPoint : UInt32) : List Char :=
  let decimalPoint :=
    if decimalPoint = UInt32.ofNat (2 ^ 32 - 1) then defaultDecimalPoint.val else decimalPoint.toNat
  let s := Nat.toDigits 10 amount.toNat
  let s := if s.length < decimalPoint + 1 then List.replicate (decimalPoint + 1 - s.length) '0' ++ s else s
  if 0 < decimalPoint then s.take (s.length - decimalPoint) ++ '.' :: s.drop (s.length - decimalPoint)
  else s

example : printMoney DecimalPoint.initial 1500000000 (UInt32.ofNat (2 ^ 32 - 1)) = "1.500000000".toList := by
  decide

example : parseAmount DecimalPoint.initial " 1.5 ".toList = some 1500000000 := by decide

/-! ## Reading the pieces -/

theorem isspace_eq_false_of_isDigit {c : Char} (h : c.isDigit) : isspace c = false := by
  by_contra hs
  simp only [isspace, Bool.not_eq_false, Bool.or_eq_true, beq_iff_eq] at hs
  rcases hs with ((((hc | hc) | hc) | hc) | hc) | hc <;> subst hc <;> simp at h

/-- A string that neither starts nor ends with white space is its own trim. -/
theorem trim_eq_self {s : List Char} (hhead : ∀ c ∈ s.head?, isspace c = false)
    (hlast : ∀ c ∈ s.getLast?, isspace c = false) : trim s = s := by
  have hrev : s.reverse.dropWhile isspace = s.reverse := by
    rw [List.dropWhile_eq_self_iff]
    intro hpos
    have hmem : s.reverse[0] ∈ s.getLast? := by
      rw [← List.head?_reverse, List.head?_eq_getElem?, List.getElem?_eq_getElem hpos]
      rfl
    rw [hlast _ hmem]
    exact Bool.false_ne_true
  rw [trim, hrev, List.reverse_reverse, List.dropWhile_eq_self_iff]
  intro hpos
  have hmem : s[0] ∈ s.head? := by
    rw [List.head?_eq_getElem?, List.getElem?_eq_getElem hpos]
    rfl
  rw [hhead _ hmem]
  exact Bool.false_ne_true

/-- A string with no white space is its own trim. -/
theorem trim_of_forall {s : List Char} (h : ∀ c ∈ s, isspace c = false) : trim s = s :=
  trim_eq_self (fun c hc => h c (List.mem_of_mem_head? hc))
    (fun c hc => h c (List.mem_of_mem_getLast? hc))

theorem getXtypeFromString_eq_some_iff {strId : List Char} {a : UInt64} :
    getXtypeFromString strId = some a ↔ (∀ c ∈ strId, c.isDigit) ∧ strId ≠ [] ∧
      Nat.ofDigitChars 10 strId 0 < 2 ^ 64 ∧ a.toNat = Nat.ofDigitChars 10 strId 0 := by
  unfold getXtypeFromString
  by_cases hdigits : strId.all Char.isDigit
  · rw [if_pos hdigits]
    have hall : ∀ c ∈ strId, c.isDigit := List.all_eq_true.mp hdigits
    by_cases hok : strId ≠ [] ∧ Nat.ofDigitChars 10 strId 0 < 2 ^ 64
    · rw [if_pos hok, Option.some.injEq]
      constructor
      · rintro rfl
        exact ⟨hall, hok.1, hok.2, UInt64.toNat_ofNat_of_lt' hok.2⟩
      · rintro ⟨-, -, -, ha⟩
        apply UInt64.toNat_inj.mp
        rw [ha, UInt64.toNat_ofNat_of_lt' hok.2]
    · rw [if_neg hok]
      simp only [reduceCtorEq, false_iff, not_and]
      exact fun _ hne hlt _ => hok ⟨hne, hlt⟩
  · rw [if_neg hdigits]
    simp only [reduceCtorEq, false_iff, not_and]
    exact fun hall => absurd (List.all_eq_true.mpr hall) hdigits

/-- Zeros written after the digits scale the value by a power of ten. -/
theorem ofDigitChars_append_zeros (s : List Char) (k : ℕ) :
    Nat.ofDigitChars 10 (s ++ List.replicate k '0') 0 = Nat.ofDigitChars 10 s 0 * 10 ^ k := by
  rw [Nat.ofDigitChars_append, Nat.ofDigitChars_replicate_zero, Nat.mul_comm]

/-- Zeros written before the digits change nothing. -/
theorem ofDigitChars_zeros_append (s : List Char) (k : ℕ) :
    Nat.ofDigitChars 10 (List.replicate k '0' ++ s) 0 = Nat.ofDigitChars 10 s 0 := by
  rw [Nat.ofDigitChars_append, Nat.ofDigitChars_replicate_zero, Nat.mul_zero]

theorem idxOf?_append_cons {ip : List Char} (rest : List Char) (h : '.' ∉ ip) :
    (ip ++ '.' :: rest).idxOf? '.' = some ip.length := by
  induction ip with
  | nil => simp [List.idxOf?_cons]
  | cons c ip ih =>
    have hc : c ≠ '.' := fun hc => h (hc ▸ List.mem_cons_self)
    rw [List.cons_append, List.idxOf?_cons, if_neg (by simpa using hc),
      ih (fun hm => h (List.mem_cons_of_mem c hm))]
    rfl

theorem dropTrailingZeros_of_le {d f : ℕ} (s : List Char) (h : f ≤ d) :
    dropTrailingZeros d f s = (f, s) := by
  cases f with
  | zero => rfl
  | succ f => rw [dropTrailingZeros, if_neg fun hc => absurd hc.1 (by omega)]

/-- With a first point, `removePoint` runs the loop on the whole string and
erases the point. -/
theorem removePoint_of_split {d : ℕ} {ip : List Char} (rest : List Char) (h : '.' ∉ ip) :
    removePoint d (ip ++ '.' :: rest) =
      if d < (dropTrailingZeros d rest.length (ip ++ '.' :: rest)).1 then none
      else some ((dropTrailingZeros d rest.length (ip ++ '.' :: rest)).1,
        (dropTrailingZeros d rest.length (ip ++ '.' :: rest)).2.eraseIdx ip.length) := by
  have hlen : (ip ++ '.' :: rest).length - ip.length - 1 = rest.length := by simp
  rw [removePoint, idxOf?_append_cons rest h]
  dsimp only
  rw [hlen]

theorem removePoint_of_not_mem {d : ℕ} {s : List Char} (h : '.' ∉ s) : removePoint d s = some (0, s) := by
  rw [removePoint, List.idxOf?_eq_none_iff.mpr h]

/-- Padding to `d` digits after a fraction of `f` digits, whichever branch. -/
theorem pad_eq (s : List Char) (f d : ℕ) :
    (if f < d then s ++ List.replicate (d - f) '0' else s) = s ++ List.replicate (d - f) '0' := by
  split
  · rfl
  · rw [Nat.sub_eq_zero_of_le (by omega), List.replicate_zero, List.append_nil]

/-! ## Printing, then parsing -/

/-- `print_money` pads the digits of the amount to more digits than the point
skips: the padded string is all digits and reads as the amount. -/
theorem padded_toDigits (n d : ℕ) :
    let s := Nat.toDigits 10 n
    let s := if s.length < d + 1 then List.replicate (d + 1 - s.length) '0' ++ s else s
    d < s.length ∧ (∀ c ∈ s, c.isDigit) ∧ Nat.ofDigitChars 10 s 0 = n := by
  have hdigit : ∀ c ∈ Nat.toDigits 10 n, c.isDigit := fun c hc =>
    Nat.isDigit_of_mem_toDigits (by decide) (by decide) hc
  dsimp only
  split
  · rename_i hshort
    refine ⟨by simp; omega, ?_, by rw [ofDigitChars_zeros_append, Nat.ofDigitChars_ten_toDigits]⟩
    intro c hc
    rcases List.mem_append.mp hc with hz | hc
    · rw [List.eq_of_mem_replicate hz]
      decide
    · exact hdigit c hc
  · exact ⟨by omega, hdigit, Nat.ofDigitChars_ten_toDigits⟩

/-- The digits of an amount are read back as the amount. -/
theorem getXtypeFromString_of_digits {s : List Char} {a : UInt64} (hdig : ∀ c ∈ s, c.isDigit)
    (hne : s ≠ []) (hvalue : Nat.ofDigitChars 10 s 0 = a.toNat) : getXtypeFromString s = some a := by
  rw [getXtypeFromString_eq_some_iff, hvalue]
  exact ⟨hdig, hne, a.toNat_lt, rfl⟩

theorem parseAmount_printMoney (dp : DecimalPoint) (a : UInt64) :
    parseAmount dp (printMoney dp a (UInt32.ofNat dp.val)) = some a := by
  have hdp : (if UInt32.ofNat dp.val = UInt32.ofNat (2 ^ 32 - 1) then dp.val
      else (UInt32.ofNat dp.val).toNat) = dp.val := by
    rcases dp.valid with h | h | h | h <;> rw [h] <;> decide
  obtain ⟨hlen, hdig, hvalue⟩ := padded_toDigits a.toNat dp.val
  have hpoint : '.' ∉ (if (Nat.toDigits 10 a.toNat).length < dp.val + 1 then
      List.replicate (dp.val + 1 - (Nat.toDigits 10 a.toNat).length) '0' ++ Nat.toDigits 10 a.toNat
      else Nat.toDigits 10 a.toNat) := fun h => absurd (hdig _ h) (by decide)
  unfold printMoney parseAmount
  dsimp only
  rw [hdp]
  generalize (if (Nat.toDigits 10 a.toNat).length < dp.val + 1 then
      List.replicate (dp.val + 1 - (Nat.toDigits 10 a.toNat).length) '0' ++ Nat.toDigits 10 a.toNat
      else Nat.toDigits 10 a.toNat) = s at hlen hdig hvalue hpoint
  have hne : s ≠ [] := List.ne_nil_of_length_pos (by omega)
  have hspace : ∀ c ∈ s, isspace c = false := fun c hc => isspace_eq_false_of_isDigit (hdig c hc)
  by_cases hd : 0 < dp.val
  · -- the point stands `d` digits from the right: the fraction is exactly `d` digits
    rw [if_pos hd]
    have hip : '.' ∉ s.take (s.length - dp.val) := fun h => hpoint (List.mem_of_mem_take h)
    have hrest : (s.drop (s.length - dp.val)).length = dp.val := by simp; omega
    have htrim : trim (s.take (s.length - dp.val) ++ '.' :: s.drop (s.length - dp.val)) =
        s.take (s.length - dp.val) ++ '.' :: s.drop (s.length - dp.val) := by
      apply trim_of_forall
      intro c hc
      rcases List.mem_append.mp hc with hc | hc
      · exact hspace c (List.mem_of_mem_take hc)
      · rcases List.mem_cons.mp hc with rfl | hc
        · rfl
        · exact hspace c (List.mem_of_mem_drop hc)
    have herase : (s.take (s.length - dp.val) ++ '.' :: s.drop (s.length - dp.val)).eraseIdx
        (s.take (s.length - dp.val)).length = s := by
      rw [List.eraseIdx_append_of_length_le le_rfl, Nat.sub_self, List.eraseIdx_cons_zero,
        List.take_append_drop]
    rw [htrim, removePoint_of_split _ hip, hrest, dropTrailingZeros_of_le _ le_rfl]
    dsimp only
    rw [if_neg (Nat.lt_irrefl _), herase]
    dsimp only
    rw [if_neg hne, if_neg (Nat.lt_irrefl _)]
    exact getXtypeFromString_of_digits hdig hne hvalue
  · -- no point is printed, and none is parsed
    rw [if_neg hd, trim_of_forall hspace, removePoint_of_not_mem hpoint]
    dsimp only
    rw [if_neg hne, if_neg hd]
    exact getXtypeFromString_of_digits hdig hne hvalue

/-! ## Which strings parse -/

theorem exists_split_first {α : Type*} [DecidableEq α] {a : α} :
    ∀ {l : List α}, a ∈ l → ∃ s t, l = s ++ a :: t ∧ a ∉ s
  | [], h => absurd h List.not_mem_nil
  | b :: l, h => by
    by_cases hb : b = a
    · exact ⟨[], l, by rw [hb]; rfl, List.not_mem_nil⟩
    · obtain ⟨s, t, hl, hs⟩ := exists_split_first ((List.mem_cons.mp h).resolve_left (Ne.symm hb))
      refine ⟨b :: s, t, by rw [hl]; rfl, ?_⟩
      rintro (_ | ⟨_, hm⟩)
      · exact hb rfl
      · exact hs hm

theorem split_first_unique {α : Type*} {a : α} :
    ∀ {s s' t t' : List α}, a ∉ s → a ∉ s' → s ++ a :: t = s' ++ a :: t' → s = s' ∧ t = t'
  | [], [], _, _, _, _, h => ⟨rfl, (List.cons.inj h).2⟩
  | [], b :: s', _, _, _, hs', h => absurd ((List.cons.inj h).1 ▸ List.mem_cons_self) hs'
  | b :: s, [], _, _, hs, _, h => absurd ((List.cons.inj h).1 ▸ List.mem_cons_self) hs
  | b :: s, b' :: s', t, t', hs, hs', h => by
    obtain ⟨hb, htail⟩ := List.cons.inj h
    obtain ⟨rfl, rfl⟩ := split_first_unique (fun hm => hs (List.mem_cons_of_mem b hm))
      (fun hm => hs' (List.mem_cons_of_mem b' hm)) htail
    exact ⟨by rw [hb], rfl⟩

/-- The loop drops `k` zeros off the end of the fraction `rest` and leaves `r`:
it drops only while the fraction is longer than `d`, and stops early only at a
last digit other than `0`. -/
theorem dropTrailingZeros_append (d : ℕ) (pre : List Char) (rest : List Char) :
    ∃ r k, dropTrailingZeros d rest.length (pre ++ rest) = (r.length, pre ++ r) ∧
      rest = r ++ List.replicate k '0' ∧ (0 < k → d ≤ r.length) ∧ (d < r.length → r.getLast? ≠ some '0') := by
  induction rest using List.reverseRecOn with
  | nil => exact ⟨[], 0, rfl, rfl, fun h => absurd h (Nat.lt_irrefl 0), fun h => absurd h (Nat.not_lt_zero d)⟩
  | append_singleton rest x ih =>
    rw [List.length_append, List.length_singleton, dropTrailingZeros, ← List.append_assoc,
      List.getLast?_concat, List.dropLast_concat]
    by_cases hdrop : d < rest.length + 1 ∧ some x = some '0'
    · -- one more zero dropped
      rw [if_pos hdrop]
      obtain ⟨r, k, hloop, hrest, hk, hlast⟩ := ih
      have hx : x = '0' := Option.some.inj hdrop.2
      refine ⟨r, k + 1, hloop, by rw [hrest, hx, List.replicate_succ', List.append_assoc], ?_, hlast⟩
      intro _
      rcases Nat.eq_zero_or_pos k with rfl | hpos
      · have := hdrop.1
        rw [hrest, List.length_append, List.length_replicate] at this
        omega
      · exact hk hpos
    · -- the loop stops here
      rw [if_neg hdrop]
      refine ⟨rest ++ [x], 0, by rw [List.length_append, List.length_singleton, List.append_assoc], by simp,
        fun h => absurd h (Nat.lt_irrefl 0), ?_⟩
      intro hd
      rw [List.getLast?_concat]
      intro hx
      exact hdrop ⟨by simpa using hd, hx⟩

/-- The value of `ip.fp` times `10 ^ d`: the digits with the fraction's trailing
zeros removed, scaled by the digits the fraction falls short of `d`. -/
def scaledValue (d : ℕ) (ip fp : List Char) : ℕ :=
  Nat.ofDigitChars 10 (ip ++ fp.rdropWhile (· == '0')) 0 * 10 ^ (d - (fp.rdropWhile (· == '0')).length)

theorem rdropWhile_append_zeros (l : List Char) (k : ℕ) :
    (l ++ List.replicate k '0').rdropWhile (· == '0') = l.rdropWhile (· == '0') := by
  induction k with
  | zero => rw [List.replicate_zero, List.append_nil]
  | succ k ih => rw [List.replicate_succ', ← List.append_assoc, List.rdropWhile_concat_pos _ _ _ rfl, ih]

/-- A fraction is its digits up to the last non-zero one, then zeros. -/
theorem eq_rdropWhile_append_zeros (l : List Char) :
    l = l.rdropWhile (· == '0') ++ List.replicate (l.length - (l.rdropWhile (· == '0')).length) '0' := by
  have hzeros : l.rtakeWhile (· == '0') =
      List.replicate (l.rtakeWhile (· == '0')).length '0' :=
    List.eq_replicate_iff.mpr ⟨rfl, fun c hc => by simpa using List.mem_rtakeWhile_imp hc⟩
  have hsplit : l.rdropWhile (· == '0') ++ l.rtakeWhile (· == '0') = l := List.rdropWhile_append_rtakeWhile
  have hlen := congrArg List.length hsplit
  rw [List.length_append] at hlen
  rw [show l.length - (l.rdropWhile (· == '0')).length = (l.rtakeWhile (· == '0')).length by omega,
    ← hzeros, hsplit]

/-- A fraction of at most `d` digits, padded to `d`, reads as the scaled value. -/
theorem ofDigitChars_padded {d : ℕ} (ip r : List Char) (hr : r.length ≤ d) :
    Nat.ofDigitChars 10 (ip ++ r ++ List.replicate (d - r.length) '0') 0 = scaledValue d ip r := by
  have hz := eq_rdropWhile_append_zeros r
  have hzlen : (r.rdropWhile (· == '0')).length ≤ r.length := (List.rdropWhile_prefix _ _).length_le
  have hread : Nat.ofDigitChars 10 (ip ++ r) 0 = Nat.ofDigitChars 10 (ip ++ r.rdropWhile (· == '0')) 0 *
      10 ^ (r.length - (r.rdropWhile (· == '0')).length) := by
    conv_lhs => rw [hz]
    rw [← List.append_assoc, ofDigitChars_append_zeros]
  rw [scaledValue, ofDigitChars_append_zeros, hread, Nat.mul_assoc, ← Nat.pow_add]
  congr 2
  omega

/-- With its first point after `ip`, a string parses exactly when its digits,
with the fraction past `d` digits all zeros, fit 64 bits, and the integer part is
not empty where `d = 0`. -/
theorem parseAmount_of_split {dp : DecimalPoint} {s ip rest : List Char} {a : UInt64}
    (ht : trim s = ip ++ '.' :: rest) (hip : '.' ∉ ip) :
    parseAmount dp s = some a ↔ (∀ c ∈ ip ++ rest, c.isDigit) ∧ ip ++ rest ≠ [] ∧ (dp.val = 0 → ip ≠ []) ∧
      (rest.rdropWhile (· == '0')).length ≤ dp.val ∧ scaledValue dp.val ip rest < 2 ^ 64 ∧
      a.toNat = scaledValue dp.val ip rest := by
  obtain ⟨r, k, hloop, hrest, hk, hlast⟩ := dropTrailingZeros_append dp.val (ip ++ ['.']) rest
  have hz : rest.rdropWhile (· == '0') = r.rdropWhile (· == '0') := by
    rw [hrest, rdropWhile_append_zeros]
  have herase : (ip ++ ['.'] ++ r).eraseIdx ip.length = ip ++ r := by
    rw [List.append_assoc, List.singleton_append, List.eraseIdx_append_of_length_le le_rfl, Nat.sub_self,
      List.eraseIdx_cons_zero]
  unfold parseAmount
  rw [ht, removePoint_of_split rest hip, show ip ++ '.' :: rest = ip ++ ['.'] ++ rest by simp, hloop]
  dsimp only
  by_cases hd : dp.val < r.length
  · -- a fraction longer than `d` digits ending in a digit other than 0 is refused
    rw [if_pos hd]
    simp only [reduceCtorEq, false_iff, not_and]
    intro _ _ _ hlen
    have hne : r ≠ [] := List.ne_nil_of_length_pos (by omega)
    have hself : r.rdropWhile (· == '0') = r := by
      rw [List.rdropWhile_eq_self_iff]
      intro hr hzero
      apply hlast hd
      rw [List.getLast?_eq_some_getLast hr]
      simpa using hzero
    rw [hz, hself] at hlen
    omega
  · rw [if_neg hd]
    dsimp only
    rw [herase, pad_eq]
    have hlen : (rest.rdropWhile (· == '0')).length ≤ dp.val := by
      rw [hz]
      exact ((List.rdropWhile_prefix _ _).length_le).trans (by omega)
    have hvalue : Nat.ofDigitChars 10 (ip ++ r ++ List.replicate (dp.val - r.length) '0') 0 =
        scaledValue dp.val ip rest := by
      rw [ofDigitChars_padded ip r (by omega), scaledValue, scaledValue, hz]
    have hdigits : (∀ c ∈ ip ++ r ++ List.replicate (dp.val - r.length) '0', c.isDigit) ↔
        ∀ c ∈ ip ++ rest, c.isDigit := by
      rw [hrest]
      simp only [List.mem_append, List.mem_replicate]
      constructor
      · rintro h c (hc | hc | ⟨-, rfl⟩)
        · exact h c (.inl (.inl hc))
        · exact h c (.inl (.inr hc))
        · decide
      · rintro h c ((hc | hc) | ⟨-, rfl⟩)
        · exact h c (.inl hc)
        · exact h c (.inr (.inl hc))
        · decide
    -- the digits left are empty exactly when nothing but zeros follows an empty
    -- integer part and `d = 0` has dropped them all
    have hnonempty : ip ++ r ≠ [] ↔ ip ++ rest ≠ [] ∧ (dp.val = 0 → ip ≠ []) := by
      constructor
      · intro h
        refine ⟨fun h' => h ?_, fun hd0 hip0 => h ?_⟩
        · rw [hrest, ← List.append_assoc] at h'
          exact List.append_eq_nil_iff.mp h' |>.1
        · rw [hip0, List.nil_append, ← List.length_eq_zero_iff]
          omega
      · rintro ⟨hne, hd0⟩ h
        obtain ⟨hip0, hr0⟩ := List.append_eq_nil_iff.mp h
        have hpos : 0 < k := by
          rcases Nat.eq_zero_or_pos k with rfl | hpos
          · rw [hrest, hip0, hr0] at hne
            exact absurd rfl hne
          · exact hpos
        have := hk hpos
        rw [hr0, List.length_nil] at this
        exact hd0 (by omega) hip0
    by_cases hempty : ip ++ r = []
    · rw [if_pos hempty]
      simp only [reduceCtorEq, false_iff, not_and]
      intro _ hne hd0
      exact absurd hempty (hnonempty.mpr ⟨hne, hd0⟩)
    · rw [if_neg hempty, getXtypeFromString_eq_some_iff, hvalue]
      have hpadded : ip ++ r ++ List.replicate (dp.val - r.length) '0' ≠ [] := by
        simp only [ne_eq, List.append_eq_nil_iff, not_and]
        exact fun h _ => hempty (List.append_eq_nil_iff.mpr h)
      constructor
      · rintro ⟨hdig, -, hlt, ha⟩
        exact ⟨hdigits.mp hdig, (hnonempty.mp hempty).1, (hnonempty.mp hempty).2, hlen, hlt, ha⟩
      · rintro ⟨hdig, -, -, -, hlt, ha⟩
        exact ⟨hdigits.mpr hdig, hpadded, hlt, ha⟩

/-- Without a point, a string parses exactly when it is digits whose value,
scaled by `10 ^ d`, fits 64 bits. -/
theorem parseAmount_of_not_mem {dp : DecimalPoint} {s : List Char} {a : UInt64} (ht : '.' ∉ trim s) :
    parseAmount dp s = some a ↔ (∀ c ∈ trim s, c.isDigit) ∧ trim s ≠ [] ∧
      scaledValue dp.val (trim s) [] < 2 ^ 64 ∧ a.toNat = scaledValue dp.val (trim s) [] := by
  have hvalue : scaledValue dp.val (trim s) [] =
      Nat.ofDigitChars 10 (trim s ++ List.replicate dp.val '0') 0 := by
    rw [scaledValue, ofDigitChars_append_zeros, List.rdropWhile_nil, List.append_nil, List.length_nil,
      Nat.sub_zero]
  unfold parseAmount
  rw [removePoint_of_not_mem ht]
  dsimp only
  rw [pad_eq, Nat.sub_zero, hvalue]
  by_cases hempty : trim s = []
  · rw [if_pos hempty]
    simp only [reduceCtorEq, false_iff, not_and]
    exact fun _ hne => absurd hempty hne
  · rw [if_neg hempty, getXtypeFromString_eq_some_iff]
    simp only [List.mem_append, List.mem_replicate]
    constructor
    · rintro ⟨hdig, -, hlt, ha⟩
      exact ⟨fun c hc => hdig c (.inl hc), hempty, hlt, ha⟩
    · rintro ⟨hdig, -, hlt, ha⟩
      refine ⟨?_, by simp [hempty], hlt, ha⟩
      rintro c (hc | ⟨-, rfl⟩)
      · exact hdig c hc
      · decide

/-- The amount text codec: printing then parsing gives the amount back, and a
string parses exactly when, trimmed, it is digits with at most one point, at
least one digit and, where the default decimal point is 0, at least one before
the point; at most `d` digits after the point once its trailing zeros are
removed; and a value times `10 ^ d` below `2 ^ 64`, which is the result. -/
theorem amount_text_codec :
    (∀ (d : DecimalPoint) (a : UInt64), parseAmount d (printMoney d a (UInt32.ofNat d.val)) = some a) ∧
    (∀ (d : DecimalPoint) (s : List Char) (a : UInt64), parseAmount d s = some a ↔
      ∃ ip fp : List Char, (trim s = ip ∧ fp = [] ∨ trim s = ip ++ '.' :: fp) ∧
        (∀ c ∈ ip ++ fp, c.isDigit) ∧ ip ++ fp ≠ [] ∧ (d.val = 0 → ip ≠ []) ∧
        (fp.rdropWhile (· == '0')).length ≤ d.val ∧
        scaledValue d.val ip fp < 2 ^ 64 ∧ a.toNat = scaledValue d.val ip fp) := by
  refine ⟨parseAmount_printMoney, ?_⟩
  intro d s a
  by_cases hpt : '.' ∈ trim s
  · obtain ⟨ip, rest, ht, hip⟩ := exists_split_first hpt
    rw [parseAmount_of_split ht hip]
    constructor
    · intro h
      exact ⟨ip, rest, .inr ht, h⟩
    · rintro ⟨ip', fp', hform, hdig, hconds⟩
      -- digits before the point leave it the first one, so the split is the same
      have hip' : '.' ∉ ip' := fun h => absurd (hdig _ (List.mem_append_left _ h)) (by decide)
      rcases hform with ⟨ht', -⟩ | ht'
      · exact absurd (ht' ▸ hpt) hip'
      · obtain ⟨rfl, rfl⟩ := split_first_unique hip hip' (ht.symm.trans ht')
        exact ⟨hdig, hconds⟩
  · rw [parseAmount_of_not_mem hpt]
    constructor
    · rintro ⟨hdig, hne, hlt, ha⟩
      refine ⟨trim s, [], .inl ⟨rfl, rfl⟩, by simpa using hdig, by simpa using hne, fun _ => hne, ?_, hlt, ha⟩
      simp
    · rintro ⟨ip, fp, hform, hdig, hne, -, -, hlt, ha⟩
      rcases hform with ⟨ht, rfl⟩ | ht
      · rw [ht]
        rw [List.append_nil] at hdig hne
        exact ⟨hdig, hne, hlt, ha⟩
      · exact absurd (ht ▸ List.mem_append_right ip List.mem_cons_self) hpt

theorem amount_text_codec_printed :
    parseAmount DecimalPoint.initial (printMoney DecimalPoint.initial 1500000000 (UInt32.ofNat 9)) =
      some 1500000000 :=
  amount_text_codec.1 DecimalPoint.initial 1500000000

theorem parseAmount_bareZeroFraction :
    parseAmount ⟨0, .inr (.inr (.inr rfl))⟩ ['.', '0'] = none ∧
      trim ['.', '0'] = [] ++ '.' :: ['0'] ∧ (∀ c ∈ [] ++ ['0'], c.isDigit) ∧ [] ++ ['0'] ≠ [] ∧
      (['0'].rdropWhile (· == '0')).length ≤ 0 ∧ scaledValue 0 [] ['0'] < 2 ^ 64 := by
  refine ⟨by decide, by decide, ?_, by decide, by decide, by decide⟩
  intro c hc
  rw [List.nil_append, List.mem_singleton] at hc
  rw [hc]
  decide

end Ombre
