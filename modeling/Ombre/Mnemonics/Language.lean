import Ombre.Mnemonics.WordLists
import Ombre.Lib.Tokens

/-!
# Mnemonic languages

`Language::Base` of `language_base.h` with its twelve languages, and the two
searches of `electrum-words.cpp` over them: `find_seed_language`, which picks
the language whose word list holds the most words of a seed, and
`match_words`, which reads each word's index from the language's map of
prefixes.

Strings are lists of characters, that is of code points; the word lists keep
the headers' strings and are read as lists of characters where a text is built
from them. `std::string::length` counts UTF-8 bytes (`byteLength`), which is
why a word is trimmed only when it is longer than the prefix in bytes; since a
character takes at least one byte, trimming is taking the prefix in every case
(`trimmed_eq_utf8Prefix`).

`populate_maps` fills `word_map` (word to index) and `trimmed_word_map` (prefix
to index), and throws on a list that is not 1626 words long, on a word shorter
than the prefix (Spanish allows those) and on a repeated prefix. The maps are
not kept: a word is in `word_map` when it is in the list (`Base.inWordMap`), and
`trimmed_word_map` gives a prefix the first index whose word has it
(`Base.trimmedWordIndex`), the map's entry for any list that passes the check
for repeated prefixes.

`std::sort` of the twelve scored languages runs, below libstdc++'s threshold of
16 entries, its insertion sort, which never moves an entry past one of the same
score. The model sorts with `List.insertionSort` by `≤` on the scores, which
orders the same way, so `find_seed_language` picks the last language, in its
own order, among those of the highest score. A language holding every word of
a seed is therefore passed over for any later language that holds them too
(`findSeedLanguage_mem_drop`); Lojban, the last, wins every seed it holds
(`findSeedLanguage_lojban`).
-/

namespace Ombre.Language

/-- `Language::Base`: the names, the word list and the prefix length a language
is built with. -/
structure Base where
  languageName : String
  englishLanguageName : String
  wordList : List String
  uniquePrefixLength : ℕ

/-- `Language::Chinese_Simplified` -/
def chineseSimplified : Base := ⟨"简体中文 (中国)", "Chinese (simplified)", chineseSimplifiedWords, 1⟩

/-- `Language::English` -/
def english : Base := ⟨"English", "English", englishWords, 3⟩

/-- `Language::Dutch` -/
def dutch : Base := ⟨"Nederlands", "Dutch", dutchWords, 4⟩

/-- `Language::French` -/
def french : Base := ⟨"Français", "French", frenchWords, 4⟩

/-- `Language::Spanish` -/
def spanish : Base := ⟨"Español", "Spanish", spanishWords, 4⟩

/-- `Language::German` -/
def german : Base := ⟨"Deutsch", "German", germanWords, 4⟩

/-- `Language::Italian` -/
def italian : Base := ⟨"Italiano", "Italian", italianWords, 4⟩

/-- `Language::Portuguese` -/
def portuguese : Base := ⟨"Português", "Portuguese", portugueseWords, 4⟩

/-- `Language::Japanese` -/
def japanese : Base := ⟨"日本語", "Japanese", japaneseWords, 3⟩

/-- `Language::Russian` -/
def russian : Base := ⟨"Русский", "Russian", russianWords, 4⟩

/-- `Language::Esperanto` -/
def esperanto : Base := ⟨"Esperanto", "Esperanto", esperantoWords, 4⟩

/-- `Language::Lojban` -/
def lojban : Base := ⟨"Lojban", "Lojban", lojbanWords, 4⟩

/-- `Language::utf8prefix`: the first `count` characters of `s`. -/
def utf8Prefix (s : List Char) (count : ℕ) : List Char := s.take count

/-- `std::string::length`: the count of UTF-8 bytes. -/
def byteLength (s : List Char) : ℕ := (s.map Char.utf8Size).sum

/-- The prefix a word is filed under in `trimmed_word_map`, and compared under by
`create_checksum_index` and `checksum_test`: its first `uniquePrefixLength`
characters when it is longer than that in bytes, the whole word otherwise. -/
def trimmed (uniquePrefixLength : ℕ) (w : List Char) : List Char :=
  if byteLength w > uniquePrefixLength then utf8Prefix w uniquePrefixLength else w

theorem length_le_byteLength (s : List Char) : s.length ≤ byteLength s := by
  induction s with
  | nil => simp [byteLength]
  | cons c s ih =>
    have hc := Char.utf8Size_pos c
    simp only [byteLength, List.map_cons, List.sum_cons, List.length_cons] at ih ⊢
    omega

/-- Trimming takes the prefix: a word no longer than the prefix in bytes has no
more characters than that. -/
theorem trimmed_eq_utf8Prefix (n : ℕ) (w : List Char) : trimmed n w = utf8Prefix w n := by
  unfold trimmed
  split
  · rfl
  · have hlen := length_le_byteLength w
    rw [utf8Prefix, List.take_of_length_le (by omega)]

namespace Base

/-- `word_map.count(word) > 0` -/
def inWordMap (b : Base) (word : List Char) : Bool := b.wordList.contains (String.ofList word)

/-- `trimmed_word_map.at(trimmedWord)`, `none` where `count` is zero. -/
def trimmedWordIndex (b : Base) (trimmedWord : List Char) : Option ℕ :=
  b.wordList.findIdx? fun w => trimmed b.uniquePrefixLength w.toList == trimmedWord

theorem inWordMap_toList (b : Base) (w : String) : b.inWordMap w.toList = b.wordList.contains w := by
  rw [inWordMap, String.ofList_toList]

/-- Every word of the list is found under its prefix, at an index whose word
has that prefix. -/
theorem trimmedWordIndex_of_mem {b : Base} {w : String} (hw : w ∈ b.wordList) :
    ∃ i, b.trimmedWordIndex (utf8Prefix w.toList b.uniquePrefixLength) = some i := by
  rw [← Option.isSome_iff_exists, trimmedWordIndex, List.findIdx?_isSome, List.any_eq_true]
  exact ⟨w, hw, by simp [trimmed_eq_utf8Prefix]⟩

end Base

end Ombre.Language

namespace Ombre.ElectrumWords

open Ombre.Language Tokens

/-- The languages `find_seed_language` scores, in its order. -/
def seedLanguages : List Base :=
  [chineseSimplified, english, dutch, french, spanish, german, italian, portuguese, japanese,
    russian, esperanto, lojban]

/-- `language_instances` after the scoring loop of `find_seed_language`: each
language with the count of the seed's words in its `word_map`. -/
def scoreLanguages (seed : List (List Char)) : List (Base × ℕ) :=
  seedLanguages.map fun inst => (inst, seed.countP inst.inWordMap)

/-- `find_seed_language`: the scored languages sorted by score, and the last one
taken if its score is not zero. -/
def findSeedLanguage (seed : List (List Char)) : Option Base :=
  match ((scoreLanguages seed).insertionSort fun a b => a.2 ≤ b.2).getLast? with
  | some (inst, score) => if score > 0 then some inst else none
  | none => none

/-- `match_words`: the index each word's prefix has in `trimmed_word_map`, or
`none` at the first word whose prefix is not there. -/
def matchWords (lang : Base) (seed : List (List Char)) : Option (List UInt32) :=
  seed.mapM fun word =>
    (lang.trimmedWordIndex (utf8Prefix word lang.uniquePrefixLength)).map UInt32.ofNat

/-- The language `find_seed_language` picks is the score's `lastNotBelow`. -/
theorem findSeedLanguage_eq (seed : List (List Char)) :
    findSeedLanguage seed =
      match lastNotBelow (fun a b => a.2 ≤ b.2) (scoreLanguages seed) with
      | some (inst, score) => if score > 0 then some inst else none
      | none => none := by
  rw [findSeedLanguage, getLast?_insertionSort]

/-- A language holding every word of the seed scores the length of the seed,
which no language before it exceeds. -/
theorem scoreLanguages_split {seed : List (List Char)} {j : ℕ} {L : Base}
    (hL : seedLanguages[j]? = some L) (hfull : ∀ w ∈ seed, L.inWordMap w = true) :
    (scoreLanguages seed).drop j = (L, seed.length) :: (scoreLanguages seed).drop (j + 1) ∧
      ∀ z ∈ (scoreLanguages seed).take j, z.2 ≤ seed.length := by
  have hj : (scoreLanguages seed)[j]? = some (L, seed.length) := by
    rw [scoreLanguages, List.getElem?_map, hL, Option.map_some, List.countP_eq_length.mpr hfull]
  obtain ⟨hlt, hjL⟩ := List.getElem?_eq_some_iff.mp hj
  refine ⟨by rw [← hjL, List.getElem_cons_drop], ?_⟩
  -- no score exceeds the length of the seed
  intro z hz
  obtain ⟨inst, -, rfl⟩ := List.mem_map.mp (List.mem_of_mem_take hz)
  exact List.countP_le_length

/-- A language holding every word of the seed scores the length of the seed, which
no language exceeds, so the choice falls on it or on a language after it. -/
theorem lastNotBelow_scoreLanguages {seed : List (List Char)} {j : ℕ} {L : Base}
    (hL : seedLanguages[j]? = some L) (hfull : ∀ w ∈ seed, L.inWordMap w = true) :
    ∃ x ∈ (scoreLanguages seed).drop j,
      lastNotBelow (fun a b => a.2 ≤ b.2) (scoreLanguages seed) = some x := by
  obtain ⟨hdrop, hbelow⟩ := scoreLanguages_split hL hfull
  obtain ⟨x, hx, hlast⟩ := @lastNotBelow_append_cons (Base × ℕ) (fun a b => a.2 ≤ b.2) _
    (L, seed.length) ((scoreLanguages seed).drop (j + 1)) ((scoreLanguages seed).take j) hbelow
  rw [← hdrop, List.take_append_drop] at hlast
  exact ⟨x, hdrop ▸ hx, hlast⟩

/-- `find_seed_language` never picks a language before one that holds every
word of the seed. -/
theorem findSeedLanguage_mem_drop {seed : List (List Char)} {j : ℕ} {L' : Base}
    (hL' : seedLanguages[j]? = some L') (hfull : ∀ w ∈ seed, L'.inWordMap w = true) {L : Base}
    (hL : findSeedLanguage seed = some L) : L ∈ seedLanguages.drop j := by
  obtain ⟨⟨inst, score⟩, hx, hlast⟩ := lastNotBelow_scoreLanguages hL' hfull
  rw [findSeedLanguage_eq, hlast] at hL
  dsimp only at hL
  split at hL
  · cases hL
    rw [scoreLanguages, ← List.map_drop] at hx
    obtain ⟨b, hb, hbx⟩ := List.mem_map.mp hx
    cases hbx
    exact hb
  · cases hL

/-- Lojban, the last language scored, wins every nonempty seed it holds. -/
theorem findSeedLanguage_lojban {seed : List (List Char)} (hseed : seed ≠ [])
    (hfull : ∀ w ∈ seed, lojban.inWordMap w = true) : findSeedLanguage seed = some lojban := by
  obtain ⟨x, hx, hlast⟩ := lastNotBelow_scoreLanguages (j := 11) rfl hfull
  have hdrop : (scoreLanguages seed).drop 11 = [(lojban, seed.length)] := by
    show [(lojban, seed.countP lojban.inWordMap)] = _
    rw [List.countP_eq_length.mpr hfull]
  rw [hdrop, List.mem_singleton] at hx
  subst hx
  have hpos : seed.length > 0 := List.length_pos_of_ne_nil hseed
  rw [findSeedLanguage_eq, hlast]
  exact if_pos hpos

/-- A language holding every word of a nonempty seed is picked when each
language after it misses one of them. -/
theorem findSeedLanguage_of_full {seed : List (List Char)} (hseed : seed ≠ []) {j : ℕ} {L : Base}
    (hL : seedLanguages[j]? = some L) (hfull : ∀ w ∈ seed, L.inWordMap w = true)
    (hlater : ∀ L' ∈ seedLanguages.drop (j + 1), ∃ w ∈ seed, L'.inWordMap w = false) :
    findSeedLanguage seed = some L := by
  obtain ⟨hdrop, hbelow⟩ := scoreLanguages_split hL hfull
  -- a language missing a word scores less than the length of the seed
  have habove : ∀ z ∈ (scoreLanguages seed).drop (j + 1), ¬seed.length ≤ z.2 := by
    intro z hz
    rw [scoreLanguages, ← List.map_drop] at hz
    obtain ⟨L', hL', rfl⟩ := List.mem_map.mp hz
    obtain ⟨w, hw, hmiss⟩ := hlater L' hL'
    have hne : seed.countP L'.inWordMap ≠ seed.length := fun h => by
      rw [List.countP_eq_length.mp h w hw] at hmiss
      cases hmiss
    exact not_le.mpr (lt_of_le_of_ne List.countP_le_length hne)
  rw [findSeedLanguage_eq, ← List.take_append_drop j (scoreLanguages seed), hdrop,
    lastNotBelow_append_cons_eq (r := fun a b => a.2 ≤ b.2) (y := (L, seed.length)) habove hbelow]
  exact if_pos (List.length_pos_of_ne_nil hseed)

/-- The languages have distinct names. -/
theorem nodup_languageName : (seedLanguages.map Base.languageName).Nodup := by
  set_option maxRecDepth 20000 in decide

/-- A language's name is not the name of any language after it. -/
theorem languageName_not_mem_drop {i j : ℕ} (hij : i < j) {L : Base}
    (hL : seedLanguages[i]? = some L) :
    L.languageName ∉ (seedLanguages.drop j).map Base.languageName := by
  have hnodup := nodup_languageName
  rw [← List.take_append_drop j (seedLanguages.map Base.languageName)] at hnodup
  have htake : L.languageName ∈ (seedLanguages.map Base.languageName).take j := by
    rw [List.mem_iff_getElem?]
    exact ⟨i, by rw [List.getElem?_take_of_lt hij, List.getElem?_map, hL, Option.map_some]⟩
  rw [List.map_drop]
  exact List.disjoint_of_nodup_append hnodup htake

/-- `match_words` on a seed of one word repeated. -/
theorem matchWords_replicate {lang : Base} {word : List Char} {i : ℕ}
    (hi : lang.trimmedWordIndex (utf8Prefix word lang.uniquePrefixLength) = some i) (n : ℕ) :
    matchWords lang (List.replicate n word) = some (List.replicate n (UInt32.ofNat i)) := by
  induction n with
  | zero => rfl
  | succ n ih =>
    rw [matchWords] at ih ⊢
    rw [List.replicate_succ, List.mapM_cons, ih, hi]
    rfl

end Ombre.ElectrumWords
