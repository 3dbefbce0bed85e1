import Mathlib
import Signoff.Text.Casing

namespace Signoff.Text

/-- The text spells the word, and any of its letters may be capitals. -/
def IsCasing (word text : String) : Prop :=
  List.Forall₂ (fun letter character => character = letter ∨ character = letter.toUpper)
    word.toList text.toList

/-- A small letter of ASCII is plain, unless it is the lowercase of a sign beyond ASCII. -/
def isPlain (letter : Char) : Bool :=
  letter.isLower && letter != 'k'

theorem isLower_of_isPlain {letter : Char} (plain : isPlain letter) : letter.isLower := by
  simp only [isPlain, Bool.and_eq_true] at plain
  exact plain.1

theorem toNat_lt_of_isAlpha {character : Char} (letter : character.isAlpha) :
    character.toNat < 128 := by
  have bounds : 65 ≤ character.toNat ∧ character.toNat ≤ 90 ∨
      97 ≤ character.toNat ∧ character.toNat ≤ 122 := by
    simpa [Char.isAlpha, Char.isUpper, Char.isLower, UInt32.le_iff_toNat_le] using letter
  omega

theorem isPlain_eq_false_of_beyond {character : Char} (beyond : 128 ≤ character.toNat) :
    isPlain character = false := by
  apply Bool.eq_false_iff.mpr
  intro plain
  have letter : character.isAlpha := by
    rw [Char.isAlpha, isLower_of_isPlain plain, Bool.or_true]
  have small := toNat_lt_of_isAlpha letter
  omega

section Table

/-- This run maps the sign of the unit kelvin to a letter of ASCII. -/
def kelvinRun : CaseRun := ⟨0x212a, 0x212a, 1, -8383⟩

/-- The run gives characters, and all of them are beyond ASCII. -/
def CaseRun.StaysBeyond (run : CaseRun) : Prop :=
  128 ≤ run.image run.first ∧
    (run.image run.last < 0xd800 ∨ 0xdfff < run.image run.first ∧ run.image run.last < 0x110000)

instance (run : CaseRun) : Decidable run.StaysBeyond :=
  inferInstanceAs (Decidable (_ ∧ _))

/-- No other run leads back into ASCII. -/
theorem staysBeyond_of_mem_caseRuns : ∀ run ∈ caseRuns, run = kelvinRun ∨ run.StaysBeyond := by
  decide +kernel

theorem CaseRun.bounds_of_covers {run : CaseRun} {code : Nat} (covered : run.covers code) :
    run.first ≤ code ∧ code ≤ run.last := by
  simp only [covers, Bool.and_eq_true, decide_eq_true_eq] at covered
  exact covered.1

theorem CaseRun.image_mono (run : CaseRun) {code later : Nat} (le : code ≤ later) :
    run.image code ≤ run.image later := by
  simp only [image]
  omega

theorem CaseRun.StaysBeyond.le_toNat {run : CaseRun} (stays : run.StaysBeyond) {code : Nat}
    (covered : run.covers code) : 128 ≤ (Char.ofNat (run.image code)).toNat := by
  have low := run.image_mono (bounds_of_covers covered).1
  have high := run.image_mono (bounds_of_covers covered).2
  obtain ⟨beyond, between⟩ := stays
  have valid : (run.image code).isValidChar := by
    simp only [Nat.isValidChar]
    omega
  rw [Char.toNat_ofNat, if_pos valid]
  exact Nat.le_trans beyond low

/-- The lowercase of a character beyond ASCII is not spelled in plain letters. -/
theorem exists_not_plain_of_beyond {character : Char} (beyond : 128 ≤ character.toNat) :
    ∃ letter ∈ lowerChar character, isPlain letter = false := by
  rw [lowerChar, if_neg (Nat.not_lt.mpr beyond)]
  split
  next =>
    -- The dot of this letter becomes a mark of its own.
    exact ⟨'\u0307', by simp, by decide⟩
  next =>
    split
    next run found =>
      have covered : run.covers character.toNat := by simpa using List.find?_some found
      refine ⟨_, List.mem_singleton_self _, ?_⟩
      rcases staysBeyond_of_mem_caseRuns run (List.mem_of_find?_eq_some found) with rfl | stays
      · have bounds := CaseRun.bounds_of_covers covered
        have sign : character.toNat = 0x212a := Nat.le_antisymm bounds.2 bounds.1
        rw [sign]
        rfl
      · exact isPlain_eq_false_of_beyond (stays.le_toNat covered)
    next => exact ⟨character, List.mem_singleton_self _, isPlain_eq_false_of_beyond beyond⟩

end Table

section Lowering

theorem lowerSigma_beyond (before after : List Char) : 128 ≤ (lowerSigma before after).toNat := by
  unfold lowerSigma
  split <;> decide

/-- Within ASCII the neighbours of a character do not matter. -/
theorem lowerFrom_of_ascii (before : List Char) {characters : List Char}
    (ascii : ∀ character ∈ characters, character.toNat < 128) :
    lowerFrom before characters = characters.map Char.toLower := by
  induction characters generalizing before with
  | nil => rfl
  | cons character after inductionHypothesis =>
      obtain ⟨own, others⟩ := List.forall_mem_cons.mp ascii
      have notSigma : character ≠ 'Σ' := by
        intro sigma
        rw [sigma] at own
        exact absurd own (by decide)
      rw [lowerFrom, if_neg notSigma, lowerChar, if_pos own, inductionHypothesis _ others]
      rfl

/-- Whatever is lowercased to plain letters only is ASCII. -/
theorem ascii_of_plain_lowerFrom (before characters : List Char)
    (plain : ∀ letter ∈ lowerFrom before characters, isPlain letter) :
    ∀ character ∈ characters, character.toNat < 128 := by
  induction characters generalizing before with
  | nil => exact fun _ member => absurd member List.not_mem_nil
  | cons character after inductionHypothesis =>
      obtain ⟨own, others⟩ := List.forall_mem_append.mp plain
      have ascii : character.toNat < 128 := by
        apply Nat.lt_of_not_le
        intro beyond
        split at own
        next =>
          have sigma := isPlain_eq_false_of_beyond (lowerSigma_beyond before after)
          simp [sigma] at own
        next =>
          obtain ⟨letter, member, notPlain⟩ := exists_not_plain_of_beyond beyond
          simp [own letter member] at notPlain
      exact List.forall_mem_cons.mpr ⟨ascii, inductionHypothesis _ others⟩

theorem isAlpha_of_isPlain_toLower {character : Char} (plain : isPlain character.toLower) :
    character.isAlpha := by
  rw [← Char.isLower_toLower_eq_isAlpha]
  exact isLower_of_isPlain plain

/-- The case of a letter is the only difference that is lost. -/
theorem toLower_eq_iff {letter character : Char} (lower : letter.isLower) :
    character.toLower = letter ↔ character = letter ∨ character = letter.toUpper := by
  constructor
  · intro same
    subst same
    by_cases capital : character.isUpper
    · right
      rw [Char.toUpper_toLower_eq_toUpper,
        Char.toUpper_eq_of_not_isLower (Char.not_isLower_of_isUpper capital)]
    · left
      rw [Char.toLower_eq_of_not_isUpper capital]
  · have kept : letter.toLower = letter :=
      Char.toLower_eq_of_not_isUpper (Char.not_isUpper_of_isLower lower)
    rintro (rfl | rfl)
    · exact kept
    · rw [Char.toLower_toUpper_eq_toLower, kept]

variable {word : String} (plain : ∀ letter ∈ word.toList, isPlain letter) (text : String)

include plain

theorem lowercase_eq_iff_map_toLower :
    lowercase text = word ↔ text.toList.map Char.toLower = word.toList := by
  constructor
  · intro lowered
    have letters : lowerFrom [] text.toList = word.toList := by
      rw [← lowered, lowercase, String.toList_ofList]
    rw [← letters] at plain ⊢
    have ascii := ascii_of_plain_lowerFrom [] text.toList plain
    exact (lowerFrom_of_ascii [] ascii).symm
  · intro lowered
    have ascii : ∀ character ∈ text.toList, character.toNat < 128 := by
      intro character member
      have letter := plain character.toLower (lowered ▸ List.mem_map_of_mem member)
      exact toNat_lt_of_isAlpha (isAlpha_of_isPlain_toLower letter)
    rw [lowercase, lowerFrom_of_ascii [] ascii, lowered, String.ofList_toList]

theorem isCasing_iff_map_toLower :
    IsCasing word text ↔ text.toList.map Char.toLower = word.toList := by
  unfold IsCasing
  generalize text.toList = characters
  generalize word.toList = letters at plain
  induction letters generalizing characters with
  | nil => cases characters <;> simp
  | cons letter letters inductionHypothesis =>
      obtain ⟨own, others⟩ := List.forall_mem_cons.mp plain
      cases characters with
      | nil => simp
      | cons character rest =>
          rw [List.forall₂_cons, List.map_cons, List.cons_eq_cons, inductionHypothesis rest others,
            toLower_eq_iff (isLower_of_isPlain own)]

/-- A text has a plain word as its lowercase exactly if it spells the word. -/
theorem lowercase_eq_iff_isCasing : lowercase text = word ↔ IsCasing word text :=
  (lowercase_eq_iff_map_toLower plain text).trans (isCasing_iff_map_toLower plain text).symm

/-- A word that is not plain is also the lowercase of a text with the sign of the unit kelvin. -/
example : lowercase "TO\u212aEN" = "token" := by
  decide

/-- So the text has neither white space nor marks nor any characters beyond ASCII. -/
theorem IsCasing.isAlpha {text : String} (casing : IsCasing word text) :
    ∀ character ∈ text.toList, character.isAlpha := by
  have lowered := (isCasing_iff_map_toLower plain text).mp casing
  intro character member
  have letter := plain character.toLower (lowered ▸ List.mem_map_of_mem member)
  exact isAlpha_of_isPlain_toLower letter

end Lowering

end Signoff.Text
