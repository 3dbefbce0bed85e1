import Signoff.Proofs.Casing
import Signoff.Submission

namespace Signoff

open Text (IsCasing)

section Reading

variable {Term : Type}

/-- All terms are listed, and each has a plain name of its own. -/
structure IsVocabulary (all : List Term) (name : Term → String) : Prop where
  complete : ∀ term, term ∈ all
  injective : Function.Injective name
  plain : ∀ term, ∀ letter ∈ (name term).toList, Text.isPlain letter

/-- This says what a reader does with one text, if it takes just these words in any case of their letters. -/
structure ReadsWords (read? : String → Option Term) (name : Term → String) (words : List String)
    (text : String) : Prop where
  accepts : (read? text).isSome ↔ ∃ word ∈ words, IsCasing word text
  exact : ∀ term, read? text = some term ↔ IsCasing (name term) text
  lowers : ∀ term, read? text = some term → name term = Text.lowercase text
  /-- White space, marks and letters beyond ASCII are never taken. -/
  letters : ∀ term, read? text = some term → ∀ character ∈ text.toList, character.isAlpha

/-- Whatever the terms are, the name that is found is the word that is looked up. -/
theorem map_name_find? (all : List Term) (name : Term → String) (word : String) :
    (all.find? fun term => name term = word).map name =
      (all.map name).find? fun other => other = word := by
  rw [List.find?_map]
  rfl

namespace IsVocabulary

variable {all : List Term} {name : Term → String} (vocabulary : IsVocabulary all name)

include vocabulary

theorem find?_eq_some_iff (word : String) (term : Term) :
    all.find? (fun term => name term = word) = some term ↔ word = name term := by
  constructor
  · intro found
    have same : name term = word := by simpa using List.find?_some found
    exact same.symm
  · intro same
    subst same
    cases found : all.find? (fun other => name other = name term) with
    | none => simpa using List.find?_eq_none.mp found term (vocabulary.complete term)
    | some other =>
        have same : name other = name term := by simpa using List.find?_some found
        rw [vocabulary.injective same]

/-- A reader takes the names of its vocabulary, if it looks a text up by its lowercase. -/
theorem readsWords {read? : String → Option Term}
    (looksUp : ∀ text, read? text = all.find? fun term => name term = Text.lowercase text)
    (text : String) : ReadsWords read? name (all.map name) text := by
  have lowered (term : Term) : read? text = some term ↔ Text.lowercase text = name term := by
    rw [looksUp, vocabulary.find?_eq_some_iff]
  have exact (term : Term) : read? text = some term ↔ IsCasing (name term) text :=
    (lowered term).trans (Text.lowercase_eq_iff_isCasing (vocabulary.plain term) text)
  have accepts : (read? text).isSome ↔ ∃ word ∈ all.map name, IsCasing word text := by
    rw [Option.isSome_iff_exists]
    constructor
    · rintro ⟨term, read⟩
      exact ⟨name term, List.mem_map_of_mem (vocabulary.complete term), (exact term).mp read⟩
    · rintro ⟨word, member, casing⟩
      obtain ⟨term, _, rfl⟩ := List.mem_map.mp member
      exact ⟨term, (exact term).mpr casing⟩
  have lowers (term : Term) (read : read? text = some term) : name term = Text.lowercase text :=
    ((lowered term).mp read).symm
  have letters (term : Term) (read : read? text = some term) :
      ∀ character ∈ text.toList, character.isAlpha :=
    Text.IsCasing.isAlpha (vocabulary.plain term) ((exact term).mp read)
  exact ⟨accepts, exact, lowers, letters⟩

end IsVocabulary

end Reading

theorem Status.isVocabulary : IsVocabulary Status.all Status.name where
  complete status := by cases status <;> decide
  injective := by
    intro status other same
    cases status <;> cases other <;> simp [name] at same ⊢
  plain status := by cases status <;> simp [name, Text.isPlain, Char.isLower]

theorem Verdict.isVocabulary : IsVocabulary Verdict.all Verdict.name where
  complete verdict := by cases verdict <;> decide
  injective := by
    intro verdict other same
    cases verdict <;> cases other <;> simp [name] at same ⊢
  plain verdict := by cases verdict <;> simp [name, Text.isPlain, Char.isLower]

theorem Mode.isVocabulary : IsVocabulary Mode.all Mode.name where
  complete mode := by cases mode <;> decide
  injective := by
    intro mode other same
    cases mode <;> cases other <;> simp [name] at same ⊢
  plain mode := by cases mode <;> simp [name, Text.isPlain, Char.isLower]

theorem Status.readsWords (text : String) :
    ReadsWords Status.parse? Status.name ["pending", "approved", "rejected"] text :=
  Status.isVocabulary.readsWords (fun _ => rfl) text

theorem Verdict.readsWords (text : String) :
    ReadsWords Verdict.parse? Verdict.name ["pending", "approved", "rejected"] text :=
  Verdict.isVocabulary.readsWords (fun _ => rfl) text

theorem Mode.readsWords (text : String) :
    ReadsWords Mode.parse? Mode.name ["sequential", "parallel"] text :=
  Mode.isVocabulary.readsWords (fun _ => rfl) text

/-- A status and a verdict are read alike, since both vocabularies list the same names. -/
theorem Status.map_name_parse? (text : String) :
    (Status.parse? text).map Status.name = (Verdict.parse? text).map Verdict.name := by
  have statuses := map_name_find? Status.all Status.name (Text.lowercase text)
  have verdicts := map_name_find? Verdict.all Verdict.name (Text.lowercase text)
  exact statuses.trans verdicts.symm

namespace Vote

theorem parse_eq_ok_iff (text : String) (vote : Vote) :
    Vote.parse text = .ok vote ↔ Verdict.parse? text = some vote.verdict := by
  unfold Vote.parse
  cases Verdict.parse? text with
  | none => simp
  | some verdict => cases verdict <;> cases vote <;> simp [ofVerdict, ofVerdict?, Vote.verdict]

/-- A pending verdict is refused under its name, and text that is no verdict is refused as it is. -/
theorem parse_eq_error_iff (text : String) (refusal : Refusal) :
    Vote.parse text = .error refusal ↔
      Verdict.parse? text = some .pending ∧ refusal = .invalidDecision "pending" ∨
        Verdict.parse? text = none ∧ refusal = .invalidDecision text := by
  unfold Vote.parse
  cases Verdict.parse? text with
  | none => simp [eq_comm]
  | some verdict => cases verdict <;> simp [ofVerdict, ofVerdict?, Verdict.name, eq_comm]

end Vote

/-- Statuses, verdicts and modes are read from their names in any case of the letters of ASCII, and from
nothing else, although all characters of Unicode are lowercased. A vote is read where its verdict is. Any
other verdict is refused under its name, and any other text as it was given. -/
theorem names_read_in_any_case (text : String) :
    ReadsWords Status.parse? Status.name ["pending", "approved", "rejected"] text ∧
      ReadsWords Verdict.parse? Verdict.name ["pending", "approved", "rejected"] text ∧
      (Status.parse? text).map Status.name = (Verdict.parse? text).map Verdict.name ∧
      ReadsWords Mode.parse? Mode.name ["sequential", "parallel"] text ∧
      (∀ vote, Vote.parse text = .ok vote ↔ Verdict.parse? text = some vote.verdict) ∧
      ∀ refusal, Vote.parse text = .error refusal ↔
        IsCasing "pending" text ∧ refusal = .invalidDecision "pending" ∨
          (¬ ∃ word ∈ ["pending", "approved", "rejected"], IsCasing word text) ∧
            refusal = .invalidDecision text := by
  have verdicts := Verdict.readsWords text
  have pending : Verdict.parse? text = some .pending ↔ IsCasing "pending" text :=
    verdicts.exact .pending
  have refused : Verdict.parse? text = none ↔
      ¬ ∃ word ∈ ["pending", "approved", "rejected"], IsCasing word text := by
    rw [← verdicts.accepts, Option.not_isSome_iff_eq_none]
  have refusals (refusal : Refusal) : Vote.parse text = .error refusal ↔
      IsCasing "pending" text ∧ refusal = .invalidDecision "pending" ∨
        (¬ ∃ word ∈ ["pending", "approved", "rejected"], IsCasing word text) ∧
          refusal = .invalidDecision text := by
    rw [Vote.parse_eq_error_iff, pending, refused]
  exact ⟨Status.readsWords text, verdicts, Status.map_name_parse? text, Mode.readsWords text,
    Vote.parse_eq_ok_iff text, refusals⟩

end Signoff
