import Worksheet.Proofs.Address.Spelling
import Worksheet.Proofs.Formula.Naming

/-!
# Words that are searched

The references of a text are searched from left to right: letters and then digits, with the
end of a word on both sides.  Such a match is a whole word, because a letter or a digit next to
a match would leave no end of a word there.  So the search finds the words of the text that are
letters and digits, and nothing else.

A text may be cut wherever no word runs across the cut, and its words are those of the parts.
The main statement reads the references of a text off its words.  In particular a word that
names no cell makes no difference to the words on its sides.
-/

namespace Worksheet

/-! ## Words -/

namespace Text

/-- The words of a text in order, which are the parts between characters that cannot stand
inside a word. -/
def words (text : List Char) : List (List Char) :=
  (text.splitOnP fun c => !isWordChar c).filter fun part => !part.isEmpty

/-- A part of a text, given with what is before it and after it, is a run of word characters
that cannot be made longer. -/
structure WholeWord (before word after : List Char) : Prop where
  nonempty : word ≠ []
  inside : ∀ c ∈ word, isWordChar c = true
  starts : ∀ c ∈ before.getLast?, isWordChar c = false
  ends : ∀ c ∈ after.head?, isWordChar c = false

/-- No word runs from the first text into the second one. -/
def Parted (first second : List Char) : Prop :=
  (∀ c ∈ first.getLast?, isWordChar c = false) ∨ ∀ c ∈ second.head?, isWordChar c = false

variable {before word after first second : List Char} {c : Char}

/-- Each text is empty, or starts with a character between words, or with a word. -/
theorem words_induction {motive : List Char → Prop} (nil : motive [])
    (between : ∀ c rest, isWordChar c = false → motive rest → motive (c :: rest))
    (whole : ∀ word after, WholeWord [] word after → motive after → motive (word ++ after))
    (text : List Char) : motive text := by
  match text with
  | [] => exact nil
  | c :: rest =>
      cases first : isWordChar c with
      | false => exact between c rest first (words_induction nil between whole rest)
      | true =>
          have parts := List.takeWhile_append_dropWhile (p := isWordChar) (l := rest)
          have shorter : (rest.dropWhile isWordChar).length < rest.length + 1 :=
            Nat.lt_succ_of_le (List.dropWhile_sublist isWordChar).length_le
          have found : WholeWord [] (c :: rest.takeWhile isWordChar) (rest.dropWhile isWordChar) := by
            constructor
            · exact List.cons_ne_nil c _
            · intro d member
              rcases List.mem_cons.1 member with rfl | later
              · exact first
              · exact List.mem_takeWhile_imp later
            · exact nofun
            · intro d member
              have stopped := List.head?_dropWhile_not isWordChar rest
              rw [member] at stopped
              exact stopped
          have ended := whole _ _ found
            (words_induction nil between whole (rest.dropWhile isWordChar))
          rw [List.cons_append, parts] at ended
          exact ended
termination_by text.length

theorem words_nil : words [] = [] := by
  rw [words, List.splitOnP_nil]
  rfl

theorem words_append_cons (text : List Char) (between : isWordChar c = false)
    (rest : List Char) : words (text ++ c :: rest) = words text ++ words rest := by
  rw [words, List.splitOnP_append_cons text rest (by rw [between]; rfl), List.filter_append]
  rfl

theorem words_cons (between : isWordChar c = false) (rest : List Char) :
    words (c :: rest) = words rest := by
  have split := words_append_cons [] between rest
  rw [words_nil] at split
  exact split

theorem words_eq_singleton (nonempty : word ≠ []) (inside : ∀ c ∈ word, isWordChar c = true) :
    words word = [word] := by
  have single : word.splitOnP (fun c => !isWordChar c) = [word] := by
    apply List.splitOnP_eq_singleton
    intro c member
    rw [inside c member]
    rfl
  rw [words, single]
  simp [nonempty]

/-- The word at the start of a text is its first word. -/
theorem words_append_of_wholeWord (whole : WholeWord before word after) :
    words (word ++ after) = word :: words after := by
  cases after with
  | nil => rw [List.append_nil, words_eq_singleton whole.nonempty whole.inside, words_nil]
  | cons c after =>
      have between := whole.ends c rfl
      rw [words_append_cons word between, words_eq_singleton whole.nonempty whole.inside,
        words_cons between]
      rfl

theorem exists_inWord_head? (nonempty : word ≠ []) (inside : ∀ c ∈ word, isWordChar c = true)
    (after : List Char) : ∃ c ∈ (word ++ after).head?, isWordChar c = true := by
  refine ⟨word.head nonempty, ?_, inside _ (List.head_mem nonempty)⟩
  rw [List.head?_append, List.head?_eq_some_head nonempty]
  rfl

theorem exists_inWord_getLast? (nonempty : word ≠ []) (inside : ∀ c ∈ word, isWordChar c = true)
    (before : List Char) : ∃ c ∈ (before ++ word).getLast?, isWordChar c = true := by
  refine ⟨word.getLast nonempty, ?_, inside _ (List.getLast_mem nonempty)⟩
  rw [List.getLast?_append, List.getLast?_eq_some_getLast nonempty]
  rfl

theorem parted_concat (front : List Char) (between : isWordChar c = false) (rest : List Char) :
    Parted (front ++ [c]) rest := by
  left
  intro d last
  rw [List.getLast?_concat] at last
  cases last
  exact between

/-- A whole word of a text is one of a longer text if no word runs into the shorter one. -/
theorem WholeWord.behind {front : List Char} (whole : WholeWord before word after)
    (parted : Parted front (before ++ word ++ after)) : WholeWord (front ++ before) word after := by
  refine ⟨whole.nonempty, whole.inside, ?_, whole.ends⟩
  intro c last
  rw [List.getLast?_append] at last
  cases latest : before.getLast? with
  | some d =>
      rw [latest] at last
      cases last
      exact whole.starts c latest
  | none =>
      rw [latest] at last
      rcases parted with apart | apart
      · exact apart c last
      · rw [List.getLast?_eq_none_iff.1 latest, List.nil_append] at apart
        rcases exists_inWord_head? whole.nonempty whole.inside after with ⟨d, first, inWord⟩
        rw [apart d first] at inWord
        cases inWord

/-- The words of a text are those of its parts if no word runs across the cut. -/
theorem words_append (parted : Parted first second) :
    words (first ++ second) = words first ++ words second := by
  rcases parted with behind | ahead
  · cases first using List.reverseRecOn with
    | nil =>
        rw [words_nil]
        rfl
    | append_singleton front c =>
        have between : isWordChar c = false := behind c List.getLast?_concat
        rw [List.append_assoc, List.singleton_append, words_append_cons front between,
          words_append_cons front between, words_nil, List.append_nil]
  · cases second with
    | nil => rw [words_nil, List.append_nil, List.append_nil]
    | cons c rest => rw [words_append_cons first (ahead c rfl), words_cons (ahead c rfl)]

/-- A whole word stands between the words before it and those after it. -/
theorem WholeWord.words_eq (whole : WholeWord before word after) :
    words (before ++ word ++ after) = words before ++ word :: words after := by
  rw [List.append_assoc, words_append (Or.inl whole.starts), words_append_of_wholeWord whole]

/-- A whole word is all word characters at its place. -/
theorem WholeWord.takeWhile_eq (whole : WholeWord before word after) :
    (word ++ after).takeWhile isWordChar = word := by
  rw [List.takeWhile_append_of_pos whole.inside]
  cases after with
  | nil => rw [List.takeWhile_nil, List.append_nil]
  | cons c after =>
      have between : ¬ isWordChar c = true := by
        rw [whole.ends c rfl]
        exact Bool.false_ne_true
      rw [List.takeWhile_cons_of_neg between, List.append_nil]

/-- A whole word that does not start before another one is that one, or it comes after it. -/
theorem WholeWord.eq_or_after {gap other rest : List Char} (whole : WholeWord before word after)
    (second : WholeWord (before ++ gap) other rest) (same : word ++ after = gap ++ other ++ rest) :
    (gap = [] ∧ other = word) ∨ ∃ more, gap = word ++ more ∧ after = more ++ other ++ rest := by
  rw [List.append_assoc] at same
  rcases List.append_eq_append_iff.1 same with ⟨more, longer, split⟩ | ⟨more, longer, split⟩
  · right
    exact ⟨more, longer, by rw [split, List.append_assoc]⟩
  · left
    cases last : gap.getLast? with
    | none =>
        have empty := List.getLast?_eq_none_iff.1 last
        rw [empty, List.nil_append] at same
        exact ⟨empty, by rw [← second.takeWhile_eq, ← same, whole.takeWhile_eq]⟩
    | some c =>
        -- The character before the second word would be in the first one.
        have inside := whole.inside c (by
          rw [longer]
          exact List.mem_append_left more (List.mem_of_getLast? last))
        have outside := second.starts c (by rw [List.getLast?_append, last]; rfl)
        rw [inside] at outside
        cases outside

/-- The words of a text are its whole words. -/
theorem mem_words_iff {text : List Char} : word ∈ words text ↔
    ∃ before after, text = before ++ word ++ after ∧ WholeWord before word after := by
  constructor
  · intro member
    induction text using words_induction with
    | nil =>
        rw [words_nil] at member
        exact absurd member List.not_mem_nil
    | between c rest between ih =>
        rw [words_cons between] at member
        rcases ih member with ⟨before, after, rfl, whole⟩
        exact ⟨c :: before, after, rfl, whole.behind (parted_concat [] between _)⟩
    | whole first rest whole ih =>
        rw [words_append_of_wholeWord whole, List.mem_cons] at member
        rcases member with rfl | later
        · exact ⟨[], rest, rfl, whole⟩
        · rcases ih later with ⟨before, after, rfl, other⟩
          refine ⟨first ++ before, after, ?_, other.behind (Or.inr whole.ends)⟩
          rw [List.append_assoc, List.append_assoc, List.append_assoc]
  · rintro ⟨before, after, rfl, whole⟩
    rw [whole.words_eq]
    exact List.mem_append_right _ List.mem_cons_self

end Text

namespace References

open Text

/-! ## The pattern -/

/-- One side of a cut is inside a word and the other one is not. -/
def Boundary (before after : List Char) : Prop :=
  (∃ c ∈ before.getLast?, isWordChar c = true) ↔ ¬ ∃ c ∈ after.head?, isWordChar c = true

/-- A part of a text is letters and then digits. -/
def NameLike (part : List Char) : Prop :=
  ∃ letters digits, Address.Spelled part letters digits

/-- A part of a text matches: it is like a name, and each of its ends is the end of a word. -/
structure Match (before part after : List Char) : Prop where
  name : NameLike part
  starts : Boundary before (part ++ after)
  ends : Boundary (before ++ part) after

/-- The matches that are found behind a text from left to right, where each search goes on
behind the match before.  Only one match starts at a place, so there is nothing to choose. -/
inductive Finds : List Char → List Char → List (List Char) → Prop
  | none {before text : List Char}
      (nothing : ∀ gap part after, text = gap ++ part ++ after → ¬ Match (before ++ gap) part after) :
      Finds before text []
  | next {before gap part after : List Char} {found : List (List Char)}
      (here : Match (before ++ gap) part after)
      (first : ∀ gap' part' after', gap ++ part ++ after = gap' ++ part' ++ after' →
        Match (before ++ gap') part' after' →
          gap.length < gap'.length ∨ gap' = gap ∧ part' = part)
      (behind : Finds (before ++ gap ++ part) after found) :
      Finds before (gap ++ part ++ after) (part :: found)

section

variable {before part after word : List Char}

theorem not_exists_inWord_iff {c? : Option Char} :
    (¬ ∃ c ∈ c?, isWordChar c = true) ↔ ∀ c ∈ c?, isWordChar c = false := by
  simp only [not_exists, not_and, Bool.not_eq_true]

theorem NameLike.inside (named : NameLike part) : ∀ c ∈ part, isWordChar c = true := by
  rcases named with ⟨letters, digits, spelled⟩
  intro c member
  rw [spelled.split, List.mem_append] at member
  apply isWordChar_of_isAlphanum
  rw [Char.isAlphanum, Bool.or_eq_true]
  exact member.imp (spelled.alpha c) (spelled.decimal c)

theorem NameLike.nonempty (named : NameLike part) : part ≠ [] := by
  rcases named with ⟨letters, digits, spelled⟩
  rw [spelled.split]
  exact List.append_ne_nil_of_left_ne_nil spelled.someLetters digits

/-- In front of a word character a cut is the end of a word if there is none behind it. -/
theorem boundary_before_iff (nonempty : part ≠ []) (inside : ∀ c ∈ part, isWordChar c = true)
    (after : List Char) :
    Boundary before (part ++ after) ↔ ∀ c ∈ before.getLast?, isWordChar c = false := by
  have ahead := exists_inWord_head? nonempty inside after
  rw [Boundary, ← not_exists_inWord_iff]
  constructor
  · intro boundary behind
    exact boundary.1 behind ahead
  · intro free
    exact ⟨fun behind => absurd behind free, fun none => absurd ahead none⟩

theorem boundary_after_iff (nonempty : part ≠ []) (inside : ∀ c ∈ part, isWordChar c = true)
    (before : List Char) :
    Boundary (before ++ part) after ↔ ∀ c ∈ after.head?, isWordChar c = false := by
  have behind := exists_inWord_getLast? nonempty inside before
  rw [Boundary, ← not_exists_inWord_iff]
  constructor
  · intro boundary
    exact boundary.1 behind
  · intro free
    exact ⟨fun _ => free, fun _ => behind⟩

/-- A match is a whole word that is like a name. -/
theorem match_iff : Match before part after ↔ NameLike part ∧ WholeWord before part after := by
  constructor
  · rintro ⟨named, starts, ends⟩
    exact ⟨named, named.nonempty, named.inside,
      (boundary_before_iff named.nonempty named.inside after).1 starts,
      (boundary_after_iff named.nonempty named.inside before).1 ends⟩
  · rintro ⟨named, whole⟩
    exact ⟨named, (boundary_before_iff whole.nonempty whole.inside after).2 whole.starts,
      (boundary_after_iff whole.nonempty whole.inside before).2 whole.ends⟩

/-! ## The search -/

theorem candidates_between {c : Char} (between : isWordChar c = false) (inWord : Bool)
    (rest : List Char) : candidates inWord (c :: rest) = candidates false rest := by
  have noLetter := (not_alphanum_of_isWordChar between).1
  rw [candidates_of_none (wordAtStart?_of_noLetter noLetter rest), between]

/-- At the end of a word it makes no difference what is behind. -/
theorem candidates_of_ends (ends : ∀ c ∈ after.head?, isWordChar c = false) (inWord : Bool) :
    candidates inWord after = candidates false after := by
  cases after with
  | nil => rw [candidates_nil, candidates_nil]
  | cons c rest =>
      rw [candidates_between (ends c rfl), candidates_between (ends c rfl)]

/-- A whole word that is like a name is found. -/
theorem candidates_of_nameLike (whole : WholeWord before word after) (named : NameLike word) :
    candidates false (word ++ after) = word :: candidates false after := by
  rcases named with ⟨letters, digits, spelled⟩
  have found : wordAtStart? (word ++ after) = some (word, after) := by
    have decimal : digits.takeWhile Char.isDigit = digits :=
      List.takeWhile_eq_self_iff.2 spelled.decimal
    have nothing : digits.dropWhile Char.isDigit = [] :=
      List.dropWhile_eq_nil_iff.2 spelled.decimal
    rw [wordAtStart?_append whole.inside whole.ends, spelled.parts.1, spelled.parts.2, decimal,
      nothing, if_neg]
    rintro (noLetters | noDigits | more)
    · exact spelled.someLetters noLetters
    · exact spelled.someDigits noDigits
    · exact more rfl
  cases word with
  | nil => exact absurd rfl whole.nonempty
  | cons c word =>
      calc candidates false (c :: word ++ after)
          = (c :: word) :: candidates true after := candidates_of_some found
        _ = (c :: word) :: candidates false after := by rw [candidates_of_ends whole.ends]

/-- Any other whole word is passed over. -/
theorem candidates_of_not_nameLike (whole : WholeWord before word after)
    (other : ¬ NameLike word) :
    candidates false (word ++ after) = candidates false after := by
  have nothing : wordAtStart? (word ++ after) = none := by
    rw [wordAtStart?_append whole.inside whole.ends, if_pos]
    by_contra shaped
    rw [not_or, not_or, not_not] at shaped
    apply other
    refine ⟨_, _, List.takeWhile_append_dropWhile.symm, shaped.1, ?_, ?_, ?_⟩
    · intro noDigits
      rw [noDigits] at shaped
      exact shaped.2.1 rfl
    · intro c member
      exact List.mem_takeWhile_imp member
    · exact List.dropWhile_eq_nil_iff.1 shaped.2.2
  cases word with
  | nil => exact absurd rfl whole.nonempty
  | cons c word =>
      have inside : ∀ d ∈ word, isWordChar d = true := fun d member =>
        whole.inside d (List.mem_cons_of_mem c member)
      calc candidates false (c :: word ++ after)
          = candidates (isWordChar c) (word ++ after) := candidates_of_none nothing false
        _ = candidates true after := by
            rw [whole.inside c List.mem_cons_self, candidates_true_append inside]
        _ = candidates false after := candidates_of_ends whole.ends true

/-- A part in which no match starts is passed over. -/
theorem Finds.skip (front : List Char) {text : List Char} {found : List (List Char)}
    (finds : Finds (before ++ front) text found)
    (free : ∀ gap part after, front ++ text = gap ++ part ++ after →
      Match (before ++ gap) part after →
        ∃ more, gap = front ++ more ∧ text = more ++ part ++ after) :
    Finds before (front ++ text) found := by
  cases finds with
  | none nothing =>
      apply Finds.none
      intro gap part after split here
      rcases free gap part after split here with ⟨more, rfl, later⟩
      rw [← List.append_assoc] at here
      exact nothing more part after later here
  | @next _ gap part after found here first behind =>
      rw [List.append_assoc] at here
      rw [List.append_assoc before] at behind
      rw [← List.append_assoc, ← List.append_assoc]
      refine Finds.next here ?_ behind
      intro gap' part' after' split there
      rw [List.append_assoc, List.append_assoc, ← List.append_assoc gap] at split
      rcases free gap' part' after' split there with ⟨more, rfl, later⟩
      rw [← List.append_assoc] at there
      rcases first more part' after' later there with further | ⟨rfl, rfl⟩
      · left
        rw [List.length_append, List.length_append]
        exact Nat.add_lt_add_left further _
      · exact Or.inr ⟨rfl, rfl⟩

/-- The search finds the matches of the pattern. -/
theorem finds_candidates {text : List Char} (parted : Parted before text) :
    Finds before text (candidates false text) := by
  induction text using words_induction generalizing before with
  | nil =>
      rw [candidates_nil]
      apply Finds.none
      intro gap part after split here
      have empty := (List.append_eq_nil_iff.1 (List.append_eq_nil_iff.1 split.symm).1).2
      exact (match_iff.1 here).2.nonempty empty
  | between c rest between ih =>
      rw [candidates_between between]
      apply Finds.skip [c]
      · exact ih (parted_concat before between rest)
      · intro gap part after split here
        cases gap with
        | nil =>
            -- A match does not start with this character.
            have whole := (match_iff.1 here).2
            cases part with
            | nil => exact absurd rfl whole.nonempty
            | cons d part =>
                cases split
                rw [whole.inside c List.mem_cons_self] at between
                cases between
        | cons d gap =>
            cases split
            exact ⟨gap, rfl, rfl⟩
  | whole word after whole ih =>
      have placed := whole.behind parted
      by_cases named : NameLike word
      · have here : Match (before ++ []) word after := match_iff.2 ⟨named, placed⟩
        rw [candidates_of_nameLike whole named]
        refine Finds.next here ?_ (ih (Or.inr whole.ends))
        intro gap part rest split there
        rw [List.append_nil] at placed
        rcases placed.eq_or_after (match_iff.1 there).2 split with same | ⟨more, rfl, -⟩
        · exact Or.inr same
        · left
          rw [List.length_append]
          exact Nat.add_pos_left (List.length_pos_iff.2 whole.nonempty) _
      · rw [candidates_of_not_nameLike whole named]
        apply Finds.skip word (ih (Or.inr whole.ends))
        intro gap part rest split there
        rw [List.append_nil] at placed
        rcases placed.eq_or_after (match_iff.1 there).2 split with ⟨-, rfl⟩ | later
        · exact absurd there.name named
        · exact later

/-! ## Cells of words -/

/-- What is found and what is passed over make the same cells as the words. -/
theorem filterMap_candidates (text : List Char) :
    (candidates false text).filterMap Address.ofName? =
      (words text).filterMap Address.ofName? := by
  induction text using words_induction with
  | nil => rw [candidates_nil, words_nil]
  | between c rest between ih => rw [candidates_between between, words_cons between, ih]
  | whole word after whole ih =>
      rw [words_append_of_wholeWord whole, List.filterMap_cons, ← ih]
      by_cases named : NameLike word
      · rw [candidates_of_nameLike whole named, List.filterMap_cons]
      · rw [candidates_of_not_nameLike whole named]
        cases cell : Address.ofName? word with
        | none => rfl
        | some address =>
            rcases Address.ofName?_eq_some_iff.1 cell with ⟨letters, digits, spelled, -⟩
            exact absurd ⟨letters, digits, spelled⟩ named

theorem inText_eq (text : List Char) :
    inText text = ((words text).filterMap Address.ofName?).eraseDups := by
  rw [inText, filterMap_candidates]

theorem mem_inText_iff {text : List Char} {cell : Address} :
    cell ∈ inText text ↔ ∃ before word after, text = before ++ word ++ after ∧
      WholeWord before word after ∧ Address.ofName? word = some cell := by
  rw [inText_eq, List.mem_eraseDups, List.mem_filterMap]
  constructor
  · rintro ⟨word, member, names⟩
    rcases mem_words_iff.1 member with ⟨before, after, split, whole⟩
    exact ⟨before, word, after, split, whole, names⟩
  · rintro ⟨before, word, after, split, whole, names⟩
    exact ⟨word, mem_words_iff.2 ⟨before, after, split, whole⟩, names⟩

/-- The references on one side of a whole word do not depend on the word or on the other
side. -/
theorem inText_append_of_wholeWord (whole : WholeWord before word after) :
    inText (before ++ word ++ after) =
      (inText before ++ ((Address.ofName? word).toList ++ inText after)).eraseDups := by
  have joined : (words (before ++ word ++ after)).filterMap Address.ofName? =
      (words before).filterMap Address.ofName? ++ ((Address.ofName? word).toList ++
        (words after).filterMap Address.ofName?) := by
    rw [whole.words_eq, List.filterMap_append, List.filterMap_cons]
    cases Address.ofName? word <;> rfl
  rw [inText_eq, joined, ← Distinct.eraseDups_eraseDups_append, ← inText_eq,
    ← List.append_assoc, ← Distinct.eraseDups_append_eraseDups, ← inText_eq, List.append_assoc]

/-- The references of a text are the cells that its words name, each at the place of its first
appearance.  The search for them finds the matches of the pattern, and a match is a whole
word.  What a word names does not depend on what is before it or after it. -/
theorem inText_names_of_words (text : List Char) :
    Finds [] text (candidates false text) ∧
      inText text = ((words text).filterMap Address.ofName?).eraseDups ∧ (inText text).Nodup ∧
      (∀ cell, cell ∈ inText text ↔ ∃ before word after, text = before ++ word ++ after ∧
        WholeWord before word after ∧ Address.ofName? word = some cell) ∧
      ∀ before word after, text = before ++ word ++ after → WholeWord before word after →
        inText text =
          (inText before ++ ((Address.ofName? word).toList ++ inText after)).eraseDups := by
  refine ⟨finds_candidates (Or.inl nofun), inText_eq text, Distinct.nodup_eraseDups _,
    fun cell => mem_inText_iff, ?_⟩
  rintro before word after rfl whole
  exact inText_append_of_wholeWord whole

/-- There is no row zero, so the third word is passed over.  The first and the fourth one are
longer than the names in them, and the last one repeats the second. -/
theorem inText_names_of_skipped_word :
    WholeWord "A1x+b2,".toList "A0".toList " éA1*B02".toList ∧
      inText "A1x+b2,A0 éA1*B02".toList =
        (inText "A1x+b2,".toList ++ inText " éA1*B02".toList).eraseDups ∧
      inText "A1x+b2,A0 éA1*B02".toList = [⟨1, 1⟩] := by
  have whole : WholeWord "A1x+b2,".toList "A0".toList " éA1*B02".toList := by
    constructor
    · exact List.cons_ne_nil 'A' ['0']
    · exact List.all_eq_true.1 (by decide +kernel)
    · rintro c ⟨⟩
      rfl
    · rintro c ⟨⟩
      rfl
  have nameless : Address.ofName? "A0".toList = none := by
    decide +kernel
  have split := (inText_names_of_words "A1x+b2,A0 éA1*B02".toList).2.2.2.2 _ _ _ rfl whole
  rw [nameless] at split
  exact ⟨whole, split, by decide +kernel⟩

end

end References

end Worksheet
