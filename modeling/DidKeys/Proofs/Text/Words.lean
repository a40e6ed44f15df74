import DidKeys.Text.Split
import DidKeys.Text.WhiteSpace

/-! # Words between white space

A word is not empty and holds no white space (`IsWord`).  A text is cut into words only
(`isWord_of_mem_wordsOf`).  Texts with a space between each two have the words of each of them, in
order (`wordsOf_join_eq_flatMap`), and a word has itself alone (`words_of_isWord`).

`HasWords` says which words a text has without cutting it, and each text has one row of them
(`hasWords_iff`). -/

namespace DidKeys.Text

/-- The characters are one word. -/
structure IsWord (cs : List Char) : Prop where
  ne_nil : cs ≠ []
  not_white : ∀ c ∈ cs, isWhiteSpace c = false

/-! ### One character -/

section character
variable {c : Char} {begins : Bool} {word : List Char} {words : List (List Char)}

theorem addToWords_white (h : isWhiteSpace c = true) :
    addToWords c (begins, words) = (false, words) := by
  cases begins with
  | false => exact if_pos h
  | true =>
      cases words with
      | nil => exact if_pos h
      | cons word words => exact if_pos h

theorem addToWords_new (h : isWhiteSpace c = false) :
    addToWords c (false, words) = (true, [c] :: words) :=
  if_neg (Bool.eq_false_iff.mp h)

theorem addToWords_first (h : isWhiteSpace c = false) :
    addToWords c (true, []) = (true, [[c]]) :=
  if_neg (Bool.eq_false_iff.mp h)

theorem addToWords_same (h : isWhiteSpace c = false) :
    addToWords c (true, word :: words) = (true, (c :: word) :: words) :=
  if_neg (Bool.eq_false_iff.mp h)

theorem addToWords_ne_nil (h : isWhiteSpace c = false) :
    (addToWords c (begins, words)).2 ≠ [] := by
  cases begins with
  | false =>
      rw [addToWords_new h]
      exact List.cons_ne_nil _ _
  | true =>
      cases words with
      | nil =>
          rw [addToWords_first h]
          exact List.cons_ne_nil _ _
      | cons word words =>
          rw [addToWords_same h]
          exact List.cons_ne_nil _ _

/-- A character does not reach the words behind a text. -/
theorem addToWords_append (h : begins = true → words ≠ []) (more : List (List Char)) :
    addToWords c (begins, words ++ more) =
      ((addToWords c (begins, words)).1, (addToWords c (begins, words)).2 ++ more) := by
  cases hc : isWhiteSpace c with
  | true => rw [addToWords_white hc, addToWords_white hc]
  | false =>
      cases begins with
      | false =>
          rw [addToWords_new hc, addToWords_new hc]
          rfl
      | true =>
          obtain ⟨word, words, rfl⟩ := List.exists_cons_of_ne_nil (h rfl)
          rw [List.cons_append, addToWords_same hc, addToWords_same hc]
          rfl

/-- A character makes words out of words. -/
theorem isWord_of_mem_addToWords (hwords : ∀ word ∈ words, IsWord word) :
    ∀ word ∈ (addToWords c (begins, words)).2, IsWord word := by
  cases hc : isWhiteSpace c with
  | true =>
      rw [addToWords_white hc]
      exact hwords
  | false =>
      have hnew : IsWord [c] := ⟨List.cons_ne_nil _ _, List.forall_mem_singleton.mpr hc⟩
      have hadded : ∀ word ∈ [c] :: words, IsWord word := List.forall_mem_cons.mpr ⟨hnew, hwords⟩
      cases begins with
      | false =>
          rw [addToWords_new hc]
          exact hadded
      | true =>
          cases words with
          | nil =>
              rw [addToWords_first hc]
              exact hadded
          | cons first rest =>
              obtain ⟨hfirst, hrest⟩ := List.forall_mem_cons.mp hwords
              rw [addToWords_same hc]
              refine List.forall_mem_cons.mpr ⟨⟨List.cons_ne_nil _ _, ?_⟩, hrest⟩
              exact List.forall_mem_cons.mpr ⟨hc, hfirst.not_white⟩

end character

/-! ### Whole texts -/

/-- A text is cut into words and nothing else. -/
theorem isWord_of_mem_wordsOf (cs : List Char) : ∀ word ∈ wordsOf cs, IsWord word := by
  unfold wordsOf
  induction cs with
  | nil =>
      intro word hword
      cases hword
  | cons c cs ih =>
      rw [List.foldr_cons]
      exact isWord_of_mem_addToWords ih

/-- In front of a text that begins with white space, a word stands alone. -/
theorem foldr_addToWords_word {word : List Char} (h : IsWord word) (words : List (List Char)) :
    word.foldr addToWords (false, words) = (true, word :: words) := by
  induction word with
  | nil => exact absurd rfl h.ne_nil
  | cons c cs ih =>
      obtain ⟨hc, hcs⟩ := List.forall_mem_cons.mp h.not_white
      rw [List.foldr_cons]
      cases cs with
      | nil => exact addToWords_new hc
      | cons d ds =>
          have hrest : IsWord (d :: ds) := ⟨List.cons_ne_nil d ds, hcs⟩
          rw [ih hrest]
          exact addToWords_same hc

theorem wordsOf_of_isWord {word : List Char} (h : IsWord word) : wordsOf word = [word] := by
  rw [wordsOf, foldr_addToWords_word h]

/-! ### Texts with white space between them -/

/-- A text that begins with a word has one. -/
theorem ne_nil_of_begins {cs : List Char} (h : (cs.foldr addToWords (false, [])).1 = true) :
    (cs.foldr addToWords (false, [])).2 ≠ [] := by
  cases cs with
  | nil => cases h
  | cons c cs =>
      rw [List.foldr_cons] at h ⊢
      cases hc : isWhiteSpace c with
      | true =>
          rw [addToWords_white hc] at h
          cases h
      | false => exact addToWords_ne_nil hc

theorem foldr_addToWords_append (cs : List Char) (more : List (List Char)) :
    cs.foldr addToWords (false, more) =
      ((cs.foldr addToWords (false, [])).1, wordsOf cs ++ more) := by
  unfold wordsOf
  induction cs with
  | nil => rfl
  | cons c cs ih => rw [List.foldr_cons, ih, addToWords_append ne_nil_of_begins, List.foldr_cons]

/-- White space parts the words on both sides of it. -/
theorem wordsOf_append_white {c : Char} (h : isWhiteSpace c = true) (first second : List Char) :
    wordsOf (first ++ c :: second) = wordsOf first ++ wordsOf second := by
  rw [wordsOf, List.foldr_append, List.foldr_cons]
  show (first.foldr addToWords (addToWords c (_, wordsOf second))).2 = _
  rw [addToWords_white h, foldr_addToWords_append]

/-- Texts with a space between each two have the words that they have one by one. -/
theorem wordsOf_join_eq_flatMap (texts : List (List Char)) :
    wordsOf (join ' ' texts) = texts.flatMap wordsOf := by
  induction texts with
  | nil => rfl
  | cons text texts ih =>
      cases texts with
      | nil => rw [List.flatMap_singleton]; rfl
      | cons next rest =>
          rw [join_cons_cons, wordsOf_append_white rfl, ih]
          rfl

/-! ### The words that a text has -/

/-- A text is made of these words, in order, with white space between each two, and maybe in front
and behind. -/
inductive IsMadeOf : List Char → List (List Char) → Prop where
  | nil : IsMadeOf [] []
  | white {c : Char} {cs : List Char} {words : List (List Char)} (white : isWhiteSpace c = true)
      (rest : IsMadeOf cs words) : IsMadeOf (c :: cs) words
  | last {word : List Char} (isWord : IsWord word) : IsMadeOf word [word]
  | word {c : Char} {word cs : List Char} {words : List (List Char)} (isWord : IsWord word)
      (white : isWhiteSpace c = true) (rest : IsMadeOf cs words) :
      IsMadeOf (word ++ c :: cs) (word :: words)

theorem IsMadeOf.wordsOf {cs : List Char} {words : List (List Char)} (h : IsMadeOf cs words) :
    wordsOf cs = words := by
  induction h with
  | nil => rfl
  | @white c cs words white _ ih =>
      have hcut := wordsOf_append_white white [] cs
      rw [List.nil_append, ih] at hcut
      exact hcut
  | last isWord => exact wordsOf_of_isWord isWord
  | word isWord white _ ih =>
      rw [wordsOf_append_white white, wordsOf_of_isWord isWord, ih, List.singleton_append]

theorem IsWord.cons {c : Char} {word : List Char} (hc : isWhiteSpace c = false) (h : IsWord word) :
    IsWord (c :: word) :=
  ⟨List.cons_ne_nil _ _, List.forall_mem_cons.mpr ⟨hc, h.not_white⟩⟩

theorem exists_isMadeOf (cs : List Char) : ∃ words, IsMadeOf cs words := by
  induction cs with
  | nil => exact ⟨[], .nil⟩
  | cons c cs ih =>
      obtain ⟨words, h⟩ := ih
      cases hc : isWhiteSpace c with
      | true => exact ⟨words, .white hc h⟩
      | false =>
          have hnew : IsWord [c] := ⟨List.cons_ne_nil _ _, List.forall_mem_singleton.mpr hc⟩
          -- the character begins the first word, or goes in front of it
          cases h with
          | nil => exact ⟨_, .last hnew⟩
          | white white rest => exact ⟨_, .word hnew white rest⟩
          | last isWord => exact ⟨_, .last (isWord.cons hc)⟩
          | word isWord white rest => exact ⟨_, .word (isWord.cons hc) white rest⟩

theorem isMadeOf_iff {cs : List Char} {words : List (List Char)} :
    IsMadeOf cs words ↔ wordsOf cs = words := by
  constructor
  · exact IsMadeOf.wordsOf
  · rintro rfl
    obtain ⟨words, h⟩ := exists_isMadeOf cs
    rwa [h.wordsOf]

/-! ### Texts as strings -/

/-- A text has these words, in order, and nothing else but white space. -/
def HasWords (text : String) (row : List String) : Prop :=
  IsMadeOf text.toList (row.map String.toList)

theorem hasWords_iff {text : String} {row : List String} :
    HasWords text row ↔ words text = row := by
  rw [HasWords, isMadeOf_iff, words]
  constructor
  · intro h
    rw [h, List.map_map]
    exact List.map_id'' (fun word => String.ofList_toList) row
  · rintro rfl
    rw [List.map_map]
    exact (List.map_id'' (fun word => String.toList_ofList) _).symm

theorem isWord_of_mem_words {text word : String} (h : word ∈ words text) : IsWord word.toList := by
  obtain ⟨piece, hpiece, rfl⟩ := List.mem_map.mp h
  rw [String.toList_ofList]
  exact isWord_of_mem_wordsOf _ piece hpiece

theorem words_of_isWord {word : String} (h : IsWord word.toList) : words word = [word] := by
  rw [words, wordsOf_of_isWord h, List.map_singleton, String.ofList_toList]

/-- Words are found again one by one. -/
theorem flatMap_words_of_isWord {row : List String} (h : ∀ word ∈ row, IsWord word.toList) :
    row.flatMap words = row := by
  induction row with
  | nil => rfl
  | cons word row ih =>
      obtain ⟨hword, hrow⟩ := List.forall_mem_cons.mp h
      rw [List.flatMap_cons, words_of_isWord hword, ih hrow, List.singleton_append]

end DidKeys.Text
