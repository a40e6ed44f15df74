import DidKeys.Text.Normalization
import Mathlib.Data.List.Chain
import Mathlib.Data.List.Forall2
import Mathlib.Logic.Relation

/-! # Normal forms

A text is in normal form by a version of the character database.  `Decomposes` says what becomes of
a character: its row, or the letters that a Korean syllable is counted by, or the character itself.
`Reorderable` says which marks are in the wrong order: in a text that is decomposed, a mark may
change places with the one in front of it if its class is lower than that of the other and above
zero.  Exchanges are made until none is left to make; the text that is left is the normal form
(`IsNormalForm`).

Each character has one decomposition (`decomposes_iff`), and it does not matter which exchange is
made first: putting marks in order one by one gives the same text before and after an exchange
(`reorder_of_exchange`), and does nothing to a text in order (`reorder_of_inOrder`).  So the text
that exchanges end in is the one that `normalize` computes (`isNormalForm_iff`). -/

namespace DidKeys.Text

open Relation

/-! ### What becomes of a character -/

/-- Whether a code point is that of a Korean syllable. -/
def IsSyllable (c : Char) : Prop := 0xAC00 ≤ c.toNat ∧ c.toNat ≤ 0xD7A3

/-- What a character decomposes into.  There are 19 leading letters of syllables, 21 vowels and 27
trailing letters, and zero stands for none of these. -/
inductive Decomposes (db : CharacterDatabase) : Char → List Char → Prop where
  | row {c : Char} {form : List Char} (other : ¬IsSyllable c) (mem : (c, form) ∈ db.rows) :
      Decomposes db c form
  | syllable {c : Char} (leading vowel trailing : Nat) (leading_lt : leading < 19)
      (vowel_lt : vowel < 21) (trailing_lt : trailing < 28)
      (count : c.toNat = 0xAC00 + (leading * 21 + vowel) * 28 + trailing) :
      Decomposes db c
        (Char.ofNat (0x1100 + leading) :: Char.ofNat (0x1161 + vowel) ::
          if trailing = 0 then [] else [Char.ofNat (0x11A7 + trailing)])
  | itself {c : Char} (other : ¬IsSyllable c) (absent : ∀ form, (c, form) ∉ db.rows) :
      Decomposes db c [c]

section character
variable {db : CharacterDatabase} {c : Char} {form : List Char}

/-- A syllable is counted by its letters. -/
theorem decomposeSyllable_eq {leading vowel trailing : Nat} (hvowel : vowel < 21)
    (htrailing : trailing < 28) :
    decomposeSyllable ((leading * 21 + vowel) * 28 + trailing) =
      Char.ofNat (0x1100 + leading) :: Char.ofNat (0x1161 + vowel) ::
        if trailing = 0 then [] else [Char.ofNat (0x11A7 + trailing)] := by
  have hfirst : ((leading * 21 + vowel) * 28 + trailing) / 588 = leading := by omega
  have hsecond : ((leading * 21 + vowel) * 28 + trailing) % 588 / 28 = vowel := by omega
  have hthird : ((leading * 21 + vowel) * 28 + trailing) % 28 = trailing := by omega
  rw [decomposeSyllable, hfirst, hsecond, hthird]
  by_cases hnone : trailing = 0
  · rw [if_pos hnone, if_pos hnone]
  · rw [if_neg hnone, if_neg hnone]

theorem decompose_of_not_isSyllable (h : ¬IsSyllable c) :
    decompose db c = (db.decomposition? c).getD [c] := if_neg h

theorem Decomposes.decompose_eq (h : Decomposes db c form) : decompose db c = form := by
  cases h with
  | row other mem =>
      rw [decompose_of_not_isSyllable other, CharacterDatabase.decomposition?_eq_some_iff.mpr mem]
      rfl
  | syllable leading vowel trailing leading_lt vowel_lt trailing_lt count =>
      have hindex : c.toNat - 0xAC00 = (leading * 21 + vowel) * 28 + trailing := by omega
      rw [decompose, if_pos (by omega), hindex, decomposeSyllable_eq vowel_lt trailing_lt]
  | itself other absent =>
      have hnone : db.decomposition? c = none := by
        rw [Option.eq_none_iff_forall_ne_some]
        exact fun form hform => absent form (CharacterDatabase.decomposition?_eq_some_iff.mp hform)
      rw [decompose_of_not_isSyllable other, hnone]
      rfl

/-- A character decomposes in one way. -/
theorem decomposes_iff : Decomposes db c form ↔ decompose db c = form := by
  refine ⟨Decomposes.decompose_eq, ?_⟩
  rintro rfl
  by_cases hsyllable : IsSyllable c
  · obtain ⟨hfirst, hlast⟩ := hsyllable
    have h : Decomposes db c _ := .syllable ((c.toNat - 0xAC00) / 588)
      ((c.toNat - 0xAC00) % 588 / 28) ((c.toNat - 0xAC00) % 28) (by omega) (by omega) (by omega)
      (by omega)
    rw [h.decompose_eq]
    exact h
  · rw [decompose_of_not_isSyllable hsyllable]
    cases hrow : db.decomposition? c with
    | none =>
        refine .itself hsyllable fun form hmem => ?_
        rw [CharacterDatabase.decomposition?_eq_some_iff.mpr hmem] at hrow
        cases hrow
    | some form =>
        exact .row hsyllable (CharacterDatabase.decomposition?_eq_some_iff.mp hrow)

end character

/-! ### Exchanges -/

/-- A mark of a class stands in a range of this class. -/
def IsMark (db : CharacterDatabase) (c : Char) (mark : Nat) : Prop :=
  ∃ first last, (first, last, mark) ∈ db.ranges ∧ first ≤ c.toNat ∧ c.toNat ≤ last

/-- A mark and the mark behind it are in the wrong order. -/
def Reorderable (db : CharacterDatabase) (c d : Char) : Prop :=
  ∃ high low, IsMark db c high ∧ IsMark db d low ∧ 0 < low ∧ low < high

/-- Two marks in the wrong order change places. -/
inductive Exchange (db : CharacterDatabase) : List Char → List Char → Prop where
  | swap (before : List Char) {c d : Char} (after : List Char) (h : Reorderable db c d) :
      Exchange db (before ++ c :: d :: after) (before ++ d :: c :: after)

/-- No two neighbours are in the wrong order. -/
def InOrder (db : CharacterDatabase) (text : List Char) : Prop :=
  text.IsChain fun c d => ¬Reorderable db c d

/-- A text in its normal form: decomposed, and exchanged until nothing is in the wrong order. -/
def IsNormalForm (db : CharacterDatabase) (text form : String) : Prop :=
  ∃ pieces, List.Forall₂ (Decomposes db) text.toList pieces ∧
    ReflTransGen (Exchange db) pieces.flatten form.toList ∧ InOrder db form.toList

/-- Classes are compared to find marks in the wrong order. -/
theorem reorderable_iff {db : CharacterDatabase} {c d : Char} :
    Reorderable db c d ↔ 0 < db.combiningClass d ∧ db.combiningClass d < db.combiningClass c := by
  constructor
  · rintro ⟨high, low, hhigh, hlow, hpos, hlt⟩
    rw [(CharacterDatabase.combiningClass_eq_iff hpos).mpr hlow,
      (CharacterDatabase.combiningClass_eq_iff (hpos.trans hlt)).mpr hhigh]
    exact ⟨hpos, hlt⟩
  · rintro ⟨hpos, hlt⟩
    exact ⟨_, _, (CharacterDatabase.combiningClass_eq_iff (hpos.trans hlt)).mp rfl,
      (CharacterDatabase.combiningClass_eq_iff hpos).mp rfl, hpos, hlt⟩

section exchange
variable {db : CharacterDatabase} {c d e : Char} {text form : List Char}

theorem Reorderable.trans (h : Reorderable db c d) (h' : Reorderable db d e) :
    Reorderable db c e := by
  rw [reorderable_iff] at *
  exact ⟨h'.1, h'.2.trans h.2⟩

theorem Reorderable.not_symm (h : Reorderable db c d) : ¬Reorderable db d c := by
  rw [reorderable_iff] at *
  exact fun h' => Nat.lt_asymm h.2 h'.2

theorem Exchange.cons (c : Char) (h : Exchange db text form) :
    Exchange db (c :: text) (c :: form) := by
  obtain ⟨before, after, hswap⟩ := h
  exact .swap (c :: before) after hswap

theorem exchanges_cons (c : Char) (h : ReflTransGen (Exchange db) text form) :
    ReflTransGen (Exchange db) (c :: text) (c :: form) :=
  h.lift (c :: ·) fun _ _ => Exchange.cons c

/-! ### Single marks -/

theorem insertMark_of_reorderable (h : Reorderable db c d) :
    insertMark db c (d :: text) = d :: insertMark db c text :=
  if_pos (reorderable_iff.mp h)

theorem insertMark_of_not_reorderable (h : ¬Reorderable db c d) :
    insertMark db c (d :: text) = c :: d :: text :=
  if_neg (mt reorderable_iff.mpr h)

/-- Two marks in the wrong order can be put in their places in any order. -/
theorem insertMark_comm (h : Reorderable db c d) (text : List Char) :
    insertMark db c (insertMark db d text) = insertMark db d (insertMark db c text) := by
  induction text with
  | nil =>
      rw [insertMark, insertMark, insertMark_of_reorderable h,
        insertMark_of_not_reorderable h.not_symm, insertMark]
  | cons e text ih =>
      by_cases hd : Reorderable db d e
      · have hc := h.trans hd
        rw [insertMark_of_reorderable hd, insertMark_of_reorderable hc,
          insertMark_of_reorderable hc, insertMark_of_reorderable hd, ih]
      · rw [insertMark_of_not_reorderable hd, insertMark_of_reorderable h]
        -- the second mark stays in front, whether or not the first one moves on
        by_cases hc : Reorderable db c e
        · rw [insertMark_of_reorderable hc, insertMark_of_not_reorderable hd]
        · rw [insertMark_of_not_reorderable hc, insertMark_of_not_reorderable h.not_symm]

theorem exchanges_insertMark (db : CharacterDatabase) (c : Char) (text : List Char) :
    ReflTransGen (Exchange db) (c :: text) (insertMark db c text) := by
  induction text with
  | nil =>
      exact .refl
  | cons d text ih =>
      by_cases h : Reorderable db c d
      · rw [insertMark_of_reorderable h]
        exact .head (.swap [] text h) (exchanges_cons d ih)
      · rw [insertMark_of_not_reorderable h]

/-- What a text with a new mark begins with. -/
theorem eq_or_mem_of_mem_head?_insertMark (h : d ∈ (insertMark db c text).head?) :
    d = c ∨ d ∈ text.head? := by
  cases text with
  | nil =>
      rw [insertMark, List.head?_cons, Option.mem_some_iff] at h
      exact .inl h.symm
  | cons e text =>
      by_cases he : Reorderable db c e
      · rw [insertMark_of_reorderable he] at h
        exact .inr h
      · rw [insertMark_of_not_reorderable he, List.head?_cons, Option.mem_some_iff] at h
        exact .inl h.symm

theorem InOrder.insertMark (h : InOrder db text) (c : Char) : InOrder db (insertMark db c text) := by
  induction text with
  | nil =>
      exact .singleton c
  | cons d text ih =>
      obtain ⟨hhead, htext⟩ := List.isChain_cons.mp h
      by_cases hc : Reorderable db c d
      · rw [insertMark_of_reorderable hc]
        refine List.isChain_cons.mpr ⟨fun e he => ?_, ih htext⟩
        rcases eq_or_mem_of_mem_head?_insertMark he with rfl | he
        · exact hc.not_symm
        · exact hhead e he
      · rw [insertMark_of_not_reorderable hc]
        exact List.isChain_cons_cons.mpr ⟨hc, h⟩

/-! ### All marks -/

/-- A text with its marks in order. -/
def reorder (db : CharacterDatabase) (text : List Char) : List Char :=
  text.foldr (insertMark db) []

theorem exchanges_reorder (db : CharacterDatabase) (text : List Char) :
    ReflTransGen (Exchange db) text (reorder db text) := by
  induction text with
  | nil =>
      exact .refl
  | cons c text ih =>
      exact (exchanges_cons c ih).trans (exchanges_insertMark db c (reorder db text))

theorem inOrder_reorder (db : CharacterDatabase) (text : List Char) :
    InOrder db (reorder db text) := by
  induction text with
  | nil =>
      exact .nil
  | cons c text ih =>
      exact ih.insertMark c

theorem reorder_of_inOrder (h : InOrder db text) : reorder db text = text := by
  induction text with
  | nil =>
      rfl
  | cons c text ih =>
      obtain ⟨hhead, htext⟩ := List.isChain_cons.mp h
      change insertMark db c (reorder db text) = c :: text
      rw [ih htext]
      cases text with
      | nil =>
          rfl
      | cons d text =>
          exact insertMark_of_not_reorderable (hhead d rfl)

theorem reorder_of_exchange (h : Exchange db text form) : reorder db text = reorder db form := by
  obtain ⟨before, after, hswap⟩ := h
  unfold reorder
  rw [List.foldr_append, List.foldr_append]
  exact congrArg (fun rest => before.foldr (insertMark db) rest) (insertMark_comm hswap _)

theorem reorder_of_exchanges (h : ReflTransGen (Exchange db) text form) :
    reorder db text = reorder db form := by
  induction h with
  | refl =>
      rfl
  | tail _ hstep ih =>
      rw [ih, reorder_of_exchange hstep]

end exchange

/-! ### Normal forms -/

/-- The normal form of a text is what exchanges in any order end in. -/
theorem isNormalForm_iff {db : CharacterDatabase} {text form : String} :
    IsNormalForm db text form ↔ normalize db text = form := by
  have hpieces : ∀ pieces, List.Forall₂ (Decomposes db) text.toList pieces ↔
      text.toList.map (decompose db) = pieces := by
    intro pieces
    have hrelation : Decomposes db = fun c piece => decompose db c = piece := by
      funext c piece
      exact propext decomposes_iff
    rw [hrelation, ← List.forall₂_map_left_iff, List.forall₂_eq_eq_eq]
  unfold IsNormalForm
  simp only [hpieces, exists_eq_left']
  constructor
  · rintro ⟨hexchanges, horder⟩
    rw [← List.flatMap_def] at hexchanges
    change String.ofList (reorder db _) = form
    rw [reorder_of_exchanges hexchanges, reorder_of_inOrder horder, String.ofList_toList]
  · rintro rfl
    rw [← List.flatMap_def, normalize, String.toList_ofList]
    exact ⟨exchanges_reorder db _, inOrder_reorder db _⟩

end DidKeys.Text
