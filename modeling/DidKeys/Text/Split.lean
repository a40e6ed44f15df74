/-! # Splitting at a separator

`split sep cs` are the pieces between the occurrences of a separator: always one more than there
are separators, and none of them holds the separator.  `join` puts the separator back.
`splitFirst?` cuts once, and `dropFront?` and `dropBack?` take a given beginning or end off.

A part without the separator that was put before one is cut off again there
(`splitFirst?_append_cons`, `split_append_cons`). -/

namespace DidKeys.Text

variable {α : Type}

/-- The pieces with a separator between each two. -/
def join (sep : α) : List (List α) → List α
  | [] => []
  | [piece] => piece
  | piece :: pieces => piece ++ sep :: join sep pieces

theorem join_cons_cons (sep : α) (p q : List α) (ps : List (List α)) :
    join sep (p :: q :: ps) = p ++ sep :: join sep (q :: ps) := rfl

theorem join_cons_of_ne_nil (sep : α) (p : List α) {ps : List (List α)} (h : ps ≠ []) :
    join sep (p :: ps) = p ++ sep :: join sep ps := by
  obtain ⟨q, ps, rfl⟩ := List.exists_cons_of_ne_nil h
  rfl

/-- Behind the first piece, each piece follows a separator. -/
theorem join_cons (sep : α) (p : List α) (ps : List (List α)) :
    join sep (p :: ps) = p ++ ps.flatMap (sep :: ·) := by
  induction ps generalizing p with
  | nil => simp [join]
  | cons q ps ih => rw [join_cons_cons, ih, List.flatMap_cons, List.cons_append]

theorem join_eq_intercalate (sep : α) (pieces : List (List α)) :
    join sep pieces = [sep].intercalate pieces := by
  induction pieces with
  | nil => rfl
  | cons p ps ih =>
    cases ps with
    | nil => rw [join, List.intercalate_singleton]
    | cons q ps =>
      rw [join_cons_cons, ih, List.intercalate_cons_cons, List.append_assoc, List.singleton_append]

variable [DecidableEq α]

/-- The pieces of a list between the occurrences of a separator. -/
def split (sep : α) : List α → List (List α)
  | [] => [[]]
  | c :: cs =>
    match split sep cs with
    | [] => [[c]]
    | piece :: pieces => if c = sep then [] :: piece :: pieces else (c :: piece) :: pieces

/-- Cuts a list at the first occurrence of a separator, if it has one. -/
def splitFirst? (sep : α) : List α → Option (List α × List α)
  | [] => none
  | c :: cs =>
    if c = sep then some ([], cs)
    else (splitFirst? sep cs).map fun (before, after) => (c :: before, after)

/-- What follows a given beginning, if the list begins that way. -/
def dropFront? : (front : List α) → List α → Option (List α)
  | [], cs => some cs
  | _ :: _, [] => none
  | f :: front, c :: cs => if c = f then dropFront? front cs else none

theorem dropFront?_append (front cs : List α) : dropFront? front (front ++ cs) = some cs := by
  induction front with
  | nil => rfl
  | cons f front ih => simp [dropFront?, ih]

/-- Only the beginning is taken off. -/
theorem eq_append_of_dropFront? {front cs rest : List α} (h : dropFront? front cs = some rest) :
    cs = front ++ rest := by
  fun_induction dropFront? front cs with
  | case1 cs => simp_all
  | case2 => simp at h
  | case3 f front cs ih => rw [ih h]; rfl
  | case4 => simp at h

/-- What stands before a given end, if the list ends that way. -/
def dropBack? (back cs : List α) : Option (List α) :=
  (dropFront? back.reverse cs.reverse).map List.reverse

theorem dropBack?_append (back cs : List α) : dropBack? back (cs ++ back) = some cs := by
  rw [dropBack?, List.reverse_append, dropFront?_append, Option.map_some, List.reverse_reverse]

/-! ### One cut -/

theorem splitFirst?_append_cons {sep : α} {before : List α} (h : sep ∉ before) (after : List α) :
    splitFirst? sep (before ++ sep :: after) = some (before, after) := by
  induction before with
  | nil => simp [splitFirst?]
  | cons c before ih =>
    have hc := List.ne_of_not_mem_cons h
    have hbefore := List.not_mem_of_not_mem_cons h
    rw [List.cons_append, splitFirst?, if_neg (Ne.symm hc), ih hbefore]
    rfl

/-- There is no cut exactly where there is no separator. -/
theorem splitFirst?_eq_none_iff {sep : α} {cs : List α} : splitFirst? sep cs = none ↔ sep ∉ cs := by
  induction cs with
  | nil => simp [splitFirst?]
  | cons c cs ih =>
    rw [splitFirst?, List.mem_cons, not_or]
    by_cases hc : c = sep
    · rw [if_pos hc]
      exact iff_of_false (fun h => nomatch h) (fun h => h.1 hc.symm)
    · rw [if_neg hc, Option.map_eq_none_iff, ih]
      exact ⟨fun h => ⟨Ne.symm hc, h⟩, fun h => h.2⟩

/-- Only the separator is taken out. -/
theorem eq_append_of_splitFirst? {sep : α} {cs before after : List α}
    (h : splitFirst? sep cs = some (before, after)) : cs = before ++ sep :: after := by
  induction cs generalizing before with
  | nil => simp [splitFirst?] at h
  | cons c cs ih =>
    unfold splitFirst? at h
    split at h
    · next hc =>
      cases h
      rw [hc, List.nil_append]
    · obtain ⟨⟨front, back⟩, hrest, he⟩ := Option.map_eq_some_iff.1 h
      cases he
      rw [ih hrest, List.cons_append]

/-! ### All cuts -/

theorem split_ne_nil (sep : α) (cs : List α) : split sep cs ≠ [] := by
  cases cs with
  | nil => simp [split]
  | cons c cs => unfold split; split <;> (try split) <;> simp

/-- Nothing is lost. -/
theorem join_split (sep : α) (cs : List α) : join sep (split sep cs) = cs := by
  induction cs with
  | nil => rfl
  | cons c cs ih =>
    unfold split
    split
    · next h => exact absurd h (split_ne_nil sep cs)
    · next piece pieces h =>
      rw [h] at ih
      split
      · next hc => rw [join_cons_cons, ih, hc]; rfl
      · cases pieces with
        | nil => simp only [join] at ih ⊢; rw [ih]
        | cons q qs => rw [join_cons_cons] at ih ⊢; rw [← ih]; rfl

/-- No piece holds the separator. -/
theorem not_mem_of_mem_split (sep : α) (cs : List α) : ∀ piece ∈ split sep cs, sep ∉ piece := by
  induction cs with
  | nil => simp [split]
  | cons c cs ih =>
    unfold split
    split
    · next h => exact absurd h (split_ne_nil sep cs)
    · next piece pieces h =>
      rw [h] at ih
      split
      · intro q hq
        rcases List.mem_cons.1 hq with rfl | hq
        · simp
        · exact ih q hq
      · next hc =>
        intro q hq
        rcases List.mem_cons.1 hq with rfl | hq
        · have := ih piece (by simp)
          simp [this, Ne.symm hc]
        · exact ih q (by simp [hq])

/-- A list without the separator is one piece. -/
theorem split_of_not_mem {sep : α} {cs : List α} (h : sep ∉ cs) : split sep cs = [cs] := by
  induction cs with
  | nil => rfl
  | cons c cs ih =>
    have hc := List.ne_of_not_mem_cons h
    have hcs := List.not_mem_of_not_mem_cons h
    rw [split, ih hcs]
    exact if_neg (Ne.symm hc)

/-- The first piece ends where the first separator stands. -/
theorem split_append_cons {sep : α} {piece : List α} (h : sep ∉ piece) (rest : List α) :
    split sep (piece ++ sep :: rest) = piece :: split sep rest := by
  have hrest := split_ne_nil sep rest
  induction piece with
  | nil =>
    rw [List.nil_append, split]
    split
    · next hnil => exact absurd hnil hrest
    · next first pieces heq => rw [if_pos rfl, heq]
  | cons c piece ih =>
    have hc := List.ne_of_not_mem_cons h
    have hpiece := List.not_mem_of_not_mem_cons h
    rw [List.cons_append, split, ih hpiece]
    exact if_neg (Ne.symm hc)

/-- Pieces without the separator are cut where they were joined. -/
theorem split_append_flatMap {sep : α} {first : List α} (hfirst : sep ∉ first)
    {pieces : List (List α)} (hpieces : ∀ piece ∈ pieces, sep ∉ piece) :
    split sep (first ++ pieces.flatMap (sep :: ·)) = first :: pieces := by
  induction pieces generalizing first with
  | nil => rw [List.flatMap_nil, List.append_nil, split_of_not_mem hfirst]
  | cons piece pieces ih =>
    obtain ⟨hpiece, hrest⟩ := List.forall_mem_cons.1 hpieces
    rw [List.flatMap_cons, List.cons_append, split_append_cons hfirst, ih hpiece hrest]

end DidKeys.Text
