import DidKeys.Text.CombiningClass
import DidKeys.Text.Decomposition

/-! # The character database

Normal forms depend on a version of the character database: on the characters that decompose, and on
the classes of marks.  `CharacterDatabase` is what they take from it, with both tables in ascending
order.  So a character has one row (`decomposition?_eq_some_iff`), and a mark one class.

`CharacterDatabase.version18` is the version that identifiers are made with.  It is version 17, which
is here in full, and what is added to it. -/

namespace DidKeys.Text

variable {α : Type}

/-! ### Tables in order -/

/-- Puts new entries into a table; both are in ascending order. -/
def addEntries (key : α → Nat) : (entries table : List α) → List α
  | [], table => table
  | entry :: entries, table =>
    table.takeWhile (key · < key entry) ++
      entry :: addEntries key entries (table.dropWhile (key · < key entry))

theorem mem_addEntries {key : α → Nat} {entries table : List α} {entry : α} :
    entry ∈ addEntries key entries table ↔ entry ∈ entries ∨ entry ∈ table := by
  induction entries generalizing table with
  | nil => simp [addEntries]
  | cons first entries ih =>
    have hcut : entry ∈ table ↔ entry ∈ table.takeWhile (key · < key first) ∨
        entry ∈ table.dropWhile (key · < key first) := by
      rw [← List.mem_append, List.takeWhile_append_dropWhile]
    rw [addEntries, List.mem_append, List.mem_cons, ih, hcut, List.mem_cons]
    grind

/-- Whether each entry of a table and the one behind it are in a relation. -/
def isChain (related : α → α → Bool) : List α → Bool
  | first :: second :: rest => related first second && isChain related (second :: rest)
  | _ => true

theorem pairwise_of_isChain {related : α → α → Bool} {table : List α}
    (trans : ∀ a b c, related a b = true → related b c = true → related a c = true)
    (h : isChain related table = true) : table.Pairwise fun a b => related a b = true := by
  induction table with
  | nil => exact .nil
  | cons first table ih =>
    cases table with
    | nil => exact List.pairwise_singleton _ _
    | cons second rest =>
      rw [isChain, Bool.and_eq_true] at h
      have hrest := ih h.2
      refine .cons (fun entry hentry => ?_) hrest
      rcases List.mem_cons.mp hentry with rfl | hbehind
      · exact h.1
      · exact trans _ _ _ h.1 (List.rel_of_pairwise_cons hrest hbehind)

/-! ### Databases -/

/-- What a version of the database says about normal forms. -/
structure CharacterDatabase where
  /-- The characters that decompose, each with all that it decomposes into. -/
  rows : List (Char × List Char)
  /-- A first code point, a last code point and the class of all marks between them. -/
  ranges : List (Nat × Nat × Nat)
  rows_ascending : rows.Pairwise fun row next => row.1 < next.1
  ranges_ascending : ranges.Pairwise fun range next => range.2.1 < next.1

namespace CharacterDatabase

/-- The decomposition of a character, if it has a row.  Its row is the first one that is not in front
of it. -/
def decomposition? (db : CharacterDatabase) (c : Char) : Option (List Char) :=
  (db.rows.find? fun row => c ≤ row.1).bind fun row => if row.1 = c then some row.2 else none

/-- The combining class of a character; zero for one that starts a cluster. -/
def combiningClass (db : CharacterDatabase) (c : Char) : Nat :=
  match db.ranges.find? fun (first, last, _) => first ≤ c.toNat && c.toNat ≤ last with
  | some (_, _, mark) => mark
  | none => 0

/-- A character decomposes as its row says. -/
theorem decomposition?_eq_some_iff {db : CharacterDatabase} {c : Char} {form : List Char} :
    db.decomposition? c = some form ↔ (c, form) ∈ db.rows := by
  have hrows := db.rows_ascending
  rw [decomposition?]
  generalize db.rows = rows at hrows ⊢
  induction rows with
  | nil => simp
  | cons row rows ih =>
    obtain ⟨hbehind, htail⟩ := List.pairwise_cons.mp hrows
    have hrest := ih htail
    rw [List.mem_cons]
    by_cases hlt : row.1 < c
    · have hfirst : (c, form) ≠ row := by
        rintro rfl
        exact Nat.lt_irrefl _ hlt
      rw [List.find?_cons_of_neg (by simpa using hlt), or_iff_right hfirst]
      exact hrest
    · have hle : c ≤ row.1 := Nat.not_lt.mp hlt
      have hnone : (c, form) ∉ rows := fun hmem => hlt (hbehind _ hmem)
      rw [List.find?_cons_of_pos (by simpa using hle), Option.bind_some, or_iff_left hnone]
      obtain ⟨d, found⟩ := row
      simp [eq_comm]

/-- A class above zero is that of the range that a character is in. -/
theorem combiningClass_eq_iff {db : CharacterDatabase} {c : Char} {mark : Nat} (hmark : 0 < mark) :
    db.combiningClass c = mark ↔
      ∃ first last, (first, last, mark) ∈ db.ranges ∧ first ≤ c.toNat ∧ c.toNat ≤ last := by
  have hranges := db.ranges_ascending
  rw [combiningClass]
  generalize db.ranges = ranges at hranges ⊢
  induction ranges with
  | nil => simpa using Nat.ne_of_lt hmark
  | cons range ranges ih =>
    obtain ⟨hbehind, htail⟩ := List.pairwise_cons.mp hranges
    have hrest := ih htail
    obtain ⟨first, last, found⟩ := range
    by_cases hin : first ≤ c.toNat ∧ c.toNat ≤ last
    · rw [List.find?_cons_of_pos (by simpa using hin)]
      constructor
      · rintro rfl
        exact ⟨first, last, List.mem_cons_self, hin⟩
      · rintro ⟨other, _, hmem, hother, _⟩
        rcases List.mem_cons.mp hmem with heq | hmem
        · cases heq
          rfl
        · have hlt : last < other := hbehind _ hmem
          omega
    · rw [List.find?_cons_of_neg (by simpa using hin)]
      refine hrest.trans ⟨?_, ?_⟩
      · rintro ⟨other, final, hmem, hother⟩
        exact ⟨other, final, List.mem_cons_of_mem _ hmem, hother⟩
      · rintro ⟨other, final, hmem, hother⟩
        rcases List.mem_cons.mp hmem with heq | hmem
        · cases heq
          exact absurd hother hin
        · exact ⟨other, final, hmem, hother⟩

/-! ### Versions -/

/-- A row of a table as characters. -/
def rowOfNumbers (row : Nat × List Nat) : Char × List Char :=
  (Char.ofNat row.1, row.2.map Char.ofNat)

/-- The database with two tables that were found to be in order. -/
def ofTables (rows : List (Nat × List Nat)) (ranges : List (Nat × Nat × Nat))
    (rows_chain :
      isChain (fun row next => decide (row.1.toNat < next.1.toNat)) (rows.map rowOfNumbers) = true)
    (ranges_chain :
      isChain (fun range next => decide (range.2.1 < next.1 ∧ next.1 ≤ next.2.1)) ranges = true) :
    CharacterDatabase where
  rows := rows.map rowOfNumbers
  ranges := ranges
  rows_ascending := by
    refine (pairwise_of_isChain ?_ rows_chain).imp fun h => of_decide_eq_true h
    intro a b c hab hbc
    exact decide_eq_true (Nat.lt_trans (of_decide_eq_true hab) (of_decide_eq_true hbc))
  ranges_ascending := by
    refine (pairwise_of_isChain ?_ ranges_chain).imp fun h => (of_decide_eq_true h).1
    intro a b c hab hbc
    have hab := of_decide_eq_true hab
    have hbc := of_decide_eq_true hbc
    exact decide_eq_true (by omega)

/-- Version 17 of the database. -/
def version17 : CharacterDatabase :=
  ofTables version17Rows version17Ranges (by decide +kernel) (by decide +kernel)

/-- Version 18 of the database: the tables of version 17, and what is known to be added to them. -/
def version18 : CharacterDatabase :=
  ofTables (addEntries Prod.fst addedRows version17Rows)
    (addEntries Prod.fst addedRanges version17Ranges) (by decide +kernel) (by decide +kernel)

end CharacterDatabase
end DidKeys.Text
