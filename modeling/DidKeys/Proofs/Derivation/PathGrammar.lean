import DidKeys.Proofs.Derivation.PathText
import DidKeys.Proofs.Text.Numeral
import Mathlib.Algebra.Group.Nat.Defs
import Mathlib.Data.List.Forall2

/-! # The grammar of paths

The texts of the form `m(/[0-9]+'?)*` are spelled by lists of segments (`Path.spell`).  Such a text
is read exactly if all its numbers are below `2³¹`; the path has these numbers and marks, and is
written with the zeros in front taken off.  Of every other text the leftmost fault is reported
(`Path.Fault`), whatever follows it. -/

namespace DidKeys.Path

/-- A step as a text spells it: one or more digits, and maybe a quote behind them. -/
structure Segment where
  digits : List Char
  marked : Bool
  digits_ne_nil : digits ≠ []
  isDigit_of_mem : ∀ c ∈ digits, Decimal.isDigit c = true

namespace Segment

/-- The characters of a segment. -/
def chars (segment : Segment) : List Char :=
  segment.digits ++ if segment.marked then ['\''] else []

/-- The number of a segment. -/
def value (segment : Segment) : Nat := Decimal.value segment.digits

/-- A segment stands for the step with its number and its mark. -/
def Denotes (segment : Segment) (axis : Axis) : Prop :=
  axis.number = segment.value ∧ axis.hardened = segment.marked

/-- A segment without the zeros in front of its number; of zeros only, one is left. -/
def trim (segment : Segment) : Segment where
  digits := Decimal.trim segment.digits
  marked := segment.marked
  digits_ne_nil := Decimal.trim_ne_nil _
  isDigit_of_mem := Decimal.isDigit_of_mem_trim segment.isDigit_of_mem

end Segment

/-- The characters of a text that consists of `m` and segments, each behind a slash. -/
def spell (segments : List Segment) : List Char :=
  'm' :: segments.flatMap fun segment => '/' :: segment.chars

/-- All numbers are those of steps. -/
def Small (segments : List Segment) : Prop := ∀ segment ∈ segments, segment.value < 2 ^ 31

/-- A piece of a text ends in front of `rest`: there is nothing left, or the next piece. -/
def Ends (rest : List Char) : Prop := rest = [] ∨ ∃ after, rest = '/' :: after

/-- The leftmost fault of a text.  Before it there are only segments of small numbers, and what
follows it does not count. -/
inductive Fault (text : String) : PathError → Prop where
  /-- The first piece is not `m`. -/
  | start (other : ∀ rest, text.toList = 'm' :: rest → ¬ Ends rest) : Fault text (.malformed text)
  /-- A piece is no segment. -/
  | form {before : List Segment} {piece rest : List Char}
      (whole : text.toList = spell before ++ '/' :: (piece ++ rest)) (small : Small before)
      (no_slash : '/' ∉ piece) (ends : Ends rest)
      (no_segment : ∀ segment : Segment, segment.chars ≠ piece) : Fault text (.malformed text)
  /-- A segment has a large number. -/
  | range {before : List Segment} {segment : Segment} {rest : List Char}
      (whole : text.toList = spell before ++ '/' :: (segment.chars ++ rest)) (small : Small before)
      (ends : Ends rest) (large : 2 ^ 31 ≤ segment.value) :
      Fault text (.axisOutOfRange (min segment.value (2 ^ 64 - 1)))

/-! ### One segment -/

namespace Segment
variable (segment : Segment)

/-- The step of a segment with a small number. -/
def axis (h : segment.value < 2 ^ 31) : Axis where
  number := segment.value
  hardened := segment.marked
  number_lt := h

variable {segment} in
theorem eq_axis_iff {axis : Axis} (h : segment.value < 2 ^ 31) :
    axis = segment.axis h ↔ segment.Denotes axis := by
  constructor
  · rintro rfl
    exact ⟨rfl, rfl⟩
  · obtain ⟨number, hardened, hlt⟩ := axis
    rintro ⟨rfl, rfl⟩
    rfl

variable {segment} in
theorem Denotes.value_lt {axis : Axis} (h : segment.Denotes axis) : segment.value < 2 ^ 31 := by
  rw [← h.1]
  exact axis.number_lt

theorem slash_not_mem_chars : '/' ∉ segment.chars := by
  intro hmem
  rcases List.mem_append.mp hmem with hdigit | hquote
  · exact absurd (segment.isDigit_of_mem _ hdigit) (by decide)
  · revert hquote
    split <;> decide

theorem value?_digits : Decimal.value? segment.digits = some segment.value := by
  have hnumeral : Decimal.isNumeral segment.digits = true :=
    Decimal.isNumeral_iff.mpr ⟨segment.digits_ne_nil, segment.isDigit_of_mem⟩
  rw [Decimal.value?, if_pos hnumeral]
  rfl

theorem digits_value : Decimal.digits segment.value = segment.trim.digits :=
  Decimal.digits_value segment.isDigit_of_mem

end Segment

section piece
variable {whole : String} {piece : List Char} {axis : Axis} {fault : PathError}
  {segment : Segment}

theorem eq_append_of_splitQuote {digits : List Char} {marked : Bool}
    (h : splitQuote piece = (digits, marked)) :
    piece = digits ++ if marked then ['\''] else [] := by
  unfold splitQuote at h
  split at h
  · next hlast =>
    cases h
    exact (List.dropLast_append_getLast? '\'' hlast).symm
  · cases h
    exact (List.append_nil piece).symm

theorem splitQuote_segment (segment : Segment) :
    splitQuote segment.chars = (segment.digits, segment.marked) :=
  splitQuote_append segment.isDigit_of_mem segment.marked

/-- A piece that is no segment is a fault of the whole text. -/
theorem readSegment_of_ne_chars (h : ∀ segment : Segment, segment.chars ≠ piece) :
    readSegment whole piece = .error (.malformed whole) := by
  cases hsplit : splitQuote piece with
  | mk digits marked =>
      have hpiece := eq_append_of_splitQuote hsplit
      have hnumeral : Decimal.isNumeral digits = false := by
        rw [← Bool.not_eq_true, Decimal.isNumeral_iff]
        rintro ⟨hne, hdigits⟩
        exact h ⟨digits, marked, hne, hdigits⟩ hpiece.symm
      simp only [readSegment, hsplit, Decimal.value?, hnumeral, Bool.false_eq_true, if_false]

/-- A segment of a small number is the step with its number and its mark. -/
theorem readSegment_of_lt (h : segment.value < 2 ^ 31) :
    readSegment whole segment.chars = .ok (segment.axis h) := by
  have haxis : Axis.ofNumber? segment.value segment.marked = some (segment.axis h) := dif_pos h
  simp only [readSegment, splitQuote_segment, segment.value?_digits, haxis]

/-- A segment of a large number is a fault of that number. -/
theorem readSegment_of_le (h : 2 ^ 31 ≤ segment.value) :
    readSegment whole segment.chars =
      .error (.axisOutOfRange (min segment.value (2 ^ 64 - 1))) := by
  have haxis : Axis.ofNumber? segment.value segment.marked = none := dif_neg (Nat.not_lt.mpr h)
  simp only [readSegment, splitQuote_segment, segment.value?_digits, haxis]
  rfl

/-- A segment is read as the step that it stands for, and as nothing else. -/
theorem readSegment_chars_eq_ok_iff :
    readSegment whole segment.chars = .ok axis ↔ segment.Denotes axis := by
  by_cases hlt : segment.value < 2 ^ 31
  · rw [readSegment_of_lt hlt, Except.ok.injEq, eq_comm, Segment.eq_axis_iff]
  · rw [readSegment_of_le (Nat.not_lt.mp hlt)]
    exact iff_of_false (fun h => nomatch h) fun hdenotes => hlt hdenotes.value_lt

/-- Only segments are read as steps. -/
theorem exists_segment_of_readSegment (h : readSegment whole piece = .ok axis) :
    ∃ segment : Segment, segment.chars = piece := by
  by_contra hsegment
  rw [readSegment_of_ne_chars (not_exists.mp hsegment)] at h
  cases h

/-- What is wrong with a piece that is no step. -/
theorem readSegment_eq_error_iff :
    readSegment whole piece = .error fault ↔
      (∀ segment : Segment, segment.chars ≠ piece) ∧ fault = .malformed whole ∨
        ∃ segment : Segment, segment.chars = piece ∧ 2 ^ 31 ≤ segment.value ∧
          fault = .axisOutOfRange (min segment.value (2 ^ 64 - 1)) := by
  constructor
  · intro h
    by_cases hsegment : ∃ segment : Segment, segment.chars = piece
    · obtain ⟨segment, rfl⟩ := hsegment
      by_cases hlt : segment.value < 2 ^ 31
      · rw [readSegment_of_lt hlt] at h
        cases h
      · rw [readSegment_of_le (Nat.not_lt.mp hlt)] at h
        cases h
        exact .inr ⟨segment, rfl, Nat.not_lt.mp hlt, rfl⟩
    · rw [readSegment_of_ne_chars (not_exists.mp hsegment)] at h
      cases h
      exact .inl ⟨not_exists.mp hsegment, rfl⟩
  · rintro (⟨hsegment, rfl⟩ | ⟨segment, rfl, hle, rfl⟩)
    · exact readSegment_of_ne_chars hsegment
    · exact readSegment_of_le hle

end piece

/-! ### Many segments -/

section pieces
variable {whole : String} {pieces : List (List Char)} {segments : List Segment}
  {axes : List Axis} {fault : PathError}

theorem readSegments_map_chars_eq_ok_iff :
    readSegments whole (segments.map Segment.chars) = .ok axes ↔
      List.Forall₂ Segment.Denotes segments axes := by
  induction segments generalizing axes with
  | nil =>
      rw [List.forall₂_nil_left_iff]
      exact ⟨fun h => (Except.ok.inj h).symm, fun h => congrArg Except.ok h.symm⟩
  | cons segment segments ih =>
      rw [List.map_cons, readSegments, bind_eq_ok_iff, List.forall₂_cons_left_iff]
      constructor
      · rintro ⟨axis, hfirst, hrest⟩
        obtain ⟨others, hothers, hreturn⟩ := bind_eq_ok_iff.mp hrest
        cases hreturn
        exact ⟨axis, others, readSegment_chars_eq_ok_iff.mp hfirst, ih.mp hothers, rfl⟩
      · rintro ⟨axis, others, hfirst, hothers, rfl⟩
        exact ⟨axis, readSegment_chars_eq_ok_iff.mpr hfirst, by rw [ih.mpr hothers]; rfl⟩

/-- Only segments are read as steps, whatever their number. -/
theorem exists_segments_of_readSegments (h : readSegments whole pieces = .ok axes) :
    ∃ segments : List Segment, segments.map Segment.chars = pieces := by
  induction pieces generalizing axes with
  | nil =>
      exact ⟨[], rfl⟩
  | cons piece pieces ih =>
      obtain ⟨axis, hfirst, hrest⟩ := bind_eq_ok_iff.mp h
      obtain ⟨others, hothers, _⟩ := bind_eq_ok_iff.mp hrest
      obtain ⟨segment, rfl⟩ := exists_segment_of_readSegment hfirst
      obtain ⟨segments, rfl⟩ := ih hothers
      exact ⟨segment :: segments, rfl⟩

/-- Segments of small numbers stand for steps. -/
theorem exists_denotes (h : Small segments) :
    ∃ axes, List.Forall₂ Segment.Denotes segments axes := by
  induction segments with
  | nil =>
      exact ⟨[], .nil⟩
  | cons segment segments ih =>
      obtain ⟨hfirst, hrest⟩ := List.forall_mem_cons.mp h
      obtain ⟨axes, haxes⟩ := ih hrest
      exact ⟨segment.axis hfirst :: axes, .cons ⟨rfl, rfl⟩ haxes⟩

theorem small_of_denotes (h : List.Forall₂ Segment.Denotes segments axes) : Small segments := by
  induction h with
  | nil =>
      exact List.forall_mem_nil _
  | cons hfirst _ ih =>
      exact List.forall_mem_cons.mpr ⟨hfirst.value_lt, ih⟩

/-- Reading stops at the first piece that is no step. -/
theorem readSegments_eq_error_iff :
    readSegments whole pieces = .error fault ↔
      ∃ (before : List Segment) (piece : List Char) (after : List (List Char)),
        pieces = before.map Segment.chars ++ piece :: after ∧ Small before ∧
          readSegment whole piece = .error fault := by
  induction pieces with
  | nil =>
      refine iff_of_false (by rintro ⟨⟩) ?_
      rintro ⟨before, piece, after, hnil, _⟩
      exact absurd hnil.symm (by simp)
  | cons piece pieces ih =>
      rw [readSegments, bind_eq_error_iff]
      constructor
      · rintro (hfirst | ⟨axis, hfirst, hrest⟩)
        · exact ⟨[], piece, pieces, rfl, List.forall_mem_nil _, hfirst⟩
        · obtain ⟨segment, rfl⟩ := exists_segment_of_readSegment hfirst
          obtain ⟨before, found, after, rfl, hsmall, hfound⟩ :=
            ih.mp (bind_pure_eq_error_iff.mp hrest)
          have hlt := (readSegment_chars_eq_ok_iff.mp hfirst).value_lt
          exact ⟨segment :: before, found, after, rfl, List.forall_mem_cons.mpr ⟨hlt, hsmall⟩,
            hfound⟩
      · rintro ⟨before, found, after, hpieces, hsmall, hfound⟩
        cases before with
        | nil =>
            cases hpieces
            exact .inl hfound
        | cons segment before =>
            cases hpieces
            obtain ⟨hlt, hbefore⟩ := List.forall_mem_cons.mp hsmall
            refine .inr ⟨_, readSegment_of_lt hlt, bind_pure_eq_error_iff.mpr ?_⟩
            exact ih.mpr ⟨before, found, after, rfl, hbefore, hfound⟩

end pieces

/-! ### Whole texts -/

section text
variable {text : String} {path : Path} {segments : List Segment} {fault : PathError}

theorem split_spell (segments : List Segment) :
    Text.split '/' (spell segments) = ['m'] :: segments.map Segment.chars := by
  have hpieces : ∀ piece ∈ segments.map Segment.chars, '/' ∉ piece :=
    List.forall_mem_map.mpr fun segment _ => segment.slash_not_mem_chars
  rw [← Text.split_append_flatMap (show '/' ∉ ['m'] by decide) hpieces, List.flatMap_map]
  rfl

theorem ends_flatMap (pieces : List (List Char)) : Ends (pieces.flatMap ('/' :: ·)) := by
  cases pieces with
  | nil => exact .inl rfl
  | cons piece pieces => exact .inr ⟨_, rfl⟩

/-- What follows a piece are pieces. -/
theorem Ends.exists_pieces {rest : List Char} (h : Ends rest) :
    ∃ pieces : List (List Char), rest = pieces.flatMap ('/' :: ·) ∧
      ∀ piece ∈ pieces, '/' ∉ piece := by
  rcases h with rfl | ⟨after, rfl⟩
  · exact ⟨[], rfl, List.forall_mem_nil _⟩
  · refine ⟨Text.split '/' after, ?_, Text.not_mem_of_mem_split '/' after⟩
    cases hsplit : Text.split '/' after with
    | nil =>
        exact absurd hsplit (Text.split_ne_nil '/' after)
    | cons piece pieces =>
        rw [List.flatMap_cons, List.cons_append, ← Text.join_cons, ← hsplit, Text.join_split]

/-- A text that begins with the piece `m` is read piece by piece. -/
theorem parse_of_split {pieces : List (List Char)}
    (h : Text.split '/' text.toList = ['m'] :: pieces) :
    parse text = (readSegments text pieces).map Path.mk := by
  rw [parse, h]
  rfl

/-- A text that begins with another piece is at fault. -/
theorem parse_of_split_ne {first : List Char} {pieces : List (List Char)}
    (h : Text.split '/' text.toList = first :: pieces) (hne : first ≠ ['m']) :
    parse text = .error (.malformed text) := by
  rw [parse, h]
  split
  · next heq => exact absurd (List.cons.inj heq).1 hne
  · rfl

theorem parse_eq_ok_iff_of_spell (h : text.toList = spell segments) :
    parse text = .ok path ↔ List.Forall₂ Segment.Denotes segments path.axes := by
  have hsplit : Text.split '/' text.toList = ['m'] :: segments.map Segment.chars := by
    rw [h, split_spell]
  rw [parse_of_split hsplit, ← @readSegments_map_chars_eq_ok_iff text]
  cases path with
  | mk axes =>
    cases readSegments text (segments.map Segment.chars) with
    | error cause => exact iff_of_false (fun h => nomatch h) (fun h => nomatch h)
    | ok found =>
      show Except.ok (Path.mk found) = Except.ok (Path.mk axes) ↔ _
      rw [Except.ok.injEq, Except.ok.injEq, Path.mk.injEq]

/-- Only texts of segments are read. -/
theorem exists_spell_of_parse (h : parse text = .ok path) :
    ∃ segments, text.toList = spell segments := by
  obtain ⟨first, pieces, hsplit⟩ := List.exists_cons_of_ne_nil (Text.split_ne_nil '/' text.toList)
  have hwhole : text.toList = first ++ pieces.flatMap ('/' :: ·) := by
    rw [← Text.join_cons, ← hsplit, Text.join_split]
  by_cases hfirst : first = ['m']
  · subst hfirst
    rw [parse_of_split hsplit] at h
    cases hread : readSegments text pieces with
    | error cause =>
        rw [hread] at h
        cases h
    | ok axes =>
        obtain ⟨segments, rfl⟩ := exists_segments_of_readSegments hread
        rw [List.flatMap_map] at hwhole
        exact ⟨segments, hwhole⟩
  · rw [parse_of_split_ne hsplit hfirst] at h
    cases h

/-- A text begins with the piece `m` exactly if the first slash, or nothing, follows an `m`. -/
theorem exists_ends_iff_of_split {first : List Char} {pieces : List (List Char)}
    (h : Text.split '/' text.toList = first :: pieces) :
    (∃ rest, text.toList = 'm' :: rest ∧ Ends rest) ↔ first = ['m'] := by
  constructor
  · rintro ⟨rest, hwhole, hends⟩
    obtain ⟨others, rfl, hothers⟩ := hends.exists_pieces
    have hsplit := Text.split_append_flatMap (show '/' ∉ ['m'] by decide) hothers
    rw [hwhole] at h
    exact (List.cons.inj (h.symm.trans hsplit)).1
  · rintro rfl
    refine ⟨pieces.flatMap ('/' :: ·), ?_, ends_flatMap pieces⟩
    rw [← Text.join_split '/' text.toList, h, Text.join_cons]
    rfl

/-- A piece behind segments of small numbers decides the fault, if it is no step. -/
theorem parse_of_piece {before : List Segment} {piece rest : List Char}
    (whole : text.toList = spell before ++ '/' :: (piece ++ rest)) (small : Small before)
    (no_slash : '/' ∉ piece) (ends : Ends rest) (h : readSegment text piece = .error fault) :
    parse text = .error fault := by
  obtain ⟨after, rfl, hafter⟩ := ends.exists_pieces
  have hbefore : ∀ piece ∈ before.map Segment.chars, '/' ∉ piece :=
    List.forall_mem_map.mpr fun segment _ => segment.slash_not_mem_chars
  have hpieces : ∀ other ∈ before.map Segment.chars ++ piece :: after, '/' ∉ other :=
    List.forall_mem_append.mpr ⟨hbefore, List.forall_mem_cons.mpr ⟨no_slash, hafter⟩⟩
  have hwhole : text.toList =
      ['m'] ++ (before.map Segment.chars ++ piece :: after).flatMap ('/' :: ·) := by
    rw [whole, List.flatMap_append, List.flatMap_map, List.flatMap_cons]
    simp [spell]
  have hsplit : Text.split '/' text.toList =
      ['m'] :: (before.map Segment.chars ++ piece :: after) := by
    rw [hwhole, Text.split_append_flatMap (by decide) hpieces]
  rw [parse_of_split hsplit, readSegments_eq_error_iff.mpr ⟨before, piece, after, rfl, small, h⟩]
  rfl

theorem parse_of_fault (h : Fault text fault) : parse text = .error fault := by
  cases h with
  | start other =>
      obtain ⟨first, pieces, hsplit⟩ :=
        List.exists_cons_of_ne_nil (Text.split_ne_nil '/' text.toList)
      refine parse_of_split_ne hsplit fun hfirst => ?_
      obtain ⟨rest, hwhole, hends⟩ := (exists_ends_iff_of_split hsplit).mpr hfirst
      exact other rest hwhole hends
  | form whole small no_slash ends no_segment =>
      exact parse_of_piece whole small no_slash ends (readSegment_of_ne_chars no_segment)
  | @range before segment rest whole small ends large =>
      exact parse_of_piece whole small segment.slash_not_mem_chars ends (readSegment_of_le large)

/-- What is reported is the leftmost fault. -/
theorem fault_of_parse (h : parse text = .error fault) : Fault text fault := by
  obtain ⟨first, pieces, hsplit⟩ := List.exists_cons_of_ne_nil (Text.split_ne_nil '/' text.toList)
  by_cases hfirst : first = ['m']
  case neg =>
    rw [parse_of_split_ne hsplit hfirst] at h
    cases h
    refine .start fun rest hwhole hends => hfirst ?_
    exact (exists_ends_iff_of_split hsplit).mp ⟨rest, hwhole, hends⟩
  subst hfirst
  have hread : readSegments text pieces = .error fault := by
    rw [parse_of_split hsplit] at h
    cases hread : readSegments text pieces with
    | error cause =>
        rw [hread] at h
        cases h
        rfl
    | ok axes =>
        rw [hread] at h
        cases h
  obtain ⟨before, piece, after, rfl, hsmall, hpiece⟩ := readSegments_eq_error_iff.mp hread
  have hwhole : text.toList = spell before ++ '/' :: (piece ++ after.flatMap ('/' :: ·)) := by
    rw [← Text.join_split '/' text.toList, hsplit, Text.join_cons, List.flatMap_append,
      List.flatMap_map]
    simp [spell]
  have hslash : '/' ∉ piece := by
    apply Text.not_mem_of_mem_split '/' text.toList
    rw [hsplit]
    simp
  rcases readSegment_eq_error_iff.mp hpiece with ⟨hsegment, rfl⟩ | ⟨segment, rfl, hle, rfl⟩
  · exact .form hwhole hsmall hslash (ends_flatMap after) hsegment
  · exact .range hwhole hsmall (ends_flatMap after) hle

/-- A path is written as its segments without the zeros in front. -/
theorem chars_of_denotes {axes : List Axis} (h : List.Forall₂ Segment.Denotes segments axes) :
    (Path.mk axes).chars = spell (segments.map Segment.trim) := by
  rw [Path.chars, spell, List.flatMap_map]
  congr 1
  induction h with
  | nil =>
      rfl
  | @cons segment axis segments axes hfirst _ ih =>
      rw [List.flatMap_cons, List.flatMap_cons, ih, Axis.chars, hfirst.1, hfirst.2,
        segment.digits_value]
      rfl

end text

/-- A text is read as a path exactly if it has the form `m(/[0-9]+'?)*` and all its numbers are
below `2³¹`.  The path has these numbers and marks in order, and is written without the zeros in
front; what is written is read as the same path.  Every other text is refused for its leftmost
fault. -/
theorem parse_spell_or_fault :
    (∀ text : String, (∃ path, parse text = .ok path) ↔
      ∃ segments, text.toList = spell segments ∧ Small segments) ∧
    (∀ (text : String) (segments : List Segment) (path : Path),
      text.toList = spell segments → parse text = .ok path →
        List.Forall₂ Segment.Denotes segments path.axes ∧
          path.text.toList = spell (segments.map Segment.trim)) ∧
    (∀ path : Path, parse path.text = .ok path) ∧
    (∀ (text : String) (fault : PathError), parse text = .error fault ↔ Fault text fault) := by
  refine ⟨?read, ?path, parse_text, fun _ _ => ⟨fault_of_parse, parse_of_fault⟩⟩
  case read =>
    intro text
    constructor
    · rintro ⟨path, h⟩
      obtain ⟨segments, hwhole⟩ := exists_spell_of_parse h
      exact ⟨segments, hwhole, small_of_denotes ((parse_eq_ok_iff_of_spell hwhole).mp h)⟩
    · rintro ⟨segments, hwhole, hsmall⟩
      obtain ⟨axes, haxes⟩ := exists_denotes hsmall
      exact ⟨⟨axes⟩, (parse_eq_ok_iff_of_spell hwhole).mpr haxes⟩
  case path =>
    intro text segments path hwhole h
    have hdenotes := (parse_eq_ok_iff_of_spell hwhole).mp h
    refine ⟨hdenotes, ?_⟩
    rw [Path.text, String.toList_ofList]
    exact chars_of_denotes hdenotes

/-- A hardened step whose number has zeros in front. -/
def paddedSeven : Segment := ⟨['0', '0', '7'], true, by decide, List.all_eq_true.mp rfl⟩

/-- The first number that is no longer that of a step. -/
def firstLarge : Segment :=
  ⟨['2', '1', '4', '7', '4', '8', '3', '6', '4', '8'], false, by decide, List.all_eq_true.mp rfl⟩

/-- Zeros are taken off, and a large number is reported although no segment follows it. -/
theorem parse_spell_or_fault_seven :
    (∃ path, parse "m/007'" = .ok path ∧ path.text = "m/7'" ∧ parse path.text = .ok path) ∧
      parse "m/007'/2147483648/x" = .error (.axisOutOfRange 2147483648) := by
  obtain ⟨hread, hpath, htext, hfault⟩ := parse_spell_or_fault
  have hsmall : Small [paddedSeven] := List.forall_mem_singleton.mpr (by decide)
  have hspell : "m/007'".toList = spell [paddedSeven] := by decide
  constructor
  · obtain ⟨path, h⟩ := (hread "m/007'").mpr ⟨[paddedSeven], hspell, hsmall⟩
    obtain ⟨_, hwritten⟩ := hpath "m/007'" [paddedSeven] path hspell h
    refine ⟨path, h, String.toList_injective ?_, htext path⟩
    rw [hwritten]
    decide
  · rw [hfault]
    exact @Fault.range _ [paddedSeven] firstLarge ['/', 'x'] (by decide) hsmall
      (.inr ⟨['x'], rfl⟩) (by decide)

end DidKeys.Path
