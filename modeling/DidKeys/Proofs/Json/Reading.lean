import DidKeys.Proofs.Except
import DidKeys.Proofs.Json.Grammar

/-! # The reader and the texts of values

The reader takes a text of a value off whole, given fuel for each of its characters
(`IsText.reads`), and takes nothing else off (`takes_of_read`).  So a text is a text of one value
only (`IsJson.unique`), and what a decoder makes of it is what it makes of that value
(`IsJson.read_eq`, `read_eq_ok_iff`). -/

namespace DidKeys.Json

section reading
variable {fuel : Nat} {before cs rest : List Char}

/-! ### Blanks in front -/

theorem readValue_skipBlanks (fuel : Nat) (cs : List Char) :
    readValue fuel (skipBlanks cs) = readValue fuel cs := by
  cases fuel with
  | zero => rfl
  | succ fuel => rw [readValue, readValue, skipBlanks_skipBlanks]

theorem readItems_skipBlanks (fuel : Nat) (cs : List Char) :
    readItems fuel (skipBlanks cs) = readItems fuel cs := by
  cases fuel with
  | zero => rfl
  | succ fuel => rw [readItems, readItems, readValue_skipBlanks]

theorem readMembers_skipBlanks (fuel : Nat) (cs : List Char) :
    readMembers fuel (skipBlanks cs) = readMembers fuel cs := by
  cases fuel with
  | zero => rfl
  | succ fuel => rw [readMembers, readMembers, readName, readName, skipBlanks_skipBlanks]

theorem readValue_append (h : Blank before) (cs : List Char) :
    readValue fuel (before ++ cs) = readValue fuel cs := by
  rw [← readValue_skipBlanks, skipBlanks_append h, readValue_skipBlanks]

/-! ### One value -/

theorem readValue_number {literal : List Char} (h : IsLiteral literal) (hrest : Stops rest) :
    readValue (fuel + 1) (literal ++ rest) = some (.number literal, rest) := by
  have hscan := h.scanNumber hrest
  obtain ⟨c, cs, rfl, hfirst⟩ := h.head
  have hblank : isBlank c = false := by
    obtain ⟨_, _, heq, hblank, -⟩ := (IsText.number h).head
    cases heq
    exact hblank
  have hother : ∀ d ∈ ['n', 't', 'f', '"', '[', '\x7b'], c ≠ d := by
    rintro d hd rfl
    rcases hfirst with rfl | hdigit
    · exact absurd hd (by decide)
    · exact not_mem_of_isDigit (by decide) hdigit hd
  rw [List.cons_append] at hscan ⊢
  rw [readValue, skipBlanks_cons hblank]
  split
  case h_7 => rw [hscan]; rfl
  -- in the other arms the first character is one that no literal begins with
  all_goals
    next heq => exact (hother _ (by decide) (List.cons.inj heq).1).elim

theorem readValue_string {spelling : List Char} {vs : List Nat} (h : Spells spelling vs) :
    readValue (fuel + 1) (quote spelling ++ rest) = some (.string spelling, rest) := by
  have hquote : quote spelling ++ rest = '"' :: (spelling ++ '"' :: rest) := by
    simp [quote]
  rw [hquote, readValue, skipBlanks_cons (by decide)]
  show readString (spelling ++ '"' :: rest) = _
  rw [readString, h.scanString]
  rfl

theorem readValue_array_nil {blanks : List Char} (h : Blank blanks) :
    readValue (fuel + 1) ('[' :: (blanks ++ [']']) ++ rest) = some (.array [], rest) := by
  rw [List.cons_append, List.append_assoc, readValue, skipBlanks_cons (by decide)]
  simp only [List.singleton_append, skipBlanks_append_cons h (show isBlank ']' = false by decide)]

theorem readValue_array {c : Char} {tail : List Char} (hcs : skipBlanks cs = c :: tail)
    (hc : c ≠ ']') : readValue (fuel + 1) ('[' :: cs) =
      (readItems fuel cs).map fun (items, rest) => (.array items, rest) := by
  rw [readValue, skipBlanks_cons (by decide), ← readItems_skipBlanks]
  simp only [hcs]
  split
  · next heq => exact absurd (List.cons.inj heq).1 hc
  · rfl

theorem readValue_object_nil {blanks : List Char} (h : Blank blanks) :
    readValue (fuel + 1) ('\x7b' :: (blanks ++ ['\x7d']) ++ rest) = some (.object [], rest) := by
  rw [List.cons_append, List.append_assoc, readValue, skipBlanks_cons (by decide)]
  simp only [List.singleton_append,
    skipBlanks_append_cons h (show isBlank '\x7d' = false by decide)]

theorem readValue_object {c : Char} {tail : List Char} (hcs : skipBlanks cs = c :: tail)
    (hc : c ≠ '\x7d') : readValue (fuel + 1) ('\x7b' :: cs) =
      (readMembers fuel cs).map fun (members, rest) => (.object members, rest) := by
  rw [readValue, skipBlanks_cons (by decide), ← readMembers_skipBlanks]
  simp only [hcs]
  split
  · next heq => exact absurd (List.cons.inj heq).1 hc
  · rfl

/-! ### Texts are taken off -/

/-- Whether the reader takes the characters off as the value, given fuel for each of them. -/
def Reads (value : Json) (chars : List Char) : Prop :=
  ∀ {fuel : Nat} {rest : List Char}, Stops rest → chars.length ≤ fuel →
    readValue fuel (chars ++ rest) = some (value, rest)

/-- The marks behind a value in a list: none of them is a blank or goes on with a number. -/
theorem mark_stops {mark : Char} (h : mark ∈ [',', ']', '\x7d']) :
    isBlank mark = false ∧ ∀ cs, Stops (mark :: cs) := by
  have hmark : isBlank mark = false ∧ Decimal.isDigit mark = false ∧ mark ≠ '.' ∧ mark ≠ 'e' ∧
      mark ≠ 'E' := by
    simp only [List.mem_cons, List.not_mem_nil, or_false] at h
    rcases h with rfl | rfl | rfl <;> decide
  refine ⟨hmark.1, fun cs c hc => ?_⟩
  cases hc
  exact hmark.2

theorem Slot.readValue_text {slot : Slot} (h : Reads slot.value slot.chars)
    (hfuel : slot.chars.length ≤ fuel) (mark : Char) (hmark : mark ∈ [',', ']', '\x7d'])
    (cs : List Char) :
    readValue fuel (slot.text ++ mark :: cs) = some (slot.value, slot.after ++ mark :: cs) := by
  have hstops := slot.after_blank.stops_append ((mark_stops hmark).2 cs)
  rw [Slot.text, List.append_assoc, List.append_assoc, readValue_append slot.before_blank,
    h hstops hfuel]

/-- What follows a slot, once its blanks are skipped. -/
theorem Slot.skipBlanks_after (slot : Slot) (mark : Char) (hmark : mark ∈ [',', ']', '\x7d'])
    (cs : List Char) : skipBlanks (slot.after ++ mark :: cs) = mark :: cs :=
  skipBlanks_append_cons slot.after_blank (mark_stops hmark).1 cs

theorem Slot.length_chars_le (slot : Slot) : slot.chars.length ≤ slot.text.length := by
  simp only [Slot.text, List.length_append]
  omega

theorem readItems_join {slots : List Slot} (nonempty : slots ≠ [])
    (h : ∀ slot ∈ slots, Reads slot.value slot.chars)
    (hfuel : (Text.join ',' (slots.map Slot.text)).length < fuel) :
    readItems fuel (Text.join ',' (slots.map Slot.text) ++ ']' :: rest) =
      some (slots.map Slot.value, rest) := by
  -- each slot takes one unit of fuel, and the mark behind it is the character that pays for it
  induction slots generalizing fuel with
  | nil =>
      exact absurd rfl nonempty
  | cons slot slots ih =>
      obtain ⟨hslot, hslots⟩ := List.forall_mem_cons.mp h
      obtain ⟨fuel, rfl⟩ := Nat.exists_eq_succ_of_ne_zero (Nat.ne_zero_of_lt hfuel)
      have hchars := slot.length_chars_le
      cases slots with
      | nil =>
          have hlength : slot.chars.length ≤ fuel := hchars.trans (Nat.le_of_lt_succ hfuel)
          have hfirst := slot.readValue_text hslot hlength ']' (by decide) rest
          have hafter := slot.skipBlanks_after ']' (by decide) rest
          show readItems (fuel + 1) (slot.text ++ ']' :: rest) = some ([slot.value], rest)
          rw [readItems, hfirst]
          simp only [Option.bind_eq_bind, Option.bind_some, hafter]
      | cons next slots =>
          have hmap : (next :: slots).map Slot.text ≠ [] := List.cons_ne_nil _ _
          rw [List.map_cons, Text.join_cons_of_ne_nil _ _ hmap, List.length_append,
            List.length_cons] at hfuel
          have hlength : slot.chars.length ≤ fuel := by omega
          have hfirst := slot.readValue_text hslot hlength ',' (by decide)
          have hafter := slot.skipBlanks_after ',' (by decide)
          have hmore := @ih fuel (List.cons_ne_nil _ _) hslots (by omega)
          rw [List.map_cons, Text.join_cons_of_ne_nil _ _ hmap, List.append_assoc,
            List.cons_append, readItems, hfirst]
          simp only [Option.bind_eq_bind, Option.bind_some, hafter, hmore]
          rfl

/-! ### Members -/

theorem Member.text_append (member : Member) (cs : List Char) :
    member.text ++ cs = member.before ++ '"' :: (member.name ++ '"' ::
      (member.after ++ ':' :: (member.slot.text ++ cs))) := by
  simp [Member.text, quote]

theorem Member.readName_text (member : Member) (cs : List Char) :
    readName (member.text ++ cs) = some (member.name, member.slot.text ++ cs) := by
  obtain ⟨vs, hspells⟩ := member.name_spelled
  rw [member.text_append, readName, skipBlanks_append_cons member.before_blank (by decide)]
  simp only [hspells.scanString, Option.bind_eq_bind, Option.bind_some,
    skipBlanks_append_cons member.after_blank (show isBlank ':' = false by decide)]

theorem Member.length_text_lt (member : Member) :
    member.slot.text.length < member.text.length := by
  simp only [Member.text, List.length_append, List.length_cons]
  omega

theorem readMembers_join {members : List Member} (nonempty : members ≠ [])
    (h : ∀ member ∈ members, Reads member.slot.value member.slot.chars)
    (hfuel : (Text.join ',' (members.map Member.text)).length < fuel) :
    readMembers fuel (Text.join ',' (members.map Member.text) ++ '\x7d' :: rest) =
      some (members.map Member.entry, rest) := by
  induction members generalizing fuel with
  | nil =>
      exact absurd rfl nonempty
  | cons member members ih =>
      obtain ⟨hmember, hmembers⟩ := List.forall_mem_cons.mp h
      obtain ⟨fuel, rfl⟩ := Nat.exists_eq_succ_of_ne_zero (Nat.ne_zero_of_lt hfuel)
      have hchars := member.slot.length_chars_le.trans member.length_text_lt.le
      cases members with
      | nil =>
          have hlength : member.slot.chars.length ≤ fuel := hchars.trans (Nat.le_of_lt_succ hfuel)
          have hname := member.readName_text ('\x7d' :: rest)
          have hvalue := member.slot.readValue_text hmember hlength '\x7d' (by decide) rest
          have hafter := member.slot.skipBlanks_after '\x7d' (by decide) rest
          show readMembers (fuel + 1) (member.text ++ '\x7d' :: rest) = some ([member.entry], rest)
          rw [readMembers, hname]
          simp only [Option.bind_eq_bind, Option.bind_some, hvalue, hafter]
          rfl
      | cons next members =>
          have hmap : (next :: members).map Member.text ≠ [] := List.cons_ne_nil _ _
          rw [List.map_cons, Text.join_cons_of_ne_nil _ _ hmap, List.length_append,
            List.length_cons] at hfuel
          have hlength : member.slot.chars.length ≤ fuel := by omega
          have hvalue := member.slot.readValue_text hmember hlength ',' (by decide)
          have hafter := member.slot.skipBlanks_after ',' (by decide)
          have hmore := @ih fuel (List.cons_ne_nil _ _) hmembers (by omega)
          rw [List.map_cons, Text.join_cons_of_ne_nil _ _ hmap, List.append_assoc,
            List.cons_append, readMembers, member.readName_text]
          simp only [Option.bind_eq_bind, Option.bind_some, hvalue, hafter, hmore]
          rfl

/-! ### Any value -/

theorem Slot.skipBlanks_text {slot : Slot} (h : IsText slot.value slot.chars) (cs : List Char) :
    ∃ c tail, skipBlanks (slot.text ++ cs) = c :: tail ∧ c ≠ ']' := by
  obtain ⟨c, tail, hchars, hblank, hc⟩ := h.head
  refine ⟨c, tail ++ (slot.after ++ cs), ?_, hc⟩
  rw [Slot.text, hchars, List.append_assoc, List.cons_append, List.cons_append, List.append_assoc,
    skipBlanks_append_cons slot.before_blank hblank]

theorem Member.skipBlanks_text (member : Member) (cs : List Char) :
    ∃ tail, skipBlanks (member.text ++ cs) = '"' :: tail := by
  rw [member.text_append, skipBlanks_append_cons member.before_blank (by decide)]
  exact ⟨_, rfl⟩

/-- A value with characters needs fuel. -/
theorem reads_of_succ {value : Json} {chars : List Char} (hne : chars ≠ [])
    (h : ∀ {fuel : Nat} {rest : List Char}, Stops rest → chars.length ≤ fuel + 1 →
      readValue (fuel + 1) (chars ++ rest) = some (value, rest)) : Reads value chars := by
  intro fuel rest hrest hfuel
  cases fuel with
  | zero => exact absurd (List.eq_nil_of_length_eq_zero (Nat.le_zero.mp hfuel)) hne
  | succ fuel => exact h hrest hfuel

/-- A text of a value is taken off whole. -/
theorem IsText.reads {value : Json} {chars : List Char} (h : IsText value chars) :
    Reads value chars := by
  -- an array takes a unit more than its items, and an object than its members: the first bracket
  induction h with
  | null | bool_true | bool_false =>
      exact reads_of_succ (List.cons_ne_nil _ _) fun _ _ => rfl
  | number is_literal =>
      refine reads_of_succ ?_ fun hrest _ => readValue_number is_literal hrest
      obtain ⟨c, cs, rfl, -⟩ := is_literal.head
      exact List.cons_ne_nil _ _
  | string spells =>
      exact reads_of_succ (List.cons_ne_nil _ _) fun _ _ => readValue_string spells
  | array_nil blank =>
      exact reads_of_succ (List.cons_ne_nil _ _) fun _ _ => readValue_array_nil blank
  | object_nil blank =>
      exact reads_of_succ (List.cons_ne_nil _ _) fun _ _ => readValue_object_nil blank
  | array slots nonempty texts ih =>
      refine reads_of_succ (List.cons_ne_nil _ _) @fun fuel rest _ hfuel => ?_
      rw [List.length_cons, List.length_append, List.length_singleton] at hfuel
      have hitems := @readItems_join fuel rest slots nonempty ih (by omega)
      obtain ⟨slot, slots, rfl⟩ := List.exists_cons_of_ne_nil nonempty
      have hfirst := texts slot List.mem_cons_self
      rw [List.cons_append, List.append_assoc, List.singleton_append]
      rw [List.map_cons, Text.join_cons, List.append_assoc] at hitems ⊢
      obtain ⟨c, tail, hskip, hc⟩ := slot.skipBlanks_text hfirst _
      rw [readValue_array hskip hc, hitems]
      rfl
  | object members nonempty texts ih =>
      refine reads_of_succ (List.cons_ne_nil _ _) @fun fuel rest _ hfuel => ?_
      rw [List.length_cons, List.length_append, List.length_singleton] at hfuel
      have hmembers := @readMembers_join fuel rest members nonempty ih (by omega)
      obtain ⟨member, members, rfl⟩ := List.exists_cons_of_ne_nil nonempty
      rw [List.cons_append, List.append_assoc, List.singleton_append]
      rw [List.map_cons, Text.join_cons, List.append_assoc] at hmembers ⊢
      obtain ⟨tail, hskip⟩ := member.skipBlanks_text _
      rw [readValue_object hskip (by decide), hmembers]
      rfl

/-! ### Nothing else is taken off -/

/-- What the reader has taken off if it took a value off. -/
def TakesValue (cs : List Char) (value : Json) (rest : List Char) : Prop :=
  ∃ before chars, Blank before ∧ IsText value chars ∧ cs = before ++ (chars ++ rest)

/-- What the reader has taken off if it took the items of an array off. -/
def TakesItems (cs : List Char) (items : List Json) (rest : List Char) : Prop :=
  ∃ slots : List Slot, slots ≠ [] ∧ (∀ slot ∈ slots, IsText slot.value slot.chars) ∧
    slots.map Slot.value = items ∧ cs = Text.join ',' (slots.map Slot.text) ++ ']' :: rest

/-- What the reader has taken off if it took the members of an object off. -/
def TakesMembers (cs : List Char) (entries : List (List Char × Json)) (rest : List Char) : Prop :=
  ∃ members : List Member, members ≠ [] ∧
    (∀ member ∈ members, IsText member.slot.value member.slot.chars) ∧
    members.map Member.entry = entries ∧
    cs = Text.join ',' (members.map Member.text) ++ '\x7d' :: rest

theorem takesValue_of_readValue {value : Json}
    (hitems : ∀ {cs items rest}, readItems fuel cs = some (items, rest) → TakesItems cs items rest)
    (hmembers : ∀ {cs entries rest}, readMembers fuel cs = some (entries, rest) →
      TakesMembers cs entries rest)
    (h : readValue (fuel + 1) cs = some (value, rest)) : TakesValue cs value rest := by
  obtain ⟨before, hbefore, hcs⟩ := exists_blank_append cs
  suffices hchars : ∃ chars, IsText value chars ∧ skipBlanks cs = chars ++ rest by
    obtain ⟨chars, htext, hskip⟩ := hchars
    exact ⟨before, chars, hbefore, htext, hskip ▸ hcs⟩
  rw [readValue] at h
  split at h
  · next heq =>
    cases h
    exact ⟨_, .null, heq⟩
  · next heq =>
    cases h
    exact ⟨_, .bool_true, heq⟩
  · next heq =>
    cases h
    exact ⟨_, .bool_false, heq⟩
  · next tail heq =>
    obtain ⟨⟨spelling, _⟩, hscan, h⟩ := Option.map_eq_some_iff.mp h
    cases h
    obtain ⟨rfl, vs, hspells⟩ := spells_of_scanString hscan
    exact ⟨_, .string hspells, by rw [heq]; simp [quote]⟩
  · next tail heq =>
    obtain ⟨blanks, hblanks, htail⟩ := exists_blank_append tail
    split at h
    · next hskip =>
      cases h
      refine ⟨_, .array_nil hblanks, ?_⟩
      rw [heq, List.cons_append, List.append_assoc, htail, hskip]
      rfl
    · rw [readItems_skipBlanks] at h
      obtain ⟨⟨items, _⟩, hread, h⟩ := Option.map_eq_some_iff.mp h
      cases h
      obtain ⟨slots, nonempty, texts, rfl, rfl⟩ := hitems hread
      refine ⟨_, .array slots nonempty texts, ?_⟩
      rw [heq, List.cons_append, List.append_assoc]
      rfl
  · next tail heq =>
    obtain ⟨blanks, hblanks, htail⟩ := exists_blank_append tail
    split at h
    · next hskip =>
      cases h
      refine ⟨_, .object_nil hblanks, ?_⟩
      rw [heq, List.cons_append, List.append_assoc, htail, hskip]
      rfl
    · rw [readMembers_skipBlanks] at h
      obtain ⟨⟨entries, _⟩, hread, h⟩ := Option.map_eq_some_iff.mp h
      cases h
      obtain ⟨members, nonempty, texts, rfl, rfl⟩ := hmembers hread
      refine ⟨_, .object members nonempty texts, ?_⟩
      rw [heq, List.cons_append, List.append_assoc]
      rfl
  · obtain ⟨⟨literal, _⟩, hscan, h⟩ := Option.map_eq_some_iff.mp h
    cases h
    obtain ⟨hskip, hliteral⟩ := isLiteral_of_scanNumber hscan
    exact ⟨_, .number hliteral, hskip⟩

theorem takesItems_of_readItems {items : List Json}
    (hvalue : ∀ {cs value rest}, readValue fuel cs = some (value, rest) → TakesValue cs value rest)
    (hitems : ∀ {cs items rest}, readItems fuel cs = some (items, rest) → TakesItems cs items rest)
    (h : readItems (fuel + 1) cs = some (items, rest)) : TakesItems cs items rest := by
  rw [readItems] at h
  obtain ⟨⟨item, tail⟩, hread, hnext⟩ := Option.bind_eq_some_iff.mp h
  obtain ⟨before, chars, hbefore, htext, rfl⟩ := hvalue hread
  obtain ⟨after, hafter, htail⟩ := exists_blank_append tail
  let slot : Slot := ⟨before, item, chars, after, hbefore, hafter⟩
  dsimp only at hnext
  split at hnext
  · next more hskip =>
    obtain ⟨⟨items, _⟩, hmore, heq⟩ := Option.map_eq_some_iff.mp hnext
    cases heq
    obtain ⟨slots, nonempty, texts, rfl, rfl⟩ := hitems hmore
    refine ⟨slot :: slots, List.cons_ne_nil _ _, List.forall_mem_cons.mpr ⟨htext, texts⟩, rfl, ?_⟩
    have hmap : slots.map Slot.text ≠ [] := mt List.map_eq_nil_iff.mp nonempty
    rw [htail, hskip, List.map_cons, Text.join_cons_of_ne_nil _ _ hmap]
    simp only [slot, Slot.text, List.append_assoc, List.cons_append]
  · next hskip =>
    cases hnext
    refine ⟨[slot], List.cons_ne_nil _ _, List.forall_mem_singleton.mpr htext, rfl, ?_⟩
    rw [htail, hskip]
    simp only [slot, Slot.text, List.map_cons, List.map_nil, Text.join, List.append_assoc]
  · cases hnext

/-- The name of a member is behind blanks and before blanks and a colon. -/
theorem exists_of_readName {name : List Char} (h : readName cs = some (name, rest)) :
    ∃ before after, Blank before ∧ Blank after ∧ (∃ vs, Spells name vs) ∧
      cs = before ++ (quote name ++ (after ++ ':' :: rest)) := by
  obtain ⟨before, hbefore, hcs⟩ := exists_blank_append cs
  unfold readName at h
  split at h
  · next tail hskip =>
    obtain ⟨⟨spelling, more⟩, hscan, hnext⟩ := Option.bind_eq_some_iff.mp h
    obtain ⟨rfl, hspells⟩ := spells_of_scanString hscan
    obtain ⟨after, hafter, hmore⟩ := exists_blank_append more
    dsimp only at hnext
    split at hnext
    · next hcolon =>
      cases hnext
      refine ⟨before, after, hbefore, hafter, hspells, ?_⟩
      rw [hcs, hskip, hmore, hcolon]
      simp [quote]
    · cases hnext
  · cases h

theorem takesMembers_of_readMembers {entries : List (List Char × Json)}
    (hvalue : ∀ {cs value rest}, readValue fuel cs = some (value, rest) → TakesValue cs value rest)
    (hmembers : ∀ {cs entries rest}, readMembers fuel cs = some (entries, rest) →
      TakesMembers cs entries rest)
    (h : readMembers (fuel + 1) cs = some (entries, rest)) : TakesMembers cs entries rest := by
  rw [readMembers] at h
  obtain ⟨⟨name, behind⟩, hname, hrest⟩ := Option.bind_eq_some_iff.mp h
  dsimp only at hrest
  obtain ⟨⟨value, tail⟩, hread, hnext⟩ := Option.bind_eq_some_iff.mp hrest
  obtain ⟨front, colon, hfront, hcolon, hspells, rfl⟩ := exists_of_readName hname
  obtain ⟨before, chars, hbefore, htext, rfl⟩ := hvalue hread
  obtain ⟨after, hafter, htail⟩ := exists_blank_append tail
  let slot : Slot := ⟨before, value, chars, after, hbefore, hafter⟩
  let member : Member := ⟨front, name, colon, slot, hfront, hcolon, hspells⟩
  dsimp only at hnext
  split at hnext
  · next more hskip =>
    obtain ⟨⟨entries, _⟩, hmore, heq⟩ := Option.map_eq_some_iff.mp hnext
    cases heq
    obtain ⟨members, nonempty, texts, rfl, rfl⟩ := hmembers hmore
    refine ⟨member :: members, List.cons_ne_nil _ _, List.forall_mem_cons.mpr ⟨htext, texts⟩,
      rfl, ?_⟩
    have hmap : members.map Member.text ≠ [] := mt List.map_eq_nil_iff.mp nonempty
    rw [htail, hskip, List.map_cons, Text.join_cons_of_ne_nil _ _ hmap]
    simp only [member, slot, Member.text, Slot.text, List.append_assoc, List.cons_append]
  · next hskip =>
    cases hnext
    refine ⟨[member], List.cons_ne_nil _ _, List.forall_mem_singleton.mpr htext, rfl, ?_⟩
    rw [htail, hskip]
    simp only [member, slot, Member.text, Slot.text, List.map_cons, List.map_nil, Text.join,
      List.append_assoc, List.cons_append]
  · cases hnext

/-- What the reader takes off, at any fuel. -/
theorem takes_of_read (fuel : Nat) :
    (∀ {cs value rest}, readValue fuel cs = some (value, rest) → TakesValue cs value rest) ∧
      (∀ {cs items rest}, readItems fuel cs = some (items, rest) → TakesItems cs items rest) ∧
      ∀ {cs entries rest}, readMembers fuel cs = some (entries, rest) →
        TakesMembers cs entries rest := by
  -- the three readers call each other with one unit less, so one induction covers them all
  induction fuel with
  | zero =>
      exact ⟨(nomatch ·), (nomatch ·), (nomatch ·)⟩
  | succ fuel ih =>
      obtain ⟨hvalue, hitems, hmembers⟩ := ih
      exact ⟨takesValue_of_readValue hitems hmembers, takesItems_of_readItems hvalue hitems,
        takesMembers_of_readMembers hvalue hmembers⟩

/-! ### Decoding -/

/-- The value of a text, and the blanks that the reader leaves behind it. -/
theorem IsJson.readFirst {value : Json} (h : IsJson cs value) :
    ∃ rest, Blank rest ∧ readFirst cs = some (value, rest) := by
  obtain ⟨slot, rfl, htext, rfl⟩ := h
  refine ⟨slot.after, slot.after_blank, ?_⟩
  have hstops : Stops slot.after := by
    have happend := slot.after_blank.stops_append stops_nil
    rwa [List.append_nil] at happend
  have hlength := slot.length_chars_le
  rw [Json.readFirst, Slot.text, readValue_append slot.before_blank]
  exact htext.reads hstops (by simp only [List.length_append]; omega)

theorem isJson_of_readFirst {value : Json} (h : readFirst cs = some (value, rest))
    (hrest : Blank rest) : IsJson cs value := by
  obtain ⟨before, chars, hbefore, htext, rfl⟩ := (takes_of_read _).1 h
  exact ⟨⟨before, value, chars, rest, hbefore, hrest⟩, rfl, htext, rfl⟩

/-- A text is a text of one value only. -/
theorem IsJson.unique {value other : Json} (h : IsJson cs value) (hother : IsJson cs other) :
    value = other := by
  obtain ⟨rest, -, hread⟩ := h.readFirst
  obtain ⟨rest', -, hread'⟩ := hother.readFirst
  rw [hread, Option.some.injEq, Prod.mk.injEq] at hread'
  exact hread'.1

variable {ε α : Type} {decode : Json → Except (ReadError ε) α} {text : String}

/-- A text of a value is decoded as the value is. -/
theorem IsJson.read_eq {value : Json} (h : IsJson text.toList value) :
    read decode text = decode value := by
  obtain ⟨rest, hrest, hfirst⟩ := h.readFirst
  rw [read, hfirst]
  simp only [if_pos (skipBlanks_eq_nil_iff.mpr hrest)]
  cases decode value <;> rfl

/-- A text is decoded exactly if it is a text of a value that is. -/
theorem read_eq_ok_iff {a : α} :
    read decode text = .ok a ↔ ∃ value, IsJson text.toList value ∧ decode value = .ok a := by
  constructor
  · intro h
    unfold read at h
    split at h
    · cases h
    · next value rest hfirst =>
      obtain ⟨b, hdecode, hend⟩ := bind_eq_ok_iff.mp h
      split at hend
      · next hrest =>
        cases hend
        exact ⟨value, isJson_of_readFirst hfirst (skipBlanks_eq_nil_iff.mp hrest), hdecode⟩
      · cases hend
  · rintro ⟨value, hjson, hdecode⟩
    rw [hjson.read_eq, hdecode]

end reading
end DidKeys.Json
