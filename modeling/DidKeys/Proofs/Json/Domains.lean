import DidKeys.Derivation.Json
import DidKeys.Did.Basic
import DidKeys.Hash.Json
import DidKeys.Proofs.Derivation.PathText
import DidKeys.Proofs.Json.Reading
import DidKeys.Proofs.Json.Record
import Mathlib.Algebra.Group.Nat.Defs

/-! # Steps, paths, identifiers and digests in JSON

A text is read as a step exactly if it is a record of a number of steps and a mark, and as a path or
an identifier exactly if it is a string whose content is parsed as one.  Each of them, and each
digest, comes back from JSON in every layout (`readJson_validates`).

* `Axis.IsRecordOf` and `Json.IsStringOf` say which texts these are, by the texts of values.
* `Axis.readJson_of_le`: a number of 32 bits that is none of a step is refused with its cause, whose
  message is told as it is (`Axis.reason?_axisOutOfRange`).
* `Json.read_string_eq_ok_iff` covers whatever is parsed from strings. -/

namespace DidKeys

/-! ### Strings -/

namespace Json

/-- A text that is one string, and the content of the string. -/
def IsStringOf (content text : String) : Prop :=
  ∃ spelling, IsJson text.toList (.string spelling) ∧ Means spelling content

section strings
variable {ε α : Type} {a : α} {value : Json} {text content : String}

theorem demand_eq_ok_iff {wanted : Option α} :
    (demand wanted : Except (ReadError ε) α) = .ok a ↔ wanted = some a := by
  cases wanted with
  | none => exact iff_of_false nofun nofun
  | some b =>
      exact ⟨fun h => congrArg some (Except.ok.inj h), fun h => congrArg _ (Option.some.inj h)⟩

theorem nat?_eq_some_iff {bound n : Nat} :
    value.nat? bound = some n ↔
      ∃ literal, value = .number literal ∧ Decimal.value? literal = some n ∧ n < bound := by
  cases value with
  | number literal =>
      rw [nat?, Option.filter_eq_some_iff, decide_eq_true_iff]
      constructor
      · exact fun h => ⟨literal, rfl, h⟩
      · rintro ⟨_, ⟨⟩, h⟩
        exact h
  | null | bool | string | array | object => simp [nat?]

theorem bool?_eq_some_iff {b : Bool} : value.bool? = some b ↔ value = .bool b := by
  cases value with
  | bool c =>
      exact ⟨fun h => congrArg _ (Option.some.inj h), fun h => congrArg _ (Json.bool.inj h)⟩
  | null | number | string | array | object => simp [bool?]

theorem text?_eq_some_iff (h : WellSpelled value) :
    value.text? = some content ↔ ∃ spelling, value = .string spelling ∧ Means spelling content := by
  cases h with
  | @string spelling vs spells =>
      rw [text?, Option.map_eq_some_iff]
      constructor
      · rintro ⟨cs, hread, rfl⟩
        refine ⟨spelling, rfl, (means_iff ⟨vs, spells⟩).mpr ?_⟩
        rw [hread, String.toList_ofList]
      · rintro ⟨_, ⟨⟩, hmeans⟩
        exact ⟨_, (means_iff ⟨vs, spells⟩).mp hmeans, String.ofList_toList⟩
  | null | bool | number | array | object => simp [text?]

/-- A number is written in one way only. -/
theorem nat?_eq_some_iff_of_wellSpelled {bound n : Nat} (h : WellSpelled value) :
    value.nat? bound = some n ↔ value = .nat n ∧ n < bound := by
  rw [nat?_eq_some_iff]
  constructor
  · rintro ⟨literal, rfl, hvalue, hlt⟩
    cases h with
    | number is_literal => exact ⟨congrArg Json.number (is_literal.eq_digits hvalue), hlt⟩
  · rintro ⟨rfl, hlt⟩
    exact ⟨Decimal.digits n, rfl, Decimal.value?_digits n, hlt⟩

theorem items?_eq_some_iff {items : List Json} :
    value.items? = some items ↔ value = .array items := by
  cases value with
  | array found =>
      exact ⟨fun h => congrArg _ (Option.some.inj h), fun h => congrArg _ (Json.array.inj h)⟩
  | null | bool | number | string | object => simp [items?]

/-- A list of values are texts exactly if each of them spells one. -/
theorem mapM_text?_eq_some_iff {items : List Json} {texts : List String}
    (h : ∀ item ∈ items, WellSpelled item) :
    items.mapM text? = some texts ↔
      ∃ spellings, items = spellings.map Json.string ∧ List.Forall₂ Means spellings texts := by
  rw [mapM_eq_some_iff]
  constructor
  · intro htexts
    induction htexts with
    | nil => exact ⟨[], rfl, .nil⟩
    | cons htext _ ih =>
        obtain ⟨hitem, hitems⟩ := List.forall_mem_cons.mp h
        obtain ⟨spelling, rfl, hmeans⟩ := (text?_eq_some_iff hitem).mp htext
        obtain ⟨spellings, rfl, hall⟩ := ih hitems
        exact ⟨spelling :: spellings, rfl, .cons hmeans hall⟩
  · rintro ⟨spellings, rfl, hall⟩
    rw [List.forall₂_map_left_iff]
    refine hall.imp fun spelling text hmeans => ?_
    have hspelled : WellSpelled (.string spelling) := hmeans.elim fun _ h => .string h.1
    exact (text?_eq_some_iff hspelled).mpr ⟨spelling, rfl, hmeans⟩

/-- What is parsed from strings is read from a text exactly if the text is a string of something
that is parsed so. -/
theorem read_string_eq_ok_iff {parse : String → Except ε α} :
    read (fun value => do judge (parse (← demand value.text?))) text = .ok a ↔
      ∃ content, IsStringOf content text ∧ parse content = .ok a := by
  rw [read_eq_ok_iff]
  constructor
  · rintro ⟨value, hjson, hdecode⟩
    obtain ⟨content, htext, hjudge⟩ := bind_eq_ok_iff.mp hdecode
    obtain ⟨spelling, rfl, hmeans⟩ :=
      (text?_eq_some_iff hjson.wellSpelled).mp (demand_eq_ok_iff.mp htext)
    exact ⟨content, ⟨spelling, hjson, hmeans⟩, mapError_eq_ok_iff.mp hjudge⟩
  · rintro ⟨content, ⟨spelling, hjson, hmeans⟩, hparse⟩
    have htext := (text?_eq_some_iff hjson.wellSpelled).mpr ⟨spelling, rfl, hmeans⟩
    exact ⟨_, hjson, bind_eq_ok_iff.mpr ⟨content, demand_eq_ok_iff.mpr htext,
      mapError_eq_ok_iff.mpr hparse⟩⟩

/-- A text is a string of one content only. -/
theorem IsStringOf.unique {other : String} (h : IsStringOf content text)
    (hother : IsStringOf other text) : content = other := by
  obtain ⟨spelling, hjson, hmeans⟩ := h
  obtain ⟨spelling', hjson', hmeans'⟩ := hother
  obtain rfl := Json.string.inj (hjson.unique hjson')
  have hspelled : ∃ vs, Spells spelling vs := hmeans.imp fun _ h => h.1
  have hread := (means_iff hspelled).mp hmeans
  rw [(means_iff hspelled).mp hmeans', Option.some.injEq] at hread
  exact (String.toList_injective hread).symm

theorem isStringOf_write (content : String) (layout : Layout) :
    IsStringOf content (write layout (.text content)) :=
  ⟨_, (wellSpelled_text content).isJson_write layout, means_escape content⟩

end strings

/-! ### Reasons -/

theorem dropNumeral?_concat (cs : List Char) {c : Char} (hc : Decimal.isDigit c = false) :
    dropNumeral? (cs ++ [c]) = none := by
  rw [dropNumeral?, List.reverse_concat, List.takeWhile_cons_of_neg (by rw [hc]; decide)]
  rfl

/-- A message that does not end in a digit is told as it is. -/
theorem withoutPosition_append {front back : String} {cs : List Char} {c : Char}
    (h : back.toList = cs ++ [c]) (hc : Decimal.isDigit c = false) :
    withoutPosition (front ++ back) = front ++ back := by
  rw [withoutPosition, String.toList_append, h, ← List.append_assoc, dropPosition?,
    dropNumeral?_concat _ hc]
  rfl

end Json

/-! ### Steps -/

namespace Axis

/-- A text that is a record of a numeral and a mark. -/
def IsRecordOf (literal : List Char) (hardened : Bool) (text : String) : Prop :=
  ∃ value, Json.IsJson text.toList value ∧
    Json.IsRecord value ["number", "hardened"] [.number literal, .bool hardened]

section steps
variable {text : String} {literal : List Char} {hardened : Bool} {number : Nat}

/-- The step of a record is judged by its number. -/
theorem IsRecordOf.readJson_eq (h : IsRecordOf literal hardened text)
    (hvalue : Decimal.value? literal = some number) (hlt : number < UInt32.size) :
    readJson text = Json.judge (ofNumber number hardened) := by
  obtain ⟨value, hjson, hrecord⟩ := h
  have hfields := (Json.allFields?_eq_some_iff hjson.wellSpelled).mpr hrecord
  have hnumber : (Json.number literal).nat? UInt32.size = some number := by
    rw [Json.nat?, hvalue, Option.filter_some, if_pos (decide_eq_true hlt)]
  rw [readJson, hjson.read_eq, ofJson, hfields]
  show (do
    let number ← Json.demand ((Json.number literal).nat? UInt32.size)
    Json.judge (ofNumber number hardened)) = _
  rw [hnumber]
  rfl

theorem readJson_eq_ok_iff {axis : Axis} :
    readJson text = .ok axis ↔ ∃ literal, IsRecordOf literal axis.hardened text ∧
      Decimal.value? literal = some axis.number := by
  constructor
  · intro h
    obtain ⟨value, hjson, hdecode⟩ := Json.read_eq_ok_iff.mp h
    obtain ⟨fields, hfields, hjudged⟩ := bind_eq_ok_iff.mp hdecode
    have hrecord := (Json.allFields?_eq_some_iff hjson.wellSpelled).mp
      (Json.demand_eq_ok_iff.mp hfields)
    split at hjudged
    · obtain ⟨number, hnumber, hrest⟩ := bind_eq_ok_iff.mp hjudged
      obtain ⟨hardened, hhardened, hstep⟩ := bind_eq_ok_iff.mp hrest
      obtain ⟨literal, rfl, hvalue, -⟩ :=
        Json.nat?_eq_some_iff.mp (Json.demand_eq_ok_iff.mp hnumber)
      obtain rfl := Json.bool?_eq_some_iff.mp (Json.demand_eq_ok_iff.mp hhardened)
      obtain ⟨rfl, rfl⟩ := number_of_ofNumber (mapError_eq_ok_iff.mp hstep)
      exact ⟨literal, ⟨value, hjson, hrecord⟩, hvalue⟩
    · cases hjudged
  · rintro ⟨literal, hrecord, hvalue⟩
    have hlt : axis.number < UInt32.size := axis.number_lt.trans (by decide)
    rw [hrecord.readJson_eq hvalue hlt, ofNumber, ofNumber?_number]
    rfl

/-- A number of 32 bits that is none of a step is told as such. -/
theorem readJson_of_le (h : IsRecordOf literal hardened text)
    (hvalue : Decimal.value? literal = some number) (hle : hardenedBit ≤ number)
    (hlt : number < UInt32.size) :
    readJson text = .error (.refused (.axisOutOfRange number)) := by
  rw [h.readJson_eq hvalue hlt, ofNumber, ofNumber?, dif_neg (Nat.not_lt.mpr hle)]
  rfl

theorem reason?_axisOutOfRange (number : Nat) :
    (Json.ReadError.refused (PathError.axisOutOfRange number)).reason? PathError.message =
      some (PathError.axisOutOfRange number).message := by
  have hend : " is out of range (must be below 2^31)".toList =
      " is out of range (must be below 2^31".toList ++ [')'] := by
    decide
  exact congrArg some (Json.withoutPosition_append hend (by decide))

/-- The record of a step is read as the step. -/
theorem readJson_write (layout : Json.Layout) (axis : Axis) :
    readJson (Json.write layout axis.toJson) = .ok axis := by
  have hspelled : axis.toJson.WellSpelled := Json.wellSpelled_record (by simp)
  have hfields : axis.toJson.allFields? ["number", "hardened"] =
      some [.nat axis.number, .bool axis.hardened] :=
    Json.allFields?_record rfl (by decide)
  exact readJson_eq_ok_iff.mpr ⟨Decimal.digits axis.number, ⟨axis.toJson,
    hspelled.isJson_write layout, (Json.allFields?_eq_some_iff hspelled).mp hfields⟩,
    Decimal.value?_digits _⟩

end steps
end Axis

/-! ### Identifiers and digests -/

/-- An identifier that was parsed is parsed from its own text. -/
theorem Did.parse_value {text : String} {did : Did} (h : parse text = .ok did) :
    parse did.value = .ok did := by
  have hparsed := h
  unfold parse at h
  split at h
  · split at h
    · cases h
      exact hparsed
    · cases h
  · cases h

namespace Digest

theorem byteOfJson?_nat (b : UInt8) : byteOfJson? (.nat b.toNat) = some b := by
  rw [byteOfJson?, Json.nat?_nat b.toNat_lt, Option.map_some, UInt8.ofNat_toNat]

theorem readJson_write (layout : Json.Layout) (digest : Digest) :
    readJson (Json.write layout digest.toJson) = .ok digest := by
  have hbytes := Json.wellSpelled_array_map (fun b : UInt8 => Json.wellSpelled_nat b.toNat)
    digest.bytes
  have hspelled : digest.toJson.WellSpelled :=
    Json.wellSpelled_record (List.forall_mem_singleton.mpr hbytes)
  have hfields : digest.toJson.allFields? ["value"] =
      some [.array (digest.bytes.map fun b => .nat b.toNat)] :=
    Json.allFields?_record rfl (by decide)
  have hread : (digest.bytes.map fun b => Json.nat b.toNat).mapM byteOfJson? =
      some digest.bytes :=
    mapM_map byteOfJson?_nat digest.bytes
  rw [readJson, (hspelled.isJson_write layout).read_eq]
  simp only [ofJson?, hfields, Option.bind_eq_bind, Option.bind_some, Json.items?, hread,
    ofBytes?_bytes]
  rfl

end Digest

/-! ### All of them -/

/-- Reading goes through the checks of each domain, and undoes writing. -/
theorem readJson_validates :
    (∀ (text : String) (axis : Axis), Axis.readJson text = .ok axis ↔
      axis.number < 2 ^ 31 ∧ ∃ literal, Axis.IsRecordOf literal axis.hardened text ∧
        Decimal.value? literal = some axis.number) ∧
    (∀ (text : String) (literal : List Char) (hardened : Bool) (number : Nat),
      Axis.IsRecordOf literal hardened text → Decimal.value? literal = some number →
        2 ^ 31 ≤ number → number < 2 ^ 32 → ∃ e, Axis.readJson text = .error e ∧
          e.reason? PathError.message = some (PathError.axisOutOfRange number).message) ∧
    (∀ (text : String) (path : Path), Path.readJson text = .ok path ↔
      ∃ content, Json.IsStringOf content text ∧ Path.parse content = .ok path) ∧
    (∀ (text : String) (did : Did), Did.readJson text = .ok did ↔
      ∃ content, Json.IsStringOf content text ∧ Did.parse content = .ok did) ∧
    ∀ layout : Json.Layout,
      (∀ axis : Axis, Axis.readJson (Json.write layout axis.toJson) = .ok axis) ∧
      (∀ path : Path, Path.readJson (Json.write layout path.toJson) = .ok path) ∧
      (∀ (text : String) (did : Did), Did.parse text = .ok did →
        Did.readJson (Json.write layout did.toJson) = .ok did) ∧
      ∀ digest : Digest, Digest.readJson (Json.write layout digest.toJson) = .ok digest := by
  refine ⟨fun text axis => ?_, fun text literal hardened number hrecord hvalue hle hlt => ?_,
    fun text path => Json.read_string_eq_ok_iff, fun text did => Json.read_string_eq_ok_iff,
    fun layout => ⟨Axis.readJson_write layout, fun path => ?_, fun text did hparse => ?_,
      Digest.readJson_write layout⟩⟩
  · rw [Axis.readJson_eq_ok_iff]
    exact (and_iff_right axis.number_lt).symm
  · exact ⟨_, Axis.readJson_of_le hrecord hvalue hle hlt, Axis.reason?_axisOutOfRange number⟩
  · exact Json.read_string_eq_ok_iff.mpr
      ⟨_, Json.isStringOf_write path.text layout, path.parse_text⟩
  · exact Json.read_string_eq_ok_iff.mpr
      ⟨_, Json.isStringOf_write did.value layout, Did.parse_value hparse⟩

/-- A record with its fields in another order, one that is not asked for among them, and the first
number that is too large; and an identifier for tests. -/
theorem readJson_validates_reversed :
    (∃ e, Axis.readJson (Json.compact (.record [("note", .text "\""), ("hardened", .bool false),
        ("number", .nat 2147483648)])) = .error e ∧
      e.reason? PathError.message = some (PathError.axisOutOfRange 2147483648).message) ∧
    Did.readJson (Json.indented (.text "did:test:a:b")) = .ok ⟨"did:test:a:b"⟩ := by
  obtain ⟨_, hrefused, _, _, hback⟩ := readJson_validates
  have hspelled : (Json.record [("note", .text "\""), ("hardened", .bool false),
      ("number", .nat 2147483648)]).WellSpelled := Json.wellSpelled_record (by simp)
  have hrecord := @Json.isRecord_record [("note", .text "\""), ("hardened", .bool false),
    ("number", .nat 2147483648)] [("number", .nat 2147483648), ("hardened", .bool false)]
    (show ["note", "hardened", "number"].Nodup by decide) (by simp)
  exact ⟨hrefused _ _ false 2147483648 ⟨_, hspelled.isJson_write .compact, hrecord⟩
    (Decimal.value?_digits _) (by decide) (by decide),
    (hback .indented).2.2.1 "did:test:a:b" ⟨"did:test:a:b"⟩ rfl⟩

end DidKeys
