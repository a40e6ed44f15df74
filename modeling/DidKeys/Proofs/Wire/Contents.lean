import DidKeys.Proofs.Bytes.Utf8
import DidKeys.Proofs.Readings
import DidKeys.Wire.Field

/-! # What fields hold

The questions that a reader asks of some fields are answered by the contents with one tag, all of
which have to be of the wanted kind.  For each question one statement says when it is answered and
how: with the last content that counts, or the default if there is none (`text?_eq_some_iff`,
`bytes?_eq_some_iff`, `number?_eq_some_iff`), or with all messages in a row
(`message?_eq_some_iff`). -/

namespace DidKeys.Wire

/-- All contents with a tag are byte strings, and these are they. -/
def HoldsBytes (tag : Nat) (fields : List Field) (parts : List Bytes) : Prop :=
  contents tag fields = parts.map .delimited

/-- All contents with a tag are texts, and these are they. -/
def HoldsTexts (tag : Nat) (fields : List Field) (texts : List String) : Prop :=
  HoldsBytes tag fields (texts.map Bytes.ofString)

/-- All contents with a tag are numbers, and these are they. -/
def HoldsNumbers (tag : Nat) (fields : List Field) (values : List Nat) : Prop :=
  contents tag fields = values.map .varint

section questions
variable {limit tag : Nat} {fields : List Field}

theorem delimited?_eq_some_iff {parts : List Bytes} :
    delimited? tag fields = some parts ↔ HoldsBytes tag fields parts := by
  refine mapM_eq_some_iff_of_make fun content part => ?_
  cases content <;> simp

theorem varints?_eq_some_iff {values : List Nat} :
    varints? tag fields = some values ↔ HoldsNumbers tag fields values := by
  refine mapM_eq_some_iff_of_make fun content value => ?_
  cases content <;> simp

theorem bytes?_eq_some_iff {content : Bytes} :
    bytes? tag fields = some content ↔
      ∃ parts, HoldsBytes tag fields parts ∧ parts.getLast?.getD [] = content := by
  simp [bytes?, delimited?_eq_some_iff, Option.bind_eq_some_iff]

theorem number?_eq_some_iff {value : Nat} :
    number? tag fields = some value ↔
      ∃ values, HoldsNumbers tag fields values ∧ values.getLast?.getD 0 = value := by
  simp [number?, varints?_eq_some_iff, Option.bind_eq_some_iff]

theorem text?_eq_some_iff {text : String} :
    text? tag fields = some text ↔
      ∃ texts, HoldsTexts tag fields texts ∧ texts.getLast?.getD "" = text := by
  have hread : ∀ {parts : List Bytes} {texts : List String},
      parts.mapM Bytes.toString? = some texts ↔ parts = texts.map Bytes.ofString :=
    mapM_eq_some_iff_of_make fun _ _ => Bytes.toString?_eq_some_iff
  simp only [text?, Option.bind_eq_bind, Option.bind_eq_some_iff, delimited?_eq_some_iff, hread,
    Option.pure_def, Option.some.injEq]
  constructor
  · rintro ⟨parts, hparts, texts, rfl, hlast⟩
    exact ⟨texts, hparts, hlast⟩
  · rintro ⟨texts, htexts, hlast⟩
    exact ⟨_, htexts, texts, rfl, hlast⟩

theorem messages?_eq_some_iff {messages : List (List Field)} :
    messages? limit tag fields = some messages ↔
      ∃ parts, HoldsBytes tag fields parts ∧
        List.Forall₂ (fun part message => fields? limit part = some message) parts messages := by
  simp only [messages?, Option.bind_eq_bind, Option.bind_eq_some_iff, delimited?_eq_some_iff,
    mapM_eq_some_iff]

theorem message?_eq_none_iff :
    message? limit tag fields = some none ↔ messages? limit tag fields = some [] := by
  rw [message?, Option.bind_eq_bind, Option.bind_eq_some_iff]
  constructor
  · rintro ⟨messages, hmessages, hdone⟩
    split at hdone
    · exact hmessages
    · cases hdone
  · intro h
    exact ⟨[], h, rfl⟩

theorem message?_eq_some_iff {message : List Field} :
    message? limit tag fields = some (some message) ↔
      ∃ messages, messages? limit tag fields = some messages ∧ messages ≠ [] ∧
        messages.flatten = message := by
  rw [message?, Option.bind_eq_bind, Option.bind_eq_some_iff]
  refine exists_congr fun messages => and_congr_right fun _ => ?_
  cases messages <;> simp

end questions
end DidKeys.Wire
