import DidKeys.Did.Document
import DidKeys.Proofs.Json.Reading
import DidKeys.Proofs.Json.Record

/-! # Documents in JSON and back

A document that is written and read again is the same document, whatever stands in its texts
(`Document.readJson_write`).  So a text is written for one document only, and a document is judged
after the way there and back as before (`Document.write_faithful`). -/

namespace DidKeys

theorem textsOfJson?_textsToJson (texts : List String) :
    textsOfJson? (textsToJson texts) = some texts :=
  mapM_map Json.text?_text texts

@[simp] theorem wellSpelled_textsToJson (texts : List String) : (textsToJson texts).WellSpelled :=
  Json.wellSpelled_array_map Json.wellSpelled_text texts

/-! ### Keys -/

namespace WebKey

@[simp] theorem ofJson?_toJson (key : WebKey) : ofJson? key.toJson = some key := by
  have hfields : key.toJson.allFields? ["kty", "crv", "x", "y"] =
      some [.text key.kty, .text key.crv, .text key.x, .text key.y] :=
    Json.allFields?_record rfl (by decide)
  simp only [ofJson?, hfields, Option.bind_eq_bind, Option.bind_some, Json.text?_text,
    Option.pure_def]

@[simp] theorem wellSpelled_toJson (key : WebKey) : key.toJson.WellSpelled :=
  Json.wellSpelled_record (by simp)

end WebKey

namespace VerificationMethod

@[simp] theorem ofJson?_toJson (m : VerificationMethod) : ofJson? m.toJson = some m := by
  have hfields : m.toJson.allFields? ["id", "type", "controller", "publicKeyJwk"] =
      some [.text m.id, .text m.type, .text m.controller, m.publicKey.toJson] :=
    Json.allFields?_record rfl (by decide)
  simp only [ofJson?, hfields, Option.bind_eq_bind, Option.bind_some, Json.text?_text,
    WebKey.ofJson?_toJson, Option.pure_def]

theorem wellSpelled_toJson (m : VerificationMethod) : m.toJson.WellSpelled :=
  Json.wellSpelled_record (by simp)

end VerificationMethod

/-! ### Documents -/

namespace Document

/-- The record of a document describes it. -/
theorem ofJson?_toJson (doc : Document) : ofJson? doc.toJson = some doc := by
  have hfields : doc.toJson.allFields? ["@context", "id", "canonicalId", "verificationMethod",
      "authentication", "assertionMethod"] = some [textsToJson doc.context, .text doc.id,
        .text doc.canonicalId, .array (doc.verificationMethod.map VerificationMethod.toJson),
        textsToJson doc.authentication, textsToJson doc.assertionMethod] :=
    Json.allFields?_record rfl (by decide)
  have hmethods : (doc.verificationMethod.map VerificationMethod.toJson).mapM
      VerificationMethod.ofJson? = some doc.verificationMethod :=
    mapM_map VerificationMethod.ofJson?_toJson _
  simp only [ofJson?, hfields, Option.bind_eq_bind, Option.bind_some, Json.text?_text, Json.items?,
    textsOfJson?_textsToJson, hmethods, Option.pure_def]

theorem wellSpelled_toJson (doc : Document) : doc.toJson.WellSpelled := by
  have hmethods := Json.wellSpelled_array_map VerificationMethod.wellSpelled_toJson
    doc.verificationMethod
  exact Json.wellSpelled_record (by simp [hmethods])

theorem isJson_write (doc : Document) : Json.IsJson doc.write.toList doc.toJson :=
  doc.wellSpelled_toJson.isJson_write .indented

theorem readJson_write (doc : Document) : readJson doc.write = .ok doc := by
  rw [readJson, doc.isJson_write.read_eq, ofJson?_toJson]
  rfl

/-- Any document is written as a text of its record and comes back from it as it was, so no two are
written alike, and the verdict on it stays the same. -/
theorem write_faithful :
    (∀ doc : Document, Json.IsJson doc.write.toList doc.toJson ∧ readJson doc.write = .ok doc) ∧
      Function.Injective write ∧
      ∀ doc : Document, (readJson doc.write).map validate = .ok doc.validate := by
  refine ⟨fun doc => ⟨doc.isJson_write, doc.readJson_write⟩, fun doc other h => ?_, fun doc => ?_⟩
  · have heq := congrArg readJson h
    rw [readJson_write, readJson_write] at heq
    exact Except.ok.inj heq
  · rw [readJson_write]
    rfl

end Document
end DidKeys
