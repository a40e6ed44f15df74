import DidKeys.Did.Document
import DidKeys.Proofs.Did.LongForm

/-! # Long identifiers certify themselves

An identifier that validates says in its text what validation finds out: its suffix is the digest of
its payload, and its short form and its document follow (`canonicalSuffix?_of_validateLongForm`,
`canonical?_of_validateLongForm`, `resolve_of_validateLongForm`).

So two identifiers with one suffix that both validate are one text with one state, or carry two
payloads with one digest (`eq_or_collision_of_canonicalSuffix?_eq`).  Payloads that spell one state
in two ways do not make an exception. -/

namespace DidKeys.Did

/-! ### The text and what is read from it -/

section validated
variable {did : Did} {read : ValidatedLongForm}

/-- Only identifiers validate. -/
theorem parse_of_validateLongForm (h : did.validateLongForm = .ok read) :
    parse did.value = .ok did := by
  obtain ⟨payload, rfl, hdecode, _⟩ := validateLongForm_eq_ok_iff.1 h
  exact parse_ofPayload (Operation.ne_nil_of_decode hdecode)

theorem canonicalSuffix?_of_validateLongForm (h : did.validateLongForm = .ok read) :
    did.canonicalSuffix? = some read.suffix := by
  obtain ⟨payload, rfl, hdecode, hhash⟩ := validateLongForm_eq_ok_iff.1 h
  rw [canonicalSuffix?_ofPayload (Operation.ne_nil_of_decode hdecode), ValidatedLongForm.suffix,
    hhash]

theorem canonical?_of_validateLongForm (h : did.validateLongForm = .ok read) :
    did.canonical? = some read.canonical := by
  rw [canonical?, canonicalSuffix?_of_validateLongForm h]
  rfl

theorem resolve_of_validateLongForm (h : did.validateLongForm = .ok read) :
    Document.resolve did = .ok (Document.ofValidated did read) := by
  rw [Document.resolve, h]
  rfl

end validated

/-! ### One suffix, one identifier -/

section two
variable {first second : Did} {firstRead secondRead : ValidatedLongForm}

/-- The payloads with one digest are equal, and then so are the texts made of them. -/
theorem eq_or_payloads_collide (hfirst : first.validateLongForm = .ok firstRead)
    (hsecond : second.validateLongForm = .ok secondRead)
    (hsuffix : first.canonicalSuffix? = second.canonicalSuffix?) :
    first = second ∨ ∃ p q, first.payload? = some p ∧ second.payload? = some q ∧ p ≠ q ∧
      sha256 p = sha256 q := by
  obtain ⟨p, rfl, hp, _⟩ := validateLongForm_eq_ok_iff.1 hfirst
  obtain ⟨q, rfl, hq, _⟩ := validateLongForm_eq_ok_iff.1 hsecond
  have hpne := Operation.ne_nil_of_decode hp
  have hqne := Operation.ne_nil_of_decode hq
  rw [canonicalSuffix?_ofPayload hpne, canonicalSuffix?_ofPayload hqne,
    Option.some.injEq] at hsuffix
  -- both texts are written from their payloads alone
  by_cases hpq : p = q
  · exact .inl (congrArg ofPayload hpq)
  · exact .inr ⟨p, q, payload?_ofPayload hpne, payload?_ofPayload hqne, hpq,
      Digest.eq_of_hex hsuffix⟩

/-- Two identifiers that validate and have one suffix are the same text, with the same state, master
key and document, or carry two payloads with one digest.  In each, the suffix, the short form and
the short form in the document are the ones that validation finds. -/
theorem eq_or_collision_of_canonicalSuffix?_eq (hfirst : first.validateLongForm = .ok firstRead)
    (hsecond : second.validateLongForm = .ok secondRead) :
    (first.canonicalSuffix? = second.canonicalSuffix? →
      (first = second ∧ firstRead.initialState = secondRead.initialState ∧
        firstRead.masterPublicKey = secondRead.masterPublicKey ∧
        Document.resolve first = Document.resolve second) ∨
      ∃ p q, first.payload? = some p ∧ second.payload? = some q ∧ p ≠ q ∧ sha256 p = sha256 q) ∧
    parse first.value = .ok first ∧
    first.canonicalSuffix? = some firstRead.suffix ∧
    first.canonical? = some firstRead.canonical ∧
    ∃ doc, Document.resolve first = .ok doc ∧ doc.canonicalId = firstRead.canonical.value := by
  refine ⟨?_, parse_of_validateLongForm hfirst, canonicalSuffix?_of_validateLongForm hfirst,
    canonical?_of_validateLongForm hfirst, _, resolve_of_validateLongForm hfirst, rfl⟩
  intro hsuffix
  rcases eq_or_payloads_collide hfirst hsecond hsuffix with rfl | hcollide
  · rw [hfirst, Except.ok.injEq] at hsecond
    subst hsecond
    exact .inl ⟨rfl, rfl, rfl, rfl⟩
  · exact .inr hcollide

/-- Two identifiers of one state, of which the second carries a field that nobody knows. -/
theorem eq_or_collision_of_canonicalSuffix?_eq_unknown_field :
    let payload : Bytes := [10, 6, 10, 4, 18, 2, 66, 0]
    let longer : Bytes := payload ++ [16, 0]
    let state : Operation := ⟨[⟨"", .unknown, ⟨"", [], []⟩⟩]⟩
    (ofPayload payload).validateLongForm = .ok ⟨sha256 payload, state⟩ ∧
      (ofPayload longer).validateLongForm = .ok ⟨sha256 longer, state⟩ ∧
      (ofPayload longer).canonical? = some (ofHash (sha256 longer)) ∧
      ((ofPayload payload).canonicalSuffix? = (ofPayload longer).canonicalSuffix? →
        ofPayload payload = ofPayload longer ∨ ∃ p q, (ofPayload payload).payload? = some p ∧
          (ofPayload longer).payload? = some q ∧ p ≠ q ∧ sha256 p = sha256 q) := by
  intro payload longer state
  have hpayload : (ofPayload payload).validateLongForm = .ok ⟨sha256 payload, state⟩ :=
    validateLongForm_eq_ok_iff.2 ⟨payload, rfl, by decide +kernel, rfl⟩
  have hlonger : (ofPayload longer).validateLongForm = .ok ⟨sha256 longer, state⟩ :=
    validateLongForm_eq_ok_iff.2 ⟨longer, rfl, by decide +kernel, rfl⟩
  refine ⟨hpayload, hlonger, ?_, fun hsuffix => ?_⟩
  · exact (eq_or_collision_of_canonicalSuffix?_eq hlonger hpayload).2.2.2.1
  · exact ((eq_or_collision_of_canonicalSuffix?_eq hpayload hlonger).1 hsuffix).imp_left And.left

end two
end DidKeys.Did
