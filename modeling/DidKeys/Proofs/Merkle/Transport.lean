import DidKeys.Merkle.Json
import DidKeys.Proofs.Bytes.Hex
import DidKeys.Proofs.Json.Domains

/-! # Inclusion proofs as texts

`InclusionProof.Verdict text outcome` says what becomes of a text that is read as a proof, one rule
for each way it can end: a text of another shape is refused for its shape, whatever its digests are,
and a record for the first digest in it that is none, the leaf before the siblings.  It speaks of
texts of JSON values and of hexadecimal digits and mentions no reader.

Reading comes to the outcome of the verdict, and takes a proof back that was written
(`InclusionProof.decode_exact`). -/

namespace DidKeys.Merkle.InclusionProof

/-- A text that is a record of a text, a number of 32 bits and some texts. -/
def IsRecordOf (hash : String) (index : UInt32) (siblings : List String) (text : String) : Prop :=
  ∃ value spelling spellings, Json.IsJson text.toList value ∧
    Json.IsRecord value ["hash", "index", "siblings"]
      [.string spelling, .nat index.toNat, .array (spellings.map Json.string)] ∧
    Json.Means spelling hash ∧ List.Forall₂ Json.Means spellings siblings

/-- A text, and what becomes of it as a proof. -/
inductive Verdict (text : String) : Except MerkleError InclusionProof → Prop where
  /-- The text does not have the shape of a proof. -/
  | badRecord (no_record : ∀ hash index siblings, ¬IsRecordOf hash index siblings text) :
      Verdict text (.error .badRecord)
  /-- The leaf is no digest. -/
  | badHash {hash : String} {index : UInt32} {siblings : List String} {cause : Hex.Error}
      (is_record : IsRecordOf hash index siblings text)
      (fault : Hex.Fault 32 (Bytes.ofString hash) cause) :
      Verdict text (.error (.badDigest cause))
  /-- The leaf is a digest, and so is each sibling in front of one that is none. -/
  | badSibling {hash sibling : String} {index : UInt32} {before after : List String}
      {digest : Digest} {digests : List Digest} {cause : Hex.Error}
      (is_record : IsRecordOf hash index (before ++ sibling :: after) text)
      (hash_digits : hash.toLower = digest.hex)
      (before_digits : before.map String.toLower = digests.map Digest.hex)
      (fault : Hex.Fault 32 (Bytes.ofString sibling) cause) :
      Verdict text (.error (.badDigest cause))
  /-- The leaf and the siblings are digests, in digits of either case. -/
  | ok {hash : String} {siblings : List String} {proof : InclusionProof}
      (is_record : IsRecordOf hash proof.index siblings text)
      (hash_digits : hash.toLower = proof.hash.hex)
      (siblings_digits : siblings.map String.toLower = proof.siblings.map Digest.hex) :
      Verdict text (.ok proof)

section reading
variable {value : Json} {text hash : String} {index : UInt32} {siblings : List String}
  {outcome : Except MerkleError InclusionProof}

/-! ### The shape of a proof -/

theorem partsOfJson?_eq_some_iff (h : value.WellSpelled) :
    partsOfJson? value = some (hash, index, siblings) ↔ ∃ spelling spellings,
      Json.IsRecord value ["hash", "index", "siblings"]
        [.string spelling, .nat index.toNat, .array (spellings.map Json.string)] ∧
      Json.Means spelling hash ∧ List.Forall₂ Json.Means spellings siblings := by
  simp only [← Json.allFields?_eq_some_iff h]
  constructor
  · intro hparts
    obtain ⟨fields, hfields, hread⟩ := Option.bind_eq_some_iff.mp hparts
    have hspelled := ((Json.allFields?_eq_some_iff h).mp hfields).wellSpelled h
    split at hread
    · next first second third =>
      simp only [List.forall_mem_cons] at hspelled
      obtain ⟨hfirst, hsecond, hthird, -⟩ := hspelled
      simp only [Option.bind_eq_bind, Option.bind_eq_some_iff, Option.pure_def,
        Option.some.injEq, Prod.mk.injEq] at hread
      obtain ⟨hash, htext, n, hnat, items, hitems, texts, htexts, rfl, rfl, rfl⟩ := hread
      obtain ⟨spelling, rfl, hmeans⟩ := (Json.text?_eq_some_iff hfirst).mp htext
      obtain ⟨rfl, hlt⟩ := (Json.nat?_eq_some_iff_of_wellSpelled hsecond).mp hnat
      obtain rfl := Json.items?_eq_some_iff.mp hitems
      cases hthird with
      | array items_spelled =>
          obtain ⟨spellings, rfl, hall⟩ := (Json.mapM_text?_eq_some_iff items_spelled).mp htexts
          rw [UInt32.toNat_ofNat_of_lt' hlt]
          exact ⟨spelling, spellings, hfields, hmeans, hall⟩
    · cases hread
  · rintro ⟨spelling, spellings, hfields, hmeans, hall⟩
    have hspelled := ((Json.allFields?_eq_some_iff h).mp hfields).wellSpelled h
    simp only [List.forall_mem_cons] at hspelled
    obtain ⟨hfirst, -, hthird, -⟩ := hspelled
    have htext := (Json.text?_eq_some_iff hfirst).mpr ⟨spelling, rfl, hmeans⟩
    have hnat := Json.nat?_nat index.toNat_lt
    cases hthird with
    | array items_spelled =>
        have htexts := (Json.mapM_text?_eq_some_iff items_spelled).mpr ⟨spellings, rfl, hall⟩
        simp only [partsOfJson?, hfields, htext, UInt32.size, hnat, Json.items?, htexts,
          Option.bind_eq_bind, Option.bind_some, Option.pure_def, UInt32.ofNat_toNat]

/-- The parts of a proof are found exactly in the records of them. -/
theorem readParts_eq_ok_iff :
    Json.read (ε := Empty) (fun value => Json.demand (partsOfJson? value)) text =
        .ok (hash, index, siblings) ↔ IsRecordOf hash index siblings text := by
  rw [Json.read_eq_ok_iff]
  constructor
  · rintro ⟨value, hjson, hparts⟩
    obtain ⟨spelling, spellings, hrecord, hmeans⟩ :=
      (partsOfJson?_eq_some_iff hjson.wellSpelled).mp (Json.demand_eq_ok_iff.mp hparts)
    exact ⟨value, spelling, spellings, hjson, hrecord, hmeans⟩
  · rintro ⟨value, spelling, spellings, hjson, hrecord, hmeans⟩
    exact ⟨value, hjson, Json.demand_eq_ok_iff.mpr
      ((partsOfJson?_eq_some_iff hjson.wellSpelled).mpr ⟨spelling, spellings, hrecord, hmeans⟩)⟩

theorem decode_of_isRecordOf (h : IsRecordOf hash index siblings text) :
    decode text = do
      let hash ← (Digest.ofHex hash).mapError .badDigest
      let siblings ← (siblings.mapM Digest.ofHex).mapError .badDigest
      return ⟨hash, index, siblings⟩ := by
  rw [decode, readParts_eq_ok_iff.mpr h]

theorem decode_of_no_record (h : ∀ hash index siblings, ¬IsRecordOf hash index siblings text) :
    decode text = .error .badRecord := by
  rw [decode]
  split
  · rfl
  · next hread => exact absurd (readParts_eq_ok_iff.mp hread) (h _ _ _)

/-! ### The digests of a proof -/

theorem forall₂_ofHex_iff {digests : List Digest} :
    List.Forall₂ (fun text digest => Digest.ofHex text = .ok digest) siblings digests ↔
      siblings.map String.toLower = digests.map Digest.hex := by
  simp only [Digest.ofHex_eq_ok_iff]
  rw [← List.forall₂_eq_eq_eq, List.forall₂_map_left_iff, List.forall₂_map_right_iff]

theorem Verdict.decode (h : Verdict text outcome) : InclusionProof.decode text = outcome := by
  cases h with
  | badRecord no_record => exact decode_of_no_record no_record
  | badHash is_record fault =>
      rw [decode_of_isRecordOf is_record, Digest.ofHex_eq_error_iff.mpr fault]
      rfl
  | @badSibling _ sibling _ before after _ digests _ is_record hash_digits before_digits fault =>
      have hsiblings := mapM_eq_error_iff.mpr ⟨before, sibling, after, rfl,
        ⟨digests, forall₂_ofHex_iff.mpr before_digits⟩, Digest.ofHex_eq_error_iff.mpr fault⟩
      rw [decode_of_isRecordOf is_record, Digest.ofHex_eq_ok_iff.mpr hash_digits, hsiblings]
      rfl
  | ok is_record hash_digits siblings_digits =>
      have hsiblings := mapM_eq_ok_iff.mpr (forall₂_ofHex_iff.mpr siblings_digits)
      rw [decode_of_isRecordOf is_record, Digest.ofHex_eq_ok_iff.mpr hash_digits, hsiblings]
      rfl

/-- There is a verdict on each text. -/
theorem verdict_decode (text : String) : Verdict text (decode text) := by
  by_cases hrecord : ∃ hash index siblings, IsRecordOf hash index siblings text
  · obtain ⟨hash, index, siblings, hrecord⟩ := hrecord
    rw [decode_of_isRecordOf hrecord]
    cases hhash : Digest.ofHex hash with
    | error cause => exact .badHash hrecord (Digest.ofHex_eq_error_iff.mp hhash)
    | ok digest =>
        have hdigest := Digest.ofHex_eq_ok_iff.mp hhash
        cases hsiblings : siblings.mapM Digest.ofHex with
        | error cause =>
            obtain ⟨before, sibling, after, rfl, ⟨digests, hbefore⟩, hfault⟩ :=
              mapM_eq_error_iff.mp hsiblings
            exact .badSibling hrecord hdigest (forall₂_ofHex_iff.mp hbefore)
              (Digest.ofHex_eq_error_iff.mp hfault)
        | ok digests =>
            have hdigests := forall₂_ofHex_iff.mp (mapM_eq_ok_iff.mp hsiblings)
            have hverdict : Verdict text (.ok ⟨digest, index, digests⟩) :=
              .ok hrecord hdigest hdigests
            exact hverdict
  · have hnone : ∀ hash index siblings, ¬IsRecordOf hash index siblings text :=
      fun hash index siblings h => hrecord ⟨hash, index, siblings, h⟩
    rw [decode_of_no_record hnone]
    exact .badRecord hnone

end reading

/-! ### Writing -/

theorem wellSpelled_toJson (proof : InclusionProof) : proof.toJson.WellSpelled := by
  have hsiblings := Json.wellSpelled_array_map (fun d : Digest => Json.wellSpelled_text d.hex)
    proof.siblings
  refine Json.wellSpelled_record ?_
  simp only [List.forall_mem_cons]
  exact ⟨Json.wellSpelled_text _, Json.wellSpelled_nat _, hsiblings, List.forall_mem_nil _⟩

/-- A written proof is a record of its parts. -/
theorem isRecordOf_encode (proof : InclusionProof) :
    IsRecordOf proof.hash.hex proof.index (proof.siblings.map Digest.hex) proof.encode := by
  have hspelled := proof.wellSpelled_toJson
  have hfields : proof.toJson.allFields? ["hash", "index", "siblings"] =
      some [.text proof.hash.hex, .nat proof.index.toNat,
        .array (proof.siblings.map fun sibling => .text sibling.hex)] :=
    Json.allFields?_record rfl (by decide)
  refine ⟨proof.toJson, Json.escape proof.hash.hex.toList,
    proof.siblings.map fun sibling => Json.escape sibling.hex.toList, ?_, ?_, ?_, ?_⟩
  · exact hspelled.isJson_write .compact
  · rw [List.map_map]
    exact (Json.allFields?_eq_some_iff hspelled).mp hfields
  · exact Json.means_escape _
  · rw [List.forall₂_map_left_iff, List.forall₂_map_right_iff]
    exact List.forall₂_same.mpr fun sibling _ => Json.means_escape _

theorem toLower_hex (digest : Digest) : digest.hex.toLower = digest.hex :=
  Digest.ofHex_eq_ok_iff.mp digest.ofHex_hex

/-- A proof comes back from its text, and any text is taken for what the verdict on it says. -/
theorem decode_exact :
    (∀ proof : InclusionProof, decode proof.encode = .ok proof) ∧
      ∀ (text : String) (outcome : Except MerkleError InclusionProof),
        decode text = outcome ↔ Verdict text outcome := by
  refine ⟨fun proof => ?_, fun text outcome => ⟨?_, Verdict.decode⟩⟩
  · refine Verdict.decode (.ok proof.isRecordOf_encode (toLower_hex _) ?_)
    rw [List.map_map]
    exact List.map_congr_left fun sibling _ => toLower_hex sibling
  · rintro rfl
    exact verdict_decode text

/-- Escapes are understood in a member that is not asked for, too. -/
example :
    decode ("\x7b\"note\":\"\\n\\/\\u00e9\",\"index\":5,\"siblings\":[],\"hash\":\"" ++
      String.ofList (List.replicate 64 '0') ++ "\"\x7d") =
      .ok ⟨⟨List.replicate 32 0, by decide⟩, 5, []⟩ := by
  decide +kernel

end DidKeys.Merkle.InclusionProof
